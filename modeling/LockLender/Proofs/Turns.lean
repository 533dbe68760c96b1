import LockLender.Turns

namespace LockLender

inductive Settles {σ : Type} (turn : σ → Option σ) : σ → σ → Prop where
  | still (rests : turn s = none) : Settles turn s s
  | turn (ran : turn s = some next) (rest : Settles turn next last) : Settles turn s last

namespace Settles
variable {σ : Type} {turn : σ → Option σ} {s last : σ}

theorem rests (settles : Settles turn s last) : turn last = none := by
  induction settles with
  | still rests => exact rests
  | turn _ _ ih => exact ih

theorem keeps {p : σ → Prop} (kept : ∀ s next, turn s = some next → p s → p next)
    (settles : Settles turn s last) (holds : p s) : p last := by
  induction settles with
  | still => exact holds
  | turn ran _ ih => exact ih (kept _ _ ran holds)

theorem of_rank (rank : σ → Nat) (falls : ∀ s next, turn s = some next → rank next < rank s)
    (s : σ) : Settles turn s (settle turn s) := by
  induction bound : rank s using Nat.strongRecOn generalizing s with
  | ind bound ih =>
      cases ran : turn s with
      | none =>
          rw [settle_none ran]
          exact .still ran
      | some next =>
          rw [settle_some ran]
          exact .turn ran (ih _ (bound ▸ falls s next ran) next rfl)

end Settles

section
variable {σ α β : Type} {act : OptionT (StateM σ) α} {rest : α → OptionT (StateM σ) β} {s next : σ} {a : α}

theorem done_bind (ran : act s = (some a,next)) : (act >>= rest) s = rest a next := by
  simp only [bind,OptionT.bind,OptionT.mk,StateT.bind,ran]

theorem stuck_bind (ran : act s = (none,next)) : (act >>= rest) s = (none,next) := by
  simp only [bind,OptionT.bind,OptionT.mk,StateT.bind,ran]
  rfl

end
end LockLender
