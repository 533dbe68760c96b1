namespace LockLender

def settle {σ : Type} (turn : σ → Option σ) (s : σ) : σ :=
  haveI : Nonempty σ := ⟨s⟩
  Id.run (repeatM (fun s => match turn s with
    | none => pure (.inr s)
    | some next => pure (.inl next)) s)

variable {σ : Type} {turn : σ → Option σ} {s next : σ}

theorem settle_none (still : turn s = none) : settle turn s = s := by
  have : Nonempty σ := ⟨s⟩
  unfold settle
  rw [repeatM_eq_of_monadTail]
  simp [still]

theorem settle_some (ran : turn s = some next) : settle turn s = settle turn next := by
  have : Nonempty σ := ⟨s⟩
  unfold settle
  rw [repeatM_eq_of_monadTail]
  simp [ran]

end LockLender
