namespace LockLender

structure Deed (σ α ε : Type) where
  before : σ
  act : α
  effects : ε
  after : σ

-- Where a system begins, what may be done to it when so much has happened, the
-- latest first, and what that does.
structure Machine (σ α ε : Type) where
  begins : σ → Prop
  allows : List (Deed σ α ε) → σ → α → Prop := fun _ _ _ => True
  step : σ → α → Option (σ × ε)

namespace Machine
variable {σ α ε : Type}

inductive Runs (machine : Machine σ α ε) : List (Deed σ α ε) → σ → Prop where
  | start (begins : machine.begins s) : Runs machine [] s
  | step {act : α} (runs : Runs machine past s) (allowed : machine.allows past s act)
      (ran : machine.step s act = some (next,effects)) : Runs machine (⟨s,act,effects,next⟩ :: past) next

def follow (machine : Machine σ α ε) [∀ past s act, Decidable (machine.allows past s act)]
    (past : List (Deed σ α ε)) (s : σ) : List α → List (Deed σ α ε) × σ
  | [] => (past,s)
  | act :: acts =>
    if machine.allows past s act then
      match machine.step s act with
      | none => (past,s)
      | some (next,effects) => follow machine (⟨s,act,effects,next⟩ :: past) next acts
    else (past,s)

variable {machine : Machine σ α ε} {past earlier later : List (Deed σ α ε)} {s : σ} {now : Deed σ α ε}

theorem follow_runs (machine : Machine σ α ε) [∀ past s act, Decidable (machine.allows past s act)]
    {past : List (Deed σ α ε)} {s : σ} (runs : machine.Runs past s) (acts : List α) :
    machine.Runs (machine.follow past s acts).1 (machine.follow past s acts).2 := by
  induction acts generalizing past s with
  | nil => exact runs
  | cons act acts ih =>
      unfold follow
      split
      · rename_i allowed
        split
        · exact runs
        · rename_i ran
          exact ih (runs.step allowed ran)
      · exact runs

namespace Runs

theorem latest (runs : machine.Runs (now :: past) s) : machine.Runs past now.before ∧
    machine.allows past now.before now.act ∧ machine.step now.before now.act = some (now.after,now.effects) ∧
    now.after = s := by
  cases runs with
  | step runs allowed ran => exact ⟨runs,allowed,ran,rfl⟩

theorem of_append (runs : machine.Runs (later ++ past) s) : ∃ then_, machine.Runs past then_ := by
  induction later generalizing s with
  | nil => exact ⟨s,runs⟩
  | cons now later ih => exact ih runs.latest.1

theorem of_suffix (runs : machine.Runs past s) (suffix : now :: earlier <:+ past) : machine.Runs earlier now.before ∧
    machine.allows earlier now.before now.act ∧
    machine.step now.before now.act = some (now.after,now.effects) := by
  obtain ⟨later,rfl⟩ := suffix
  obtain ⟨_,runs⟩ := runs.of_append
  obtain ⟨runs,allowed,ran,_⟩ := runs.latest
  exact ⟨runs,allowed,ran⟩

theorem of_mem (runs : machine.Runs past s) (member : now ∈ past) : ∃ earlier, machine.Runs earlier now.before ∧
    machine.allows earlier now.before now.act ∧
    machine.step now.before now.act = some (now.after,now.effects) := by
  obtain ⟨later,earlier,rfl⟩ := List.append_of_mem member
  exact ⟨earlier,runs.of_suffix (List.suffix_append _ _)⟩

theorem at_suffix (runs : machine.Runs past s) (suffix : now :: earlier <:+ past) :
    machine.Runs earlier now.before ∧ machine.Runs (now :: earlier) now.after := by
  obtain ⟨before,allowed,ran⟩ := runs.of_suffix suffix
  exact ⟨before,before.step allowed ran⟩

end Runs
end Machine
end LockLender
