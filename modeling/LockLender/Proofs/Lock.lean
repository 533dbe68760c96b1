import Mathlib.Data.Set.Card.Arithmetic
import LockLender.Lock.Name

namespace LockLender

instance : Finite LockId := by
  apply Finite.of_injective fun lock : LockId => lock.number.toFin
  rintro ⟨one⟩ ⟨two⟩ same
  simpa [UInt64.toFin_inj] using same

namespace LockId

theorem sum_add (f g : LockId → Nat) : ∑ᶠ lock, (f lock + g lock) = ∑ᶠ lock, f lock + ∑ᶠ lock, g lock :=
  finsum_add_distrib (Set.toFinite _) (Set.toFinite _)

theorem sum_count (locks : List LockId) : ∑ᶠ lock, locks.count lock = locks.length := by
  induction locks with
  | nil => simp
  | cons first rest ih =>
      have one : ∑ᶠ lock, (if first == lock then 1 else 0) = 1 := by
        rw [finsum_eq_single _ first fun lock differ => if_neg (by simpa using Ne.symm differ)]
        simp
      simp only [List.count_cons,List.length_cons]
      rw [sum_add,ih,one]

theorem sum_where (p : LockId → Prop) [DecidablePred p] :
    ∑ᶠ lock, (if p lock then 1 else 0) = {lock | p lock}.ncard := by
  rw [← finsum_one]
  apply finsum_congr
  intro lock
  by_cases there : p lock <;> simp [there]

end LockId
end LockLender
