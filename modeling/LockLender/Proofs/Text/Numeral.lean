import LockLender.Text.Numeral

namespace LockLender.Numeral
variable {n : Nat} {c : Char} {text : List Char}

theorem digit?_eq (digit : c.isDigit) : digit? c = some (c.toNat - '0'.toNat) := by
  unfold digit?
  rw [if_pos]
  simpa [Char.isDigit,Char.le_def] using digit

theorem isSome_digit? : (digit? c).isSome = c.isDigit := by
  unfold digit?
  split
  · rename_i bounds
    simpa [Char.isDigit,Char.le_def] using bounds
  · rename_i outside
    simpa [Char.isDigit,Char.le_def] using outside

theorem positional?_digits (digits : ∀ c ∈ text, c.isDigit) :
    positional? digit? 10 text = some (Nat.ofDigitChars 10 text 0) := by
  have from' (total : Nat) : text.foldl (fun total c => do return (← total) * 10 + (← digit? c)) (some total) =
      some (Nat.ofDigitChars 10 text total) := by
    induction text generalizing total with
    | nil => rfl
    | cons c rest ih =>
        have first := digit?_eq (digits c List.mem_cons_self)
        have others := ih fun other member => digits other (List.mem_cons_of_mem _ member)
        rw [List.foldl_cons,Nat.ofDigitChars_cons,first,Nat.mul_comm 10 total]
        exact others _
  exact from' 0

theorem toDigits_digits (n : Nat) : ∀ c ∈ Nat.toDigits 10 n, c.isDigit := by
  intro c member
  exact Nat.isDigit_of_mem_toDigits (by decide) (by decide) member

theorem toDigits_front (n : Nat) : ∃ c others, Nat.toDigits 10 n = c :: others ∧ c.isDigit := by
  obtain ⟨c,others,written⟩ := List.exists_cons_of_ne_nil (Nat.toDigits_ne_nil (b := 10) (n := n))
  exact ⟨c,others,written,toDigits_digits n c (written ▸ List.mem_cons_self)⟩

theorem positional?_toDigits (n : Nat) : positional? digit? 10 (Nat.toDigits 10 n) = some n := by
  rw [positional?_digits (toDigits_digits n),Nat.ofDigitChars_toDigits (by decide) (by decide)]

theorem toDigits_zero_front {rest : List Char} (written : Nat.toDigits 10 n = '0' :: rest) : rest = [] := by
  induction n using Nat.strongRecOn generalizing rest with
  | _ n lower =>
      rw [Nat.toDigits_eq_if (by decide)] at written
      split at written
      · exact (List.cons.inj written).2.symm
      · rename_i large
        obtain ⟨c,others,front,-⟩ := toDigits_front (n / 10)
        rw [front] at written
        obtain ⟨rfl,-⟩ := List.cons.inj written
        obtain rfl := lower (n / 10) (by omega) front
        have value := positional?_toDigits (n / 10)
        rw [front] at value
        have zero : 0 = n / 10 := Option.some.inj value
        omega

end LockLender.Numeral
