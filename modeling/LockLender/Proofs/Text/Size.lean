import Mathlib.Algebra.GroupWithZero.Nat
import LockLender.Proofs.Text.Utf8
import LockLender.Text.Quoted

namespace LockLender

theorem Except.map_eq_error {ε α β : Type} {one : Except ε α} {f : α → β} {fault : ε} :
    one.map f = .error fault ↔ one = .error fault := by
  cases one with
  | error other =>
      unfold Except.map
      rw [Except.error.injEq,Except.error.injEq]
  | ok a => exact ⟨nofun,nofun⟩

theorem Except.bind_eq_error {ε α β : Type} {one : Except ε α} {two : α → Except ε β} {fault : ε} :
    (one >>= two) = .error fault ↔ one = .error fault ∨ ∃ a, one = .ok a ∧ two a = .error fault := by
  cases one with
  | error other =>
      constructor
      · intro refused
        exact .inl (Except.error.inj refused ▸ rfl)
      · rintro (same | ⟨_,read,_⟩)
        · exact Except.error.inj same ▸ rfl
        · cases read
  | ok a =>
      constructor
      · intro refused
        exact .inr ⟨a,rfl,refused⟩
      · rintro (same | ⟨_,read,refused⟩)
        · cases same
        · cases read
          exact refused

namespace Utf8

def size (text : String) : Nat := (encode text).length

theorem size_eq (text : String) : size text = (text.toList.map Char.utf8Size).sum := by
  have each : (fun c => (String.utf8EncodeChar c).length) = Char.utf8Size := funext String.length_utf8EncodeChar
  unfold size encode
  rw [List.length_flatMap,each]

theorem size_append (one two : String) : size (one ++ two) = size one + size two := by
  rw [size_eq,size_eq,size_eq,String.toList_append,List.map_append,List.sum_append]

theorem size_plain {chars : List Char} (plain : ∀ c ∈ chars, c.utf8Size = 1) :
    size (String.ofList chars) = chars.length := by
  rw [size_eq,String.toList_ofList]
  induction chars with
  | nil => rfl
  | cons c rest ih =>
      have others := ih fun other member => plain other (List.mem_cons_of_mem _ member)
      rw [List.map_cons,List.sum_cons,plain c List.mem_cons_self,others,List.length_cons,Nat.add_comm]

end Utf8

namespace Numeral
variable {base n k : Nat}

theorem digitChar_plain (n : Nat) : (Nat.digitChar n).utf8Size = 1 := by
  have digits : ∀ n < 16, (Nat.digitChar n).utf8Size = 1 := by decide
  obtain small | large := Nat.lt_or_ge n 16
  · exact digits n small
  · rw [Nat.digitChar_eq_star.mpr large]
    rfl

theorem toDigits_plain (proper : 1 < base) : ∀ c ∈ Nat.toDigits base n, c.utf8Size = 1 := by
  induction n using Nat.strongRecOn with
  | _ n lower =>
      intro c member
      rw [Nat.toDigits_eq_if proper] at member
      split at member
      · rw [List.mem_singleton.mp member]
        exact digitChar_plain n
      · rename_i large
        have less : n / base < n := Nat.div_lt_self (by omega) proper
        obtain front | last := List.mem_append.mp member
        · exact lower _ less c front
        · rw [List.mem_singleton.mp last]
          exact digitChar_plain _

theorem size_decimal (few : n < 10 ^ k) (positive : 0 < k) : Utf8.size (decimal n) ≤ k := by
  unfold decimal
  rw [Utf8.size_plain (toDigits_plain (by decide))]
  exact (Nat.length_toDigits_le_iff (by decide) positive).mpr few

theorem size_shortHex (few : n < 16 ^ k) (positive : 0 < k) : Utf8.size (shortHex n) ≤ k := by
  unfold shortHex
  rw [Utf8.size_plain (toDigits_plain (by decide))]
  exact (Nat.length_toDigits_le_iff (by decide) positive).mpr few

theorem size_word (n : UInt64) : Utf8.size (decimal n.toNat) ≤ 20 :=
  size_decimal (Nat.lt_trans n.toNat_lt (by decide)) (by decide)

theorem size_decimal_le (n : Nat) : Utf8.size (decimal n) ≤ n + 1 := by
  apply size_decimal _ (Nat.succ_pos n)
  exact Nat.lt_trans (Nat.lt_succ_self n) (Nat.lt_pow_self (by decide))

end Numeral

namespace Utf8
variable {bytes : Bytes} {fault : Fault}

-- At most three octets can begin no character together.
theorem invalid_le {n : Nat} (found : front bytes = .flaw (.invalid n)) : n ≤ 3 := by
  unfold front at found
  repeat' split at found
  all_goals
    cases found
    try decide

theorem charsFrom_error {fuel index : Nat} (refused : charsFrom fuel index bytes = .error fault) :
    fault.index ≤ index + bytes.length ∧ ∀ n, fault.flaw = .invalid n → n ≤ 3 := by
  -- The index grows by what is dropped, so that their sum stays within bounds.
  induction fuel generalizing index bytes with
  | zero => cases refused
  | succ fuel ih =>
      unfold charsFrom at refused
      split at refused
      · cases refused
      · rename_i flaw found
        cases refused
        refine ⟨Nat.le_add_right _ _,?_⟩
        rintro n rfl
        exact invalid_le found
      · rename_i c size found
        obtain ⟨octets,_,length,begins⟩ := spells_of_front found
        have within := begins.length_le
        obtain ⟨lower,small⟩ := ih (Except.map_eq_error.mp refused)
        rw [List.length_drop] at lower
        exact ⟨by omega,small⟩

theorem size_fault (refused : decode bytes = .error fault) : size fault.message ≤ bytes.length + 50 := by
  obtain ⟨lower,small⟩ := charsFrom_error (Except.map_eq_error.mp refused)
  have index := Numeral.size_decimal_le fault.index
  unfold Fault.message
  split
  · rename_i n invalid
    have digit : size (Numeral.decimal n) ≤ 1 :=
      Numeral.size_decimal (Nat.lt_of_le_of_lt (small n invalid) (by decide)) (by decide)
    rw [size_append,size_append,size_append]
    change 26 + _ + 18 + _ ≤ _
    omega
  · rw [size_append]
    change 42 + _ ≤ _
    omega

end Utf8

namespace Quoted
open Utf8

-- The number of a character, in braces, has a digit for each four bits.
theorem size_codePoint (c : Char) : size (codePoint c) ≤ 6 * c.utf8Size := by
  have braces : size (codePoint c) = 3 + size (Numeral.shortHex c.toNat) + 1 := by
    unfold codePoint
    rw [size_append,size_append]
    rfl
  have octets (k : Nat) (positive : 0 < k) (few : c.toNat < 16 ^ k) : size (Numeral.shortHex c.toNat) ≤ k :=
    Numeral.size_shortHex few positive
  have valid : c.toNat.isValidChar := c.valid
  unfold Nat.isValidChar at valid
  rw [braces]
  obtain one | two | three | four := Char.utf8Size_eq c
  · have upper := UInt32.le_iff_toNat_le.mp (Char.utf8Size_eq_one_iff.mp one)
    have digits := octets 2 (by decide) (Nat.lt_of_le_of_lt upper (by decide))
    omega
  · have upper := UInt32.le_iff_toNat_le.mp (Char.utf8Size_eq_two_iff.mp two).2
    have digits := octets 3 (by decide) (Nat.lt_of_le_of_lt upper (by decide))
    omega
  · have upper := UInt32.le_iff_toNat_le.mp (Char.utf8Size_eq_three_iff.mp three).2
    have digits := octets 4 (by decide) (Nat.lt_of_le_of_lt upper (by decide))
    omega
  · have digits := octets 6 (by decide) (by omega)
    omega

theorem size_escape (c : Char) : size (escape c) ≤ 6 * c.utf8Size := by
  have positive := c.utf8Size_pos
  have two (text : String) (short : size text = 2) : size text ≤ 6 * c.utf8Size := by omega
  have same : size c.toString ≤ 6 * c.utf8Size := by
    rw [size_eq,Char.toString,String.toList_singleton]
    simp only [List.map_cons,List.map_nil,List.sum_cons,List.sum_nil]
    omega
  unfold escape
  iterate 6
    split
    · exact two _ rfl
  split
  · exact same
  · split
    · exact size_codePoint c
    · exact same

theorem size_quoted (text : String) : size (quoted text) = 2 + (text.toList.map fun c => size (escape c)).sum := by
  have inside (chars : List Char) : size (String.join (chars.map escape)) = (chars.map fun c => size (escape c)).sum := by
    induction chars with
    | nil => rfl
    | cons c rest ih => rw [List.map_cons,String.join_cons,size_append,ih,List.map_cons,List.sum_cons]
  unfold quoted
  rw [size_append,size_append,inside]
  change 1 + _ + 1 = _
  omega

theorem size_quoted_le (text : String) : size (quoted text) ≤ 2 + 6 * size text := by
  have each (chars : List Char) :
      (chars.map fun c => size (escape c)).sum ≤ 6 * (chars.map Char.utf8Size).sum := by
    induction chars with
    | nil => exact Nat.le_refl _
    | cons c rest ih =>
        have first := size_escape c
        simp only [List.map_cons,List.sum_cons]
        omega
  have sum := each text.toList
  rw [size_quoted,size_eq text]
  omega

end Quoted
end LockLender
