namespace LockLender

abbrev Bytes := List UInt8

namespace Bytes

def little : Nat → Nat → Bytes
  | 0, _ => []
  | width+1, n => UInt8.ofNat (n % 256) :: little width (n / 256)

def span : Nat → Nat
  | 0 => 1
  | width+1 => 256 * span width

def ofLittle : Bytes → Nat
  | [] => 0
  | b :: rest => b.toNat + 256 * ofLittle rest

def big (width n : Nat) : Bytes := (little width n).reverse

def ofBig (bytes : Bytes) : Nat := ofLittle bytes.reverse

def split? (n : Nat) (bytes : Bytes) : Option (Bytes × Bytes) :=
  if bytes.length < n then none else some (bytes.splitAt n)

@[simp] theorem little_length (width n : Nat) : (little width n).length = width := by
  induction width generalizing n with
  | zero => rfl
  | succ width ih => simp [little,ih]

theorem ofLittle_little (width n : Nat) : ofLittle (little width n) = n % span width := by
  induction width generalizing n with
  | zero => simp [little,ofLittle,span,Nat.mod_one]
  | succ width ih =>
      have low : (UInt8.ofNat (n % 256)).toNat = n % 256 := by
        simp [UInt8.toNat_ofNat']
      rw [little,ofLittle,ih,low,span,Nat.mod_mul]

theorem little_ofLittle (bytes : Bytes) : little bytes.length (ofLittle bytes) = bytes := by
  induction bytes with
  | nil => rfl
  | cons b rest ih =>
      have bound : b.toNat < 256 := b.toNat_lt
      have low : (b.toNat + 256 * ofLittle rest) % 256 = b.toNat := by omega
      have high : (b.toNat + 256 * ofLittle rest) / 256 = ofLittle rest := by omega
      simp [little,ofLittle,low,high,ih]

theorem ofLittle_lt (bytes : Bytes) : ofLittle bytes < span bytes.length := by
  induction bytes with
  | nil => simp [ofLittle,span]
  | cons b rest ih =>
      have bound : b.toNat < 256 := b.toNat_lt
      simp only [ofLittle,List.length_cons,span]
      omega

@[simp] theorem big_length (width n : Nat) : (big width n).length = width := by simp [big]

theorem ofBig_big (width n : Nat) : ofBig (big width n) = n % span width := by
  simp [ofBig,big,ofLittle_little]

theorem big_ofBig (bytes : Bytes) : big bytes.length (ofBig bytes) = bytes := by
  have whole := little_ofLittle bytes.reverse
  simp only [List.length_reverse] at whole
  simp [big,ofBig,whole]

theorem split?_append (one two : Bytes) : split? one.length (one ++ two) = some (one,two) := by
  simp [split?,List.splitAt_eq]

theorem split?_eq_some {n : Nat} {bytes one two : Bytes} :
    split? n bytes = some (one,two) ↔ bytes = one ++ two ∧ one.length = n := by
  constructor
  · intro found
    unfold split? at found
    split at found
    · cases found
    · rename_i enough
      simp only [List.splitAt_eq,Option.some.injEq,Prod.mk.injEq] at found
      obtain ⟨rfl,rfl⟩ := found
      exact ⟨(List.take_append_drop n bytes).symm,by simp; omega⟩
  · rintro ⟨rfl,rfl⟩
    exact split?_append one two

end Bytes
end LockLender
