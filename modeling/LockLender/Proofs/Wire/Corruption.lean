import Mathlib.Algebra.Group.Nat.Defs
import LockLender.Proofs.Wire.Stream

namespace LockLender

namespace Checksum
variable {x y : UInt32} {one two : Bytes}

-- What one shift does hangs on the lowest bit alone.
theorem low_bit (x : UInt32) : x &&& 1 = 1 ↔ x.toNat % 2 = 1 := by
  rw [← UInt32.toNat_inj,UInt32.toNat_and]
  change x.toNat &&& 1 = 1 ↔ _
  rw [Nat.and_one_is_mod]

theorem shift_even (even : x.toNat % 2 = 0) : shift x = x >>> 1 := by
  unfold shift
  apply if_neg
  rw [low_bit]
  omega

theorem shift_odd (odd : x.toNat % 2 = 1) : shift x = (x >>> 1) ^^^ 0xEDB88320 := by
  unfold shift
  apply if_pos
  exact (low_bit x).mpr odd

theorem half_toNat (x : UInt32) : (x >>> 1).toNat = x.toNat / 2 := by
  rw [UInt32.toNat_shiftRight]
  exact Nat.shiftRight_eq_div_pow x.toNat 1

theorem parity_xor (x y : UInt32) : (x ^^^ y).toNat % 2 = (x.toNat + y.toNat) % 2 := by
  rw [UInt32.toNat_xor,← Nat.and_one_is_mod,Nat.and_xor_distrib_right,Nat.and_one_is_mod,Nat.and_one_is_mod,Nat.add_mod]
  obtain left | left := Nat.mod_two_eq_zero_or_one x.toNat <;>
    obtain right | right := Nat.mod_two_eq_zero_or_one y.toNat <;> simp [left,right]

theorem shift_xor (x y : UInt32) : shift (x ^^^ y) = shift x ^^^ shift y := by
  have parity := parity_xor x y
  obtain even | odd := Nat.mod_two_eq_zero_or_one x.toNat <;>
    obtain even' | odd' := Nat.mod_two_eq_zero_or_one y.toNat
  · rw [shift_even even,shift_even even',shift_even (by omega),UInt32.shiftRight_xor]
  · rw [shift_even even,shift_odd odd',shift_odd (by omega),UInt32.shiftRight_xor,UInt32.xor_assoc]
  · rw [shift_odd odd,shift_even even',shift_odd (by omega),UInt32.shiftRight_xor]
    ac_rfl
  · rw [shift_odd odd,shift_odd odd',shift_even (by omega),UInt32.shiftRight_xor,
      UInt32.xor_comm (y >>> 1),UInt32.xor_assoc,← UInt32.xor_assoc 0xEDB88320,UInt32.xor_self,UInt32.zero_xor]

-- The polynomial has the highest bit, which the shifted register has not.
theorem shift_eq_zero (gone : shift x = 0) : x = 0 := by
  have half := half_toNat x
  obtain even | odd := Nat.mod_two_eq_zero_or_one x.toNat
  · rw [shift_even even] at gone
    rw [gone] at half
    apply UInt32.toNat_inj.mp
    change x.toNat = 0
    change 0 = x.toNat / 2 at half
    omega
  · rw [shift_odd odd,UInt32.xor_eq_zero_iff] at gone
    rw [gone] at half
    have bound := x.toNat_lt
    change 0xEDB88320 = x.toNat / 2 at half
    omega

theorem shift_injective (same : shift x = shift y) : x = y := by
  apply UInt32.xor_eq_zero_iff.mp
  apply shift_eq_zero
  rw [shift_xor,same,UInt32.xor_self]

theorem shifts_xor (n : Nat) (x y : UInt32) : shifts n (x ^^^ y) = shifts n x ^^^ shifts n y := by
  induction n generalizing x y with
  | zero => rfl
  | succ n ih => rw [shifts,shift_xor,ih,← shifts,← shifts]

theorem shifts_injective (n : Nat) (same : shifts n x = shifts n y) : x = y := by
  induction n generalizing x y with
  | zero => exact same
  | succ n ih => exact shift_injective (ih same)

theorem shifts_add (n m : Nat) (x : UInt32) : shifts (n + m) x = shifts m (shifts n x) := by
  induction n generalizing x with
  | zero => rw [Nat.zero_add,shifts]
  | succ n ih => rw [Nat.succ_add,shifts,shifts,ih]

theorem shifts_scaled (n : Nat) (scaled : y.toNat = x.toNat * 2 ^ n) : shifts n y = x := by
  induction n generalizing y with
  | zero =>
      apply UInt32.toNat_inj.mp
      exact scaled.trans (Nat.mul_one _)
  | succ n ih =>
      have twice : y.toNat = 2 * (x.toNat * 2 ^ n) := by rw [scaled,Nat.pow_succ]; ac_rfl
      rw [shifts,shift_even (by omega)]
      apply ih
      rw [half_toNat]
      omega

theorem run_injective (bytes : Bytes) (same : run x bytes = run y bytes) : x = y := by
  induction bytes generalizing x y with
  | nil => exact same
  | cons b rest ih =>
      have absorbed : absorb x b = absorb y b := ih same
      exact (UInt32.xor_left_inj _).mp (shifts_injective 8 absorbed)

def word : Bytes → UInt32
  | [] => 0
  | b :: rest => b.toUInt32 ^^^ (word rest <<< 8)

theorem word_lt (bytes : Bytes) (few : bytes.length ≤ 4) : (word bytes).toNat < 2 ^ (8 * bytes.length) := by
  induction bytes with
  | nil => decide
  | cons b rest ih =>
      have bound := ih (Nat.le_of_succ_le few)
      have octet : b.toNat < 2 ^ (8 * (rest.length + 1)) :=
        Nat.lt_of_lt_of_le b.toNat_lt (Nat.pow_le_pow_right (by decide) (by omega))
      have above : (word rest).toNat * 2 ^ 8 < 2 ^ (8 * (rest.length + 1)) := by
        rw [Nat.mul_succ 8,Nat.pow_add]
        exact Nat.mul_lt_mul_of_pos_right bound (by decide)
      rw [word,UInt32.toNat_xor,UInt8.toNat_toUInt32,UInt32.toNat_shiftLeft]
      apply Nat.xor_lt_two_pow octet
      exact Nat.lt_of_le_of_lt (Nat.mod_le _ _) (Nat.shiftLeft_eq _ _ ▸ above)

theorem word_raised (bytes : Bytes) (few : bytes.length ≤ 3) : (word bytes <<< 8).toNat = (word bytes).toNat * 2 ^ 8 := by
  have bound := word_lt bytes (Nat.le_succ_of_le few)
  have small : 2 ^ (8 * bytes.length) ≤ 2 ^ 24 := Nat.pow_le_pow_right (by decide) (by omega)
  rw [UInt32.toNat_shiftLeft,Nat.shiftLeft_eq]
  change (word bytes).toNat * 2 ^ 8 % 2 ^ 32 = _
  omega

theorem word_above (b : UInt8) (bytes : Bytes) (few : bytes.length ≤ 3) : word (b :: bytes) >>> 8 = word bytes := by
  apply UInt32.toNat_inj.mp
  rw [word,UInt32.shiftRight_xor,UInt32.toNat_xor,UInt32.toNat_shiftRight,UInt32.toNat_shiftRight,
    word_raised bytes few,UInt8.toNat_toUInt32]
  change (b.toNat >>> 8) ^^^ (((word bytes).toNat * 2 ^ 8) >>> 8) = _
  rw [Nat.shiftRight_eq_div_pow,Nat.shiftRight_eq_div_pow,Nat.div_eq_of_lt b.toNat_lt,Nat.zero_xor,
    Nat.mul_div_cancel _ (by decide)]

theorem word_injective (one two : Bytes) (few : one.length ≤ 4) (length : one.length = two.length)
    (same : word one = word two) : one = two := by
  induction one generalizing two with
  | nil => exact (List.length_eq_zero_iff.mp length.symm).symm
  | cons b rest ih =>
      obtain ⟨c,others,rfl⟩ := List.exists_cons_of_length_eq_add_one length.symm
      have length : rest.length = others.length := Nat.succ.inj length
      have few : rest.length ≤ 3 := Nat.le_of_succ_le_succ few
      have tails : word rest = word others := by
        rw [← word_above b rest few,← word_above c others (length ▸ few),same]
      obtain rfl := ih others (Nat.le_succ_of_le few) length tails
      have heads : b.toUInt32 = c.toUInt32 := (UInt32.xor_left_inj _).mp same
      have octets : b = c := by
        apply UInt8.toNat_inj.mp
        rw [← UInt8.toNat_toUInt32,heads,UInt8.toNat_toUInt32]
      rw [octets]

theorem run_word (register : UInt32) (bytes : Bytes) (few : bytes.length ≤ 4) :
    run register bytes = shifts (8 * bytes.length) (register ^^^ word bytes) := by
  induction bytes generalizing register with
  | nil => rw [word,UInt32.xor_zero]; rfl
  | cons b rest ih =>
      have few : rest.length ≤ 3 := Nat.le_of_succ_le_succ few
      have raised : shifts 8 (word rest <<< 8) = word rest := shifts_scaled 8 (word_raised rest few)
      calc
        run register (b :: rest) = run (absorb register b) rest := rfl
        _ = shifts (8 * rest.length) (absorb register b ^^^ word rest) := ih _ (Nat.le_succ_of_le few)
        _ = shifts (8 * rest.length) (shifts 8 (register ^^^ b.toUInt32) ^^^ shifts 8 (word rest <<< 8)) := by
          rw [raised,absorb]
        _ = shifts (8 * (rest.length + 1)) (register ^^^ word (b :: rest)) := by
          rw [← shifts_xor,← shifts_add,UInt32.xor_assoc,Nat.mul_succ,Nat.add_comm,word]

theorem crc32_window (front back : Bytes) (few : one.length ≤ 4) (length : one.length = two.length)
    (same : crc32 (front ++ (one ++ back)) = crc32 (front ++ (two ++ back))) : one = two := by
  have ended := (UInt32.xor_left_inj _).mp same
  rw [run_append,run_append,run_append,run_append] at ended
  have inside := run_injective back ended
  rw [run_word _ one few,run_word _ two (length ▸ few),length] at inside
  have words := (UInt32.xor_right_inj _).mp (shifts_injective _ inside)
  exact word_injective one two few length words

end Checksum

-- Octets that differ from others at four neighbouring places at most, the first
-- of which is given.
structure Bytes.NearFrom (start : Nat) (one two : Bytes) : Prop where
  length : two.length = one.length
  outside : ∀ i, i < start ∨ start + 4 ≤ i → two[i]? = one[i]?

theorem Bytes.NearFrom.split {start : Nat} {one two : Bytes} (near : NearFrom start one two) :
    ∃ front left right back, left.length ≤ 4 ∧ left.length = right.length ∧
      one = front ++ (left ++ back) ∧ two = front ++ (right ++ back) := by
  have before : two.take start = one.take start := by
    apply List.ext_getElem?
    intro i
    simp only [List.getElem?_take]
    split
    · exact near.outside i (.inl ‹_›)
    · rfl
  have after : two.drop (start + 4) = one.drop (start + 4) := by
    apply List.ext_getElem?
    intro i
    simp only [List.getElem?_drop]
    exact near.outside _ (.inr (Nat.le_add_right _ _))
  have whole (bytes : Bytes) : bytes = bytes.take start ++ ((bytes.drop start).take 4 ++ bytes.drop (start + 4)) := by
    rw [← List.drop_drop,List.take_append_drop,List.take_append_drop]
  refine ⟨one.take start,(one.drop start).take 4,(two.drop start).take 4,one.drop (start + 4),?_,?_,whole one,?_⟩
  · rw [List.length_take]
    exact Nat.min_le_left _ _
  · rw [List.length_take,List.length_take,List.length_drop,List.length_drop,near.length]
  · rw [← before,← after]
    exact whole two

theorem Checksum.crc32_near {start : Nat} {one two : Bytes} (near : Bytes.NearFrom start one two)
    (same : crc32 one = crc32 two) : one = two := by
  obtain ⟨front,left,right,back,few,length,rfl,rfl⟩ := near.split
  rw [crc32_window front back few length same]

namespace Frame
variable {payload damaged : Bytes} {header : Header} {frame : Frame}

theorem check_bad_sum (stated : UInt32.ofNat frame.payload.length = frame.header.length)
    (differ : Checksum.crc32 frame.payload ≠ frame.header.checksum) :
    frame.check = .error (.badChecksum frame.header.checksum (Checksum.crc32 frame.payload)) := by
  unfold check
  rw [if_neg (not_not_intro stated),if_pos differ]

theorem decode_behind (magic : header.magic = magic) (version : header.version = version)
    (bounded : header.length ≤ payloadLimit) (stated : payload.length = header.length.toNat) :
    decode (header.encode ++ payload) = (check ⟨header,payload⟩).map fun _ => ⟨header,payload⟩ := by
  have read : Header.decode (header.encode ++ payload) = .ok header :=
    Header.decode_eq_ok.mpr ⟨List.prefix_append _ _,magic,version⟩
  have small : ¬ header.length > payloadLimit := UInt32.not_lt.mpr bounded
  have enough : ¬ (header.encode ++ payload).length < headerSize + header.length.toNat := by
    rw [List.length_append,Header.encode_length,stated]
    exact Nat.lt_irrefl _
  have whole : ((header.encode ++ payload).drop headerSize).take header.length.toNat = payload := by
    rw [List.drop_left' (Header.encode_length _),← stated,List.take_length]
  rw [decode_eq,read]
  simp only [Except.bind,if_neg small,if_neg enough,whole]

-- A payload that reaches the reader with up to four neighbouring octets changed is refused, with the
-- sum that was stated and the sum of what came.
theorem local_damage_refused (opcode : Opcode) (request : UInt64) {start : Nat}
    (fits : payload.length ≤ payloadLimit.toNat) (near : Bytes.NearFrom start payload damaged)
    (differ : damaged ≠ payload) :
    decode ((make opcode request payload).header.encode ++ damaged) =
      .error (.badChecksum (Checksum.crc32 payload) (Checksum.crc32 damaged)) := by
  have proper : (make opcode request payload).Proper := make_proper opcode request .none fits
  have stated : damaged.length = (make opcode request payload).header.length.toNat := by
    rw [near.length]
    exact proper.stated.symm
  have sums : Checksum.crc32 damaged ≠ Checksum.crc32 payload := by
    intro same
    exact differ (Checksum.crc32_near near same.symm).symm
  have refused : check ⟨(make opcode request payload).header,damaged⟩ =
      .error (.badChecksum (Checksum.crc32 payload) (Checksum.crc32 damaged)) := by
    apply check_bad_sum
    · dsimp only
      rw [stated,UInt32.ofNat_toNat]
    · exact sums
  rw [decode_behind rfl rfl proper.bounded stated,refused]
  rfl

theorem local_damage_refused_inside :
    Bytes.NearFrom 2 [108,111,99,107,45,55,10] [108,111,255,107,0,1,10] ∧
      decode ((make .release 9 [108,111,99,107,45,55,10]).header.encode ++ [108,111,255,107,0,1,10]) =
        .error (.badChecksum (Checksum.crc32 [108,111,99,107,45,55,10]) (Checksum.crc32 [108,111,255,107,0,1,10])) := by
  have near : Bytes.NearFrom 2 [108,111,99,107,45,55,10] [108,111,255,107,0,1,10] := by
    constructor
    · rfl
    · intro i outside
      match i with
      | 0 | 1 | 6 => rfl
      | 2 | 3 | 4 | 5 => omega
      | i+7 => rfl
  exact ⟨near,local_damage_refused .release 9 (by decide) near (by decide)⟩

end Frame
end LockLender
