import LockLender.Text.Utf8

namespace LockLender.Utf8

inductive Spells (c : Char) : Bytes → Prop where
  | one (lead : a.toNat < 0x80) (code : c.toNat = a.toNat) : Spells c [a]
  | two (lead : 0xC2 ≤ a.toNat ∧ a.toNat < 0xE0) (last : tail b = true) (code : c.toNat = (a.toNat % 32) * 64 + low b) :
      Spells c [a,b]
  | three (lead : 0xE0 ≤ a.toNat ∧ a.toNat < 0xF0) (next : second a b = true) (last : tail d = true)
      (code : c.toNat = ((a.toNat % 16) * 64 + low b) * 64 + low d) : Spells c [a,b,d]
  | four (lead : 0xF0 ≤ a.toNat ∧ a.toNat < 0xF5) (next : second a b = true) (third : tail d = true)
      (last : tail e = true) (code : c.toNat = (((a.toNat % 8) * 64 + low b) * 64 + low d) * 64 + low e) :
      Spells c [a,b,d,e]

variable {c : Char} {octets rest bytes : Bytes} {a b d e : UInt8} {n : Nat}

theorem tail_iff : tail b = true ↔ 0x80 ≤ b.toNat ∧ b.toNat ≤ 0xBF := by
  simp [tail,UInt8.le_iff_toNat_le]

theorem second_iff : second a b = true ↔ 0x80 ≤ b.toNat ∧ b.toNat ≤ 0xBF ∧ (a.toNat = 0xE0 → 0xA0 ≤ b.toNat) ∧
    (a.toNat = 0xED → b.toNat ≤ 0x9F) ∧ (a.toNat = 0xF0 → 0x90 ≤ b.toNat) ∧ (a.toNat = 0xF4 → b.toNat ≤ 0x8F) := by
  simp only [second,tail,UInt8.le_iff_toNat_le,← UInt8.toNat_inj,UInt8.reduceToNat]
  repeat' split
  all_goals
    simp only [Bool.and_eq_true,decide_eq_true_eq]
    omega

theorem octet_eq {n : Nat} (same : a.toNat = n) : UInt8.ofNat n = a := by
  rw [← same,UInt8.ofNat_toNat]

theorem Spells.encode (spells : Spells c octets) : String.utf8EncodeChar c = octets := by
  unfold String.utf8EncodeChar
  cases spells with
  | one lead code =>
      change c.val.toNat = _ at code
      simp only [code]
      rw [if_pos (by omega)]
      simp
  | two lead last code =>
      change c.val.toNat = _ at code
      have last := tail_iff.mp last
      unfold low at code
      simp only [code]
      rw [if_neg (by omega),if_pos (by omega)]
      congr 2 <;> (apply octet_eq; omega)
  | three lead next last code =>
      change c.val.toNat = _ at code
      have next := second_iff.mp next
      have last := tail_iff.mp last
      unfold low at code
      simp only [code]
      rw [if_neg (by omega),if_neg (by omega),if_pos (by omega)]
      congr 3 <;> (apply octet_eq; omega)
  | four lead next third last code =>
      change c.val.toNat = _ at code
      have next := second_iff.mp next
      have third := tail_iff.mp third
      have last := tail_iff.mp last
      unfold low at code
      simp only [code]
      rw [if_neg (by omega),if_neg (by omega),if_neg (by omega)]
      congr 4 <;> (apply octet_eq; omega)

theorem encode_spells (c : Char) : Spells c (String.utf8EncodeChar c) := by
  have valid : c.toNat.isValidChar := c.valid
  have octet (n : Nat) (small : n < 256) : (UInt8.ofNat n).toNat = n := UInt8.toNat_ofNat_of_lt' small
  have same : c.val.toNat = c.toNat := rfl
  have last := octet (c.toNat % 64 + 0x80) (by omega)
  have third := octet (c.toNat / 64 % 64 + 0x80) (by omega)
  have next := octet (c.toNat / 4096 % 64 + 0x80) (by omega)
  have lastTail : tail (UInt8.ofNat (c.toNat % 64 + 0x80)) = true := by rw [tail_iff]; omega
  have thirdTail : tail (UInt8.ofNat (c.toNat / 64 % 64 + 0x80)) = true := by rw [tail_iff]; omega
  unfold Nat.isValidChar at valid
  unfold String.utf8EncodeChar
  simp only [same]
  split
  · have lead := octet c.toNat (by omega)
    exact .one (by omega) lead.symm
  split
  · have lead := octet (c.toNat / 64 % 32 + 0xC0) (by omega)
    apply Spells.two _ lastTail
    · unfold low; omega
    · omega
  split
  · have lead := octet (c.toNat / 4096 % 16 + 0xE0) (by omega)
    apply Spells.three _ _ lastTail
    · unfold low; omega
    · omega
    · rw [second_iff]; omega
  · have lead := octet (c.toNat / 262144 % 8 + 0xF0) (by omega)
    apply Spells.four _ _ thirdTail lastTail
    · unfold low; omega
    · omega
    · rw [second_iff]; omega

theorem front_spells (spells : Spells c octets) (rest : Bytes) : front (octets ++ rest) = .char c octets.length := by
  have back := Char.ofNat_toNat c
  cases spells with
  | one lead code =>
      simp only [List.cons_append,List.nil_append,front,UInt8.lt_iff_toNat_lt,UInt8.reduceToNat]
      rw [if_pos lead,← code,back]
      rfl
  | two lead last code =>
      simp only [List.cons_append,List.nil_append,front,UInt8.lt_iff_toNat_lt,UInt8.reduceToNat,last,← code,back]
      rw [if_neg (by omega),if_neg (by omega),if_pos (by omega)]
      rfl
  | three lead next last code =>
      simp only [List.cons_append,List.nil_append,front,UInt8.lt_iff_toNat_lt,UInt8.reduceToNat,next,last,← code,back]
      rw [if_neg (by omega),if_neg (by omega),if_neg (by omega),if_pos (by omega)]
      rfl
  | four lead next third last code =>
      simp only [List.cons_append,List.nil_append,front,UInt8.lt_iff_toNat_lt,UInt8.reduceToNat,next,third,last,
        ← code,back]
      rw [if_neg (by omega),if_neg (by omega),if_neg (by omega),if_neg (by omega),if_pos (by omega)]
      rfl

theorem front_eq_done : front bytes = .done ↔ bytes = [] := by
  cases bytes with
  | nil => exact iff_of_true rfl rfl
  | cons a rest =>
      refine iff_of_false ?_ (List.cons_ne_nil a rest)
      intro found
      simp only [front] at found
      repeat' split at found
      all_goals cases found

theorem spells_of_front (found : front bytes = .char c n) :
    ∃ octets, Spells c octets ∧ octets.length = n ∧ octets <+: bytes := by
  have code {n : Nat} (valid : n.isValidChar) : (Char.ofNat n).toNat = n := by
    rw [Char.ofNat,dif_pos valid]
    rfl
  cases bytes with
  | nil => cases found
  | cons a rest =>
    simp only [front,UInt8.lt_iff_toNat_lt,UInt8.reduceToNat] at found
    split at found
    · cases found
      exact ⟨[a],.one (by omega) (code (by unfold Nat.isValidChar; omega)),rfl,by simp⟩
    split at found
    · cases found
    split at found
    · split at found
      · cases found
      · split at found
        · rename_i b rest last
          cases found
          refine ⟨[a,b],.two (by omega) last (code ?_),rfl,by simp⟩
          unfold Nat.isValidChar low
          omega
        · cases found
    split at found
    · split at found
      · cases found
      · split at found <;> cases found
      · rename_i b d rest
        split at found
        · cases found
        split at found
        · cases found
        · rename_i next last
          cases found
          simp only [Bool.not_eq_true',Bool.not_eq_false] at next last
          refine ⟨[a,b,d],.three (by omega) next last (code ?_),rfl,by simp⟩
          have next := second_iff.mp next
          unfold Nat.isValidChar low
          omega
    split at found
    · split at found
      · cases found
      · split at found <;> cases found
      · repeat' split at found
        all_goals cases found
      · rename_i b d e rest
        split at found
        · cases found
        split at found
        · cases found
        split at found
        · cases found
        · rename_i next third last
          cases found
          simp only [Bool.not_eq_true',Bool.not_eq_false] at next third last
          refine ⟨[a,b,d,e],.four (by omega) next third last (code ?_),rfl,by simp⟩
          have next := second_iff.mp next
          unfold Nat.isValidChar low
          omega
    · cases found

theorem encode_nonempty (c : Char) : 0 < (String.utf8EncodeChar c).length := by
  rw [String.length_utf8EncodeChar]
  exact c.utf8Size_pos

theorem charsFrom_encode (fuel index : Nat) (chars : List Char)
    (enough : (chars.flatMap String.utf8EncodeChar).length ≤ fuel) :
    charsFrom fuel index (chars.flatMap String.utf8EncodeChar) = .ok chars := by
  induction chars generalizing fuel index with
  | nil => cases fuel <;> rfl
  | cons c rest ih =>
      have positive := encode_nonempty c
      rw [List.flatMap_cons,List.length_append] at enough
      cases fuel with
      | zero => omega
      | succ fuel =>
          rw [List.flatMap_cons,charsFrom,front_spells (encode_spells c)]
          simp only [List.drop_left]
          rw [ih fuel _ (by omega)]
          rfl

theorem charsFrom_canonical (fuel index : Nat) (bytes : Bytes) (chars : List Char) (enough : bytes.length ≤ fuel)
    (read : charsFrom fuel index bytes = .ok chars) : bytes = chars.flatMap String.utf8EncodeChar := by
  induction fuel generalizing index bytes chars with
  | zero =>
      cases read
      exact List.length_eq_zero_iff.mp (Nat.le_zero.mp enough)
  | succ fuel ih =>
      unfold charsFrom at read
      split at read
      · rename_i done
        cases read
        exact front_eq_done.mp done
      · cases read
      · rename_i c size found
        obtain ⟨octets,spells,rfl,rest,rfl⟩ := spells_of_front found
        have positive := encode_nonempty c
        rw [spells.encode] at positive
        rw [List.length_append] at enough
        rw [List.drop_left] at read
        cases rests : charsFrom fuel (index + octets.length) rest with
        | error fault => simp [rests,Except.map] at read
        | ok others =>
            simp only [rests,Except.map,Except.ok.injEq] at read
            subst read
            rw [List.flatMap_cons,spells.encode,← ih _ rest others (by omega) rests]

theorem forgiveFrom_encode (fuel : Nat) (chars : List Char)
    (enough : (chars.flatMap String.utf8EncodeChar).length ≤ fuel) :
    forgiveFrom fuel (chars.flatMap String.utf8EncodeChar) = chars := by
  induction chars generalizing fuel with
  | nil => cases fuel <;> rfl
  | cons c rest ih =>
      have positive := encode_nonempty c
      rw [List.flatMap_cons,List.length_append] at enough
      cases fuel with
      | zero => omega
      | succ fuel =>
          rw [List.flatMap_cons,forgiveFrom,front_spells (encode_spells c)]
          simp only [List.drop_left]
          rw [ih fuel (by omega)]

theorem decode_eq_ok {text : String} : decode bytes = .ok text ↔ bytes = encode text := by
  constructor
  · intro read
    unfold decode at read
    cases chars : charsFrom bytes.length 0 bytes with
    | error fault => simp [chars,Except.map] at read
    | ok others =>
        simp only [chars,Except.map,Except.ok.injEq] at read
        subst read
        rw [encode,String.toList_ofList]
        exact charsFrom_canonical _ _ _ _ (Nat.le_refl _) chars
  · rintro rfl
    unfold decode encode
    rw [charsFrom_encode _ _ _ (Nat.le_refl _)]
    simp [Except.map]

theorem forgive_encode (text : String) : forgive (encode text) = text := by
  unfold forgive encode
  rw [forgiveFrom_encode _ _ (Nat.le_refl _),String.ofList_toList]

end LockLender.Utf8
