import Mathlib.Algebra.Group.Nat.Defs
import LockLender.Proofs.Text.Numeral
import LockLender.Toml.Lexical

namespace LockLender.Toml
variable {chars front rest tail text : List Char} {c quote : Char} {fuel : Nat} {s : String}

def isPlain (c : Char) : Bool := isVisible c && c ≠ '"' && c ≠ '\\'

theorem isPlain_iff : isPlain c ↔ isVisible c ∧ c ≠ '"' ∧ c ≠ '\\' := by
  simp [isPlain,and_assoc]

theorem cons_ne_cons {p : Char → Bool} {d : Char} (has : p c) (lacks : p d = false) : c :: text ≠ d :: rest := by
  intro same
  rw [(List.cons.inj same).1,lacks] at has
  cases has

theorem skipBlanks_cons (dark : isBlank c = false) : skipBlanks (c :: text) = c :: text := by
  rw [skipBlanks,List.dropWhile_cons_of_neg (by simp [dark])]

theorem isBlank_bare (bare : isBare c) : isBlank c = false := by
  rw [Bool.eq_false_iff]
  intro blank
  obtain rfl | rfl : c = ' ' ∨ c = '\t' := by simpa [isBlank] using blank
  all_goals cases bare

theorem isBare_digit (digit : c.isDigit) : isBare c := by
  have bounds : '0' ≤ c ∧ c ≤ '9' := by simpa [Char.isDigit,Char.le_def] using digit
  simp [isBare,bounds]

theorem hexDigits_drops {n value : Nat} (read : hexDigits n text = some (value,rest)) :
    n ≤ text.length ∧ rest = text.drop n := by
  unfold hexDigits at read
  split at read
  · cases read
  · rename_i enough
    obtain ⟨_,_,same⟩ := Option.map_eq_some_iff.mp read
    exact ⟨Nat.le_of_not_lt enough,(Prod.mk.inj same).2.symm⟩

theorem numbered_drops {n : Nat} (read : numbered n text = some (c,rest)) :
    n ≤ text.length ∧ rest = text.drop n := by
  unfold numbered at read
  obtain ⟨⟨value,after⟩,digits,read⟩ := Option.bind_eq_some_iff.mp read
  dsimp only at read
  split at read
  · cases read
    exact hexDigits_drops digits
  · cases read

theorem escape_takes (read : escape text = some (c,rest)) : ∃ mark others, text = mark :: others ++ rest := by
  have dropped {n : Nat} {mark : Char} {text : List Char} (fits : n ≤ text.length ∧ rest = text.drop n) :
      ∃ first others, mark :: text = first :: others ++ rest := by
    refine ⟨mark,text.take n,?_⟩
    rw [fits.2,List.cons_append,List.take_append_drop]
  unfold escape at read
  split at read
  iterate 7
    · cases read
      exact ⟨_,[],rfl⟩
  · exact dropped (numbered_drops read)
  · exact dropped (numbered_drops read)
  · cases read

theorem basicFrom_plain (plain : ∀ c ∈ chars, isPlain c) (enough : chars.length < fuel) :
    basicFrom fuel (chars ++ '"' :: rest) = some (chars,rest) := by
  induction chars generalizing fuel with
  | nil =>
      cases fuel with
      | zero => cases enough
      | succ fuel => rfl
  | cons c others ih =>
      cases fuel with
      | zero => cases enough
      | succ fuel =>
          obtain ⟨visible,unquoted,unescaped⟩ := isPlain_iff.mp (plain c List.mem_cons_self)
          have after := ih (fun other member => plain other (List.mem_cons_of_mem _ member))
            (Nat.lt_of_succ_lt_succ enough)
          rw [List.cons_append,basicFrom]
          · rw [if_pos visible,after]
            rfl
          · exact unquoted
          · exact unescaped

theorem basicFrom_takes (read : basicFrom fuel text = some (chars,rest)) :
    ∃ front, text = front ++ '"' :: rest ∧ chars.length ≤ front.length ∧
      (chars.length = front.length → ∀ c ∈ front, isPlain c) := by
  induction fuel generalizing text chars with
  | zero => cases read
  | succ fuel ih =>
      unfold basicFrom at read
      split at read
      · cases read
      · cases read
        exact ⟨[],rfl,Nat.le_refl _,nofun⟩
      · obtain ⟨⟨c,after⟩,escaped,read⟩ := Option.bind_eq_some_iff.mp read
        obtain ⟨⟨others,last⟩,inner,read⟩ := Option.bind_eq_some_iff.mp read
        cases read
        obtain ⟨mark,marks,rfl⟩ := escape_takes escaped
        obtain ⟨front,rfl,short,-⟩ := ih inner
        refine ⟨'\\' :: mark :: marks ++ front,by simp,?_,?_⟩
        all_goals
          simp only [List.length_append,List.length_cons]
          omega
      · rename_i c others unquoted unescaped
        split at read
        · rename_i visible
          obtain ⟨⟨found,last⟩,inner,read⟩ := Option.bind_eq_some_iff.mp read
          cases read
          obtain ⟨front,rfl,short,plain⟩ := ih inner
          refine ⟨c :: front,rfl,Nat.succ_le_succ short,?_⟩
          intro same other member
          rcases List.mem_cons.mp member with rfl | member
          · exact isPlain_iff.mpr ⟨visible,unquoted,unescaped⟩
          · exact plain (Nat.succ.inj same) other member
        · cases read

theorem newline_takes {u : Unit} (found : newline text = some (u,rest)) :
    ∃ mark others, text = mark :: others ++ rest := by
  unfold newline at found
  split at found
  · cases found
    exact ⟨_,[],rfl⟩
  · cases found
    exact ⟨_,['\n'],rfl⟩
  · cases found

theorem newline_suffix {u : Unit} (found : newline text = some (u,rest)) : rest <:+ text := by
  obtain ⟨mark,others,rfl⟩ := newline_takes found
  exact List.suffix_append _ _

theorem skipBlanks_suffix : skipBlanks text <:+ text := List.dropWhile_suffix isBlank

theorem skipWhite_suffix (skipped : joinLines.skipWhite fuel text = some rest) : rest <:+ text := by
  induction fuel generalizing text with
  | zero =>
      cases skipped
      exact List.suffix_refl _
  | succ fuel ih =>
      unfold joinLines.skipWhite at skipped
      split at skipped
      · rename_i found
        exact ((ih skipped).trans (newline_suffix found)).trans skipBlanks_suffix
      · cases skipped
        exact skipBlanks_suffix

theorem joinLines_suffix (joined : joinLines text = some rest) : rest <:+ text := by
  unfold joinLines at joined
  split at joined
  · cases joined
  · rename_i found
    exact ((skipWhite_suffix joined).trans (newline_suffix found)).trans skipBlanks_suffix

theorem take_run {k : Nat} (run : k ≤ (text.takeWhile (· = quote)).length) :
    text.take k = List.replicate k quote := by
  induction text generalizing k with
  | nil =>
      obtain rfl := Nat.le_zero.mp run
      rfl
  | cons c others ih =>
      cases k with
      | zero => rfl
      | succ k =>
          rw [List.takeWhile_cons] at run
          split at run
          · rename_i same
            rw [List.take_succ_cons,List.replicate_succ,ih (Nat.le_of_succ_le_succ run),of_decide_eq_true same]
          · cases run

-- A string of several lines and the quotes that end it, of which `rest` lacks
-- only the last; so they are longer than what is read by two at least.
def Closed (quote : Char) (text chars rest : List Char) : Prop :=
  ∃ front, text = front ++ quote :: rest ∧ chars.length + 2 ≤ front.length

theorem Closed.more {others : List Char} (closed : Closed quote text others rest) (marks : List Char)
    (marked : 0 < marks.length) (few : chars.length ≤ others.length + 1) :
    Closed quote (marks ++ text) chars rest := by
  obtain ⟨front,rfl,short⟩ := closed
  refine ⟨marks ++ front,(List.append_assoc _ _ _).symm,?_⟩
  rw [List.length_append]
  omega

theorem longEnd_closed (ended : longEnd quote text = some (chars,rest)) : Closed quote text chars rest := by
  unfold longEnd at ended
  dsimp only at ended
  split at ended
  · cases ended
  · rename_i enough
    obtain ⟨rfl,rfl⟩ := Prod.mk.inj (Option.some.inj ended)
    obtain ⟨k,taken⟩ : ∃ k, min (text.takeWhile (· = quote)).length 5 = k + 3 := by
      exact ⟨min (text.takeWhile (· = quote)).length 5 - 3,by omega⟩
    have within : k + 3 ≤ (text.takeWhile (· = quote)).length := by omega
    -- All that is taken are quotes, and the last of them ends the string.
    have quotes : text.take (k + 3) = List.replicate (k + 2) quote ++ [quote] := by
      rw [take_run within,← List.replicate_succ']
    rw [taken]
    refine ⟨List.replicate (k + 2) quote,?_,?_⟩
    · calc
        text = text.take (k + 3) ++ text.drop (k + 3) := (List.take_append_drop _ _).symm
        _ = List.replicate (k + 2) quote ++ quote :: text.drop (k + 3) := by
          rw [quotes,List.append_assoc,List.singleton_append]
    · simp

theorem longFrom_closed {escapes : Bool} (read : longFrom quote escapes fuel text = some (chars,rest)) :
    Closed quote text chars rest := by
  induction fuel generalizing text chars with
  | zero => cases read
  | succ fuel ih =>
      unfold longFrom at read
      split at read
      · rename_i found ended
        cases read
        exact longEnd_closed ended
      · cases read
      · rename_i c others unended
        split at read
        · split at read
          · rename_i joined
            obtain ⟨skipped,rfl⟩ := joinLines_suffix joined
            exact (ih read).more (c :: skipped) (Nat.succ_pos _) (Nat.le_succ _)
          · obtain ⟨⟨d,after⟩,escaped,read⟩ := Option.bind_eq_some_iff.mp read
            obtain ⟨⟨found,last⟩,inner,read⟩ := Option.bind_eq_some_iff.mp read
            cases read
            obtain ⟨mark,marks,rfl⟩ := escape_takes escaped
            exact (ih inner).more (c :: mark :: marks) (Nat.succ_pos _) (Nat.le_refl _)
        · split at read
          · rename_i ended
            obtain ⟨⟨found,last⟩,inner,read⟩ := Option.bind_eq_some_iff.mp read
            cases read
            obtain ⟨mark,marks,same⟩ := newline_takes ended
            rw [same]
            exact (ih inner).more (mark :: marks) (Nat.succ_pos _) (Nat.le_refl _)
          · split at read
            · obtain ⟨⟨found,last⟩,inner,read⟩ := Option.bind_eq_some_iff.mp read
              cases read
              exact (ih inner).more [c] (Nat.succ_pos _) (Nat.le_refl _)
            · cases read

theorem string_takes (read : string ('"' :: text) = some (s,rest)) :
    ∃ front, text = front ++ '"' :: rest ∧ s.toList.length ≤ front.length ∧
      (s.toList.length = front.length → ∀ c ∈ front, isPlain c) := by
  unfold string at read
  split at read
  · rename_i others same
    obtain rfl := (List.cons.inj same).2
    obtain ⟨⟨chars,last⟩,inner,read⟩ := Option.map_eq_some_iff.mp read
    cases read
    have closed : Closed '"' others chars rest := by
      split at inner
      · rename_i ended
        obtain ⟨mark,marks,rfl⟩ := newline_takes ended
        exact (longFrom_closed inner).more (mark :: marks) (Nat.succ_pos _) (Nat.le_succ _)
      · exact longFrom_closed inner
    obtain ⟨front,rfl,short⟩ := closed
    refine ⟨'"' :: '"' :: front,rfl,?_,?_⟩
    all_goals
      simp only [String.toList_ofList,List.length_cons]
      omega
  · rename_i same
    cases same
  · unfold shortString at read
    obtain ⟨⟨chars,last⟩,inner,read⟩ := Option.map_eq_some_iff.mp read
    cases read
    rw [String.toList_ofList]
    exact basicFrom_takes inner

theorem string_plain (plain : ∀ c ∈ s.toList, isPlain c) (last : '"' ∉ tail) :
    string ('"' :: (s.toList ++ '"' :: tail)) = some (s,tail) := by
  have short : shortString ('"' :: (s.toList ++ '"' :: tail)) = some (s,tail) := by
    have enough : s.toList.length < (s.toList ++ '"' :: tail).length + 1 := by
      rw [List.length_append]
      omega
    rw [shortString,basicFrom_plain plain enough,Option.map_some]
    simp only [String.ofList_toList]
  unfold string
  split
  -- Three quotes in front would need one in the text or one behind it.
  · rename_i others same
    have second := (List.cons.inj same).2
    cases chars : s.toList with
    | nil =>
        rw [chars] at second
        exact absurd (List.mem_of_mem_head? (congrArg List.head? (List.cons.inj second).2)) last
    | cons c others =>
        rw [chars] at second plain
        exact absurd (List.cons.inj second).1 (isPlain_iff.mp (plain c List.mem_cons_self)).2.1
  · rename_i same
    cases same
  · exact short

theorem plain_of_string (read : string ('"' :: (s.toList ++ '"' :: tail)) = some (s,rest)) (last : '"' ∉ tail) :
    ∀ c ∈ s.toList, isPlain c := by
  obtain ⟨front,same,short,plain⟩ := string_takes read
  have whole : front = s.toList := by
    obtain ⟨others,longer,behind⟩ | ⟨others,shorter,-⟩ := List.append_eq_append_iff.mp same
    · cases others with
      | nil => rw [longer,List.append_nil]
      | cons c others =>
          rw [(List.cons.inj behind).2] at last
          exact absurd (List.mem_append_right _ List.mem_cons_self) last
    · exact List.IsPrefix.eq_of_length_le ⟨others,shorter.symm⟩ short
  rw [whole] at plain
  exact plain rfl

theorem fixed_digits {k least most n : Nat} (digits : ∀ c ∈ chars, c.isDigit)
    (read : fixed k least most (chars ++ '\n' :: tail) = some (n,rest)) :
    ∃ others, (∀ c ∈ others, c.isDigit) ∧ rest = others ++ '\n' :: tail := by
  unfold fixed at read
  dsimp only at read
  split at read
  · rename_i taken
    cases read
    obtain short | enough := Nat.lt_or_ge chars.length k
    · -- The end of the line would be taken as a digit.
      have ended : '\n' ∈ (chars ++ '\n' :: tail).take k := by
        obtain ⟨j,rfl⟩ := Nat.exists_eq_add_of_lt short
        rw [List.take_append,List.mem_append,Nat.add_assoc,Nat.add_sub_cancel_left]
        exact .inr List.mem_cons_self
      exact absurd (List.all_eq_true.mp taken.2.1 _ ended) (by decide)
    · refine ⟨chars.drop k,fun c member => digits c (List.mem_of_mem_drop member),?_⟩
      rw [List.drop_append_of_le_length enough]
  · cases read

theorem expect_digits (digits : ∀ c ∈ chars, c.isDigit) (other : c.isDigit = false) (inside : '\n' ≠ c) :
    expect c (chars ++ '\n' :: tail) = none := by
  cases chars with
  | nil => exact if_neg inside
  | cons d others =>
      have digit := digits d List.mem_cons_self
      refine if_neg ?_
      rintro rfl
      rw [other] at digit
      cases digit

-- No mark parts the digits, as it would in a date or a time.
theorem fixed_expect {k least most n : Nat} (digits : ∀ c ∈ chars, c.isDigit) (other : c.isDigit = false)
    (inside : '\n' ≠ c) (read : fixed k least most (chars ++ '\n' :: tail) = some (n,rest)) :
    expect c rest = none := by
  obtain ⟨others,more,rfl⟩ := fixed_digits digits read
  exact expect_digits more other inside

theorem date_digits (digits : ∀ c ∈ chars, c.isDigit) : date (chars ++ '\n' :: tail) = none := by
  refine Option.bind_eq_none_iff.mpr ?_
  rintro ⟨year,rest⟩ read
  dsimp only
  rw [fixed_expect digits rfl (by decide) read]
  rfl

theorem time_digits (digits : ∀ c ∈ chars, c.isDigit) : time (chars ++ '\n' :: tail) = none := by
  refine Option.bind_eq_none_iff.mpr ?_
  rintro ⟨hour,rest⟩ read
  dsimp only
  rw [fixed_expect digits rfl (by decide) read]
  rfl

theorem moment_digits (digits : ∀ c ∈ chars, c.isDigit) : moment (chars ++ '\n' :: tail) = none := by
  unfold moment
  rw [date_digits digits]
  exact time_digits digits

theorem partedFrom_digits (digits : ∀ c ∈ chars, c.isDigit) :
    partedFrom Numeral.digit? (chars ++ '\n' :: tail) = (chars,'\n' :: tail) := by
  induction chars with
  | nil =>
      rw [List.nil_append,partedFrom]
      · rfl
      · nofun
  | cons c others ih =>
      have digit := digits c List.mem_cons_self
      have after := ih fun other member => digits other (List.mem_cons_of_mem _ member)
      rw [List.cons_append,partedFrom]
      · rw [if_pos (Numeral.isSome_digit?.trans digit),after]
      · intro _ _ underscore
        rw [underscore] at digit
        exact absurd digit (by decide)

variable {n : Nat}

theorem plain_toDigits (n : Nat) :
    plain (Nat.toDigits 10 n ++ '\n' :: tail) = some (Nat.toDigits 10 n,'\n' :: tail) := by
  have digits := Numeral.toDigits_digits n
  obtain ⟨c,others,written,digit⟩ := Numeral.toDigits_front n
  rw [written] at digits ⊢
  rw [List.cons_append]
  unfold plain
  split
  · rename_i same
    obtain ⟨rfl,rfl⟩ := List.cons.inj same
    rw [Numeral.toDigits_zero_front written]
    rfl
  · have more : ∀ c ∈ others, c.isDigit := fun other member => digits other (List.mem_cons_of_mem _ member)
    rw [parted,if_pos (Numeral.isSome_digit?.trans digit),partedFrom_digits more]

theorem sign_digit (digit : c.isDigit) : sign (c :: rest) = (false,c :: rest) := by
  unfold sign
  split
  · exact absurd ‹_› (cons_ne_cons digit rfl)
  · exact absurd ‹_› (cons_ne_cons digit rfl)
  · rfl

theorem skipBlanks_toDigits (n : Nat) :
    skipBlanks (' ' :: (Nat.toDigits 10 n ++ text)) = Nat.toDigits 10 n ++ text := by
  obtain ⟨c,others,written,digit⟩ := Numeral.toDigits_front n
  rw [written]
  exact skipBlanks_cons (isBlank_bare (isBare_digit digit))

theorem real_toDigits (n : Nat) : real (Nat.toDigits 10 n ++ '\n' :: tail) = none := by
  obtain ⟨c,others,written,digit⟩ := Numeral.toDigits_front n
  have read : plain (Nat.toDigits 10 n ++ '\n' :: tail) = _ := plain_toDigits n
  rw [written,List.cons_append] at read ⊢
  unfold real
  rw [sign_digit digit]
  dsimp only
  split
  · exact absurd ‹_› (cons_ne_cons digit rfl)
  · exact absurd ‹_› (cons_ne_cons digit rfl)
  · rw [read]
    rfl

-- A zero that begins a number is all of it, so no base is named.
theorem toDigits_unbased (same : Nat.toDigits 10 n ++ '\n' :: tail = '0' :: c :: rest) : c = '\n' := by
  obtain ⟨d,others,written,-⟩ := Numeral.toDigits_front n
  rw [written] at same
  obtain ⟨rfl,after⟩ := List.cons.inj same
  rw [Numeral.toDigits_zero_front written] at after
  exact (List.cons.inj after).1.symm

theorem integer_toDigits (n : Nat) : integer (Nat.toDigits 10 n ++ '\n' :: tail) =
    if n < 2 ^ 63 then some ((n : Int),'\n' :: tail) else none := by
  have read : plain (Nat.toDigits 10 n ++ '\n' :: tail) = _ := plain_toDigits n
  have value : natOf (Nat.toDigits 10 n) = n := by
    unfold natOf
    rw [Numeral.positional?_toDigits,Option.getD_some]
  have unsigned : sign (Nat.toDigits 10 n ++ '\n' :: tail) = (false,Nat.toDigits 10 n ++ '\n' :: tail) := by
    obtain ⟨c,others,written,digit⟩ := Numeral.toDigits_front n
    rw [written]
    exact sign_digit digit
  unfold integer
  split
  · exact absurd (toDigits_unbased ‹_›) (by decide)
  · exact absurd (toDigits_unbased ‹_›) (by decide)
  · exact absurd (toDigits_unbased ‹_›) (by decide)
  · rw [unsigned]
    dsimp only
    rw [read]
    simp only [Option.bind_eq_bind,Option.bind_some,value,Bool.false_eq_true,if_false]
    split
    · rw [if_pos (by omega)]
      rfl
    · rw [if_neg (by omega)]

end LockLender.Toml
