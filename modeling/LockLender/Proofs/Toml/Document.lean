import Mathlib.Algebra.Group.Nat.Defs
import LockLender.Proofs.Toml.Lexical
import LockLender.Toml.Document

namespace LockLender.Toml
variable {fields next inner : Fields} {path : List String} {key name s : String} {node other : Node}
  {b after : Building} {text rest tail : List Char} {fuel depth : Nat}

namespace Fields

theorem find?_nil : find? [] key = none := rfl

theorem find?_cons : find? ((name,other) :: fields) key =
    if name = key then some other else find? fields key := by
  unfold find?
  by_cases same : name = key
  · rw [if_pos same,List.find?_cons_of_pos (by simpa using same)]
    rfl
  · rw [if_neg same,List.find?_cons_of_neg (by simpa using same)]

theorem find?_append (found : fields.find? key = some node) : Fields.find? (fields ++ next) key = some node := by
  induction fields with
  | nil => cases found
  | cons field rest ih =>
      obtain ⟨name,other⟩ := field
      rw [List.cons_append,find?_cons]
      rw [find?_cons] at found
      split at found
      · rw [if_pos ‹_›]
        exact found
      · rw [if_neg ‹_›]
        exact ih found

theorem find?_put_ne (differ : name ≠ key) : (fields.put name other).find? key = fields.find? key := by
  induction fields with
  | nil => rw [put,find?_cons,if_neg differ]
  | cons field rest ih =>
      obtain ⟨old,value⟩ := field
      unfold put
      split
      · rename_i same
        rw [find?_cons,find?_cons,same,if_neg differ,if_neg differ]
      · rw [find?_cons,find?_cons,ih]

theorem find?_filter_ne (differ : name ≠ key) :
    Fields.find? (fields.filter (·.1 ≠ name)) key = fields.find? key := by
  induction fields with
  | nil => rfl
  | cons field rest ih =>
      obtain ⟨old,value⟩ := field
      rw [List.filter_cons,find?_cons]
      split
      · rw [find?_cons,ih]
      · rename_i same
        have same : old = name := by simpa using same
        rw [ih,if_neg (same ▸ differ)]

end Fields

def Node.IsTable : Node → Prop
  | .table _ _ | .tables _ => True
  | _ => False

def Keeps (fields next : Fields) : Prop :=
  ∀ key node, ¬ node.IsTable → fields.find? key = some node → next.find? key = some node

theorem Keeps.refl : Keeps fields fields := fun _ _ _ found => found

theorem Keeps.trans (one : Keeps fields next) (two : Keeps next inner) : Keeps fields inner :=
  fun key node value found => two key node value (one key node value found)

theorem Keeps.append : Keeps fields (fields ++ next) := fun _ _ _ found => Fields.find?_append found

theorem ne_of_table (was : fields.find? name = some other) (table : other.IsTable) (value : ¬ node.IsTable)
    (found : fields.find? key = some node) : name ≠ key := by
  rintro rfl
  rw [was] at found
  exact value (Option.some.inj found ▸ table)

theorem Keeps.put (was : fields.find? name = some other) (table : other.IsTable) :
    Keeps fields (fields.put name node) := by
  intro key single value found
  rw [Fields.find?_put_ne (ne_of_table was table value found)]
  exact found

theorem Keeps.filter (was : fields.find? name = some other) (table : other.IsTable) :
    Keeps fields (fields.filter (·.1 ≠ name)) := by
  intro key single value found
  rw [Fields.find?_filter_ne (ne_of_table was table value found)]
  exact found

theorem add_keeps (added : fields.add key node = some next) : Keeps fields next := by
  unfold Fields.add at added
  split at added
  · cases added
  · cases added
    exact .append

theorem addDotted_keeps {dotted long : Bool} (added : addDotted dotted fields path long key node = some next) :
    Keeps fields next := by
  cases path with
  | nil =>
      unfold addDotted at added
      split at added
      · exact add_keeps added
      · cases added
  | cons first path =>
      unfold addDotted at added
      split at added
      · obtain ⟨inner,-,added⟩ := Option.bind_eq_some_iff.mp added
        cases added
        exact .append
      · cases added
      · rename_i found
        obtain ⟨inner,-,added⟩ := Option.bind_eq_some_iff.mp added
        cases added
        exact .put found trivial
      · rename_i found
        obtain ⟨inner,-,added⟩ := Option.bind_eq_some_iff.mp added
        cases added
        exact .put found trivial
      · cases added

theorem atPath_keeps {change : Fields → Option Fields}
    (keeps : ∀ {one two}, change one = some two → Keeps one two)
    (changed : atPath change fields path = some next) : Keeps fields next := by
  cases path with
  | nil => exact keeps changed
  | cons first path =>
      unfold atPath at changed
      split at changed
      · obtain ⟨inner,-,changed⟩ := Option.bind_eq_some_iff.mp changed
        cases changed
        exact .append
      · rename_i found
        obtain ⟨inner,-,changed⟩ := Option.bind_eq_some_iff.mp changed
        cases changed
        exact .put found trivial
      · rename_i found
        obtain ⟨inner,-,changed⟩ := Option.bind_eq_some_iff.mp changed
        cases changed
        exact .put found trivial
      · cases changed

namespace Building

def top (b : Building) : Fields := if b.path = [] then b.current else b.root

theorem close_keeps (closed : b.close = some next) : Keeps b.top next := by
  unfold close at closed
  split at closed
  · rename_i none
    cases closed
    rw [top,if_pos (List.getLast?_eq_none_iff.mp none)]
    exact .refl
  · rename_i key last
    have below : b.path ≠ [] := fun none => by rw [none] at last; cases last
    rw [top,if_neg below]
    refine atPath_keeps ?_ closed
    intro parent changed change
    split at change
    · split at change
      · cases change
        exact .append
      · rename_i found
        cases change
        exact .put found trivial
      · cases change
    · split at change
      · cases change
        exact .append
      · cases change

theorem opened_keeps {change : Fields → Option Fields} {root opened current : Fields} {repeated : Bool}
    (closed : b.close = some root) (last : path.getLast? = some key)
    (keeps : ∀ {one two}, change one = some two → Keeps one two)
    (changed : atPath change root path.dropLast = some opened) :
    Keeps b.top (top { root := opened, path, repeated, current }) := by
  have below : path ≠ [] := fun none => by rw [none] at last; cases last
  have outside : top { root := opened, path, repeated, current } = opened := if_neg below
  rw [outside]
  exact (close_keeps closed).trans (atPath_keeps keeps changed)

theorem header_keeps (ran : b.header path = some after) : Keeps b.top after.top := by
  obtain ⟨root,closed,ran⟩ := Option.bind_eq_some_iff.mp ran
  obtain ⟨key,last,ran⟩ := Option.bind_eq_some_iff.mp ran
  obtain ⟨opened,changed,ran⟩ := Option.bind_eq_some_iff.mp ran
  cases ran
  refine opened_keeps closed last ?_ changed
  intro parent changed change
  split at change
  · cases change
    exact .refl
  · rename_i found
    cases change
    exact .filter found trivial
  · cases change

theorem repeatedHeader_keeps (ran : b.repeatedHeader path = some after) : Keeps b.top after.top := by
  obtain ⟨root,closed,ran⟩ := Option.bind_eq_some_iff.mp ran
  obtain ⟨key,last,ran⟩ := Option.bind_eq_some_iff.mp ran
  obtain ⟨opened,changed,ran⟩ := Option.bind_eq_some_iff.mp ran
  cases ran
  refine opened_keeps closed last ?_ changed
  intro parent changed change
  split at change
  · cases change
    exact .refl
  · cases change
    exact .refl
  · cases change

theorem pair_keeps (ran : b.pair path node = some after) : Keeps b.top after.top := by
  obtain ⟨key,-,ran⟩ := Option.bind_eq_some_iff.mp ran
  obtain ⟨current,added,ran⟩ := Option.bind_eq_some_iff.mp ran
  cases ran
  unfold top
  dsimp only
  split
  · exact addDotted_keeps added
  · exact .refl

end Building

theorem statement_keeps (ran : statement b text = some (after,rest)) : Keeps b.top after.top := by
  unfold statement at ran
  split at ran
  · obtain ⟨⟨path,one⟩,-,ran⟩ := Option.bind_eq_some_iff.mp ran
    obtain ⟨⟨_,two⟩,-,ran⟩ := Option.bind_eq_some_iff.mp ran
    obtain ⟨⟨_,three⟩,-,ran⟩ := Option.bind_eq_some_iff.mp ran
    obtain ⟨opened,headed,ran⟩ := Option.bind_eq_some_iff.mp ran
    obtain ⟨last,-,ran⟩ := Option.bind_eq_some_iff.mp ran
    cases ran
    exact Building.repeatedHeader_keeps headed
  · obtain ⟨⟨path,one⟩,-,ran⟩ := Option.bind_eq_some_iff.mp ran
    obtain ⟨⟨_,two⟩,-,ran⟩ := Option.bind_eq_some_iff.mp ran
    obtain ⟨opened,headed,ran⟩ := Option.bind_eq_some_iff.mp ran
    obtain ⟨last,-,ran⟩ := Option.bind_eq_some_iff.mp ran
    cases ran
    exact Building.header_keeps headed
  · obtain ⟨⟨path,one⟩,-,ran⟩ := Option.bind_eq_some_iff.mp ran
    obtain ⟨⟨_,two⟩,-,ran⟩ := Option.bind_eq_some_iff.mp ran
    obtain ⟨⟨node,three⟩,-,ran⟩ := Option.bind_eq_some_iff.mp ran
    obtain ⟨paired,added,ran⟩ := Option.bind_eq_some_iff.mp ran
    obtain ⟨last,-,ran⟩ := Option.bind_eq_some_iff.mp ran
    cases ran
    exact Building.pair_keeps added

theorem statements_keep (ran : statements fuel b text = some after) : Keeps b.top after.top := by
  induction fuel generalizing b text with
  | zero => cases ran
  | succ fuel ih =>
      unfold statements at ran
      split at ran
      · cases ran
        exact .refl
      · obtain ⟨rest,-,ran⟩ := Option.bind_eq_some_iff.mp ran
        exact ih ran
      · split at ran
        · exact ih ran
        · obtain ⟨⟨middle,rest⟩,first,ran⟩ := Option.bind_eq_some_iff.mp ran
          exact (statement_keeps first).trans (ih ran)

theorem value_string : value (fuel + 1) depth ('"' :: text) =
    (string ('"' :: text)).map fun (s,rest) => (.text s,rest) := rfl

theorem literal_apart {word : String} {d : Char} {letters : List Char} (spelled : word.toList = d :: letters)
    (apart : ∀ rest, text ≠ d :: rest) : literal word text = none := by
  unfold literal
  rw [spelled,if_neg]
  intro begins
  obtain ⟨rest,same⟩ := List.isPrefixOf_iff_prefix.mp begins
  exact apart _ same.symm

theorem value_toDigits (n : Nat) : value (fuel + 1) depth (Nat.toDigits 10 n ++ '\n' :: tail) =
    if n < 2 ^ 63 then some (.integer n,'\n' :: tail) else none := by
  have whole : integer (Nat.toDigits 10 n ++ '\n' :: tail) = _ := integer_toDigits n
  have fractional : real (Nat.toDigits 10 n ++ '\n' :: tail) = none := real_toDigits n
  have timed : moment (Nat.toDigits 10 n ++ '\n' :: tail) = none := moment_digits (Numeral.toDigits_digits n)
  obtain ⟨c,others,written,digit⟩ := Numeral.toDigits_front n
  rw [written,List.cons_append] at whole fractional timed ⊢
  rw [value]
  · unfold scalar
    split
    · exact absurd ‹_› (cons_ne_cons digit rfl)
    · exact absurd ‹_› (cons_ne_cons digit rfl)
    · have yes : literal "true" (c :: (others ++ '\n' :: tail)) = none :=
        literal_apart rfl fun _ => cons_ne_cons digit rfl
      have no : literal "false" (c :: (others ++ '\n' :: tail)) = none :=
        literal_apart rfl fun _ => cons_ne_cons digit rfl
      rw [yes,no]
      dsimp only
      rw [timed,fractional,whole]
      by_cases fits : n < 2 ^ 63
      · rw [if_pos fits,if_pos fits]
      · rw [if_neg fits,if_neg fits]
  · exact fun _ => cons_ne_cons digit rfl
  · exact fun _ => cons_ne_cons digit rfl

theorem bare_front (bare : ∀ c ∈ key.toList, isBare c) (named : key ≠ "") :
    ∃ c others, key.toList = c :: others ∧ isBare c := by
  obtain ⟨c,others,letters⟩ := List.exists_cons_of_ne_nil fun none => named (String.toList_eq_nil_iff.mp none)
  exact ⟨c,others,letters,bare c (letters ▸ List.mem_cons_self)⟩

theorem simpleKey_bare (bare : ∀ c ∈ key.toList, isBare c) (named : key ≠ "") :
    simpleKey (key.toList ++ ' ' :: text) = some (key,' ' :: text) := by
  have word : (key.toList ++ ' ' :: text).takeWhile isBare = key.toList := by
    rw [List.takeWhile_append_of_pos bare]
    exact List.append_nil _
  obtain ⟨c,others,letters,first⟩ := bare_front bare named
  unfold simpleKey
  rw [word]
  split
  · rename_i same
    rw [letters] at same
    exact absurd same (cons_ne_cons first rfl)
  · rename_i same
    rw [letters] at same
    exact absurd same (cons_ne_cons first rfl)
  · dsimp only
    rw [if_neg (by simp [named]),String.ofList_toList,List.drop_left]

theorem keys_bare (bare : ∀ c ∈ key.toList, isBare c) (named : key ≠ "") :
    keys (key.toList ++ ' ' :: '=' :: text) = some ([key],'=' :: text) := by
  have read : simpleKey (key.toList ++ ' ' :: '=' :: text) = _ := simpleKey_bare bare named
  have front : skipBlanks (key.toList ++ ' ' :: '=' :: text) = key.toList ++ ' ' :: '=' :: text := by
    obtain ⟨c,others,letters,first⟩ := bare_front bare named
    rw [letters]
    exact skipBlanks_cons (isBlank_bare first)
  unfold keys keysFrom
  rw [front,read]
  rfl

theorem statements_line (bare : ∀ c ∈ key.toList, isBare c) (named : key ≠ "") :
    statements (fuel + 1) b (key.toList ++ ' ' :: '=' :: text) =
      (value (2 * text.length + 2) 0 (skipBlanks text)).bind fun (node,rest) =>
        (b.pair [key] node).bind fun after => (lineEnd rest).bind fun rest => statements fuel after rest := by
  have path : keys (key.toList ++ ' ' :: '=' :: text) = _ := keys_bare bare named
  obtain ⟨c,others,letters,first⟩ := bare_front bare named
  rw [letters,List.cons_append] at path ⊢
  generalize others ++ ' ' :: '=' :: text = more at path ⊢
  have unended : newline (c :: more) = none := by
    unfold newline
    split
    · exact absurd ‹_› (cons_ne_cons first rfl)
    · exact absurd ‹_› (cons_ne_cons first rfl)
    · rfl
  have assigned : statement b (c :: more) = (value (2 * text.length + 2) 0 (skipBlanks text)).bind fun (node,rest) =>
      (b.pair [key] node).bind fun after => (lineEnd rest).bind fun rest => some (after,rest) := by
    unfold statement
    split
    · exact absurd ‹_› (cons_ne_cons first rfl)
    · exact absurd ‹_› (cons_ne_cons first rfl)
    · rw [path]
      rfl
  conv => lhs; unfold statements
  rw [skipBlanks_cons (isBlank_bare first)]
  split
  · cases ‹_›
  · exact absurd ‹_› (cons_ne_cons first rfl)
  · rw [unended,assigned]
    simp only [Option.bind_eq_bind,Option.bind_assoc]
    rfl

end LockLender.Toml
