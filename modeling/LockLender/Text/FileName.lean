namespace LockLender.FileName

def last (name : List Char) : List Char := (name.reverse.takeWhile (· ≠ '/')).reverse

def atDot? (name : List Char) : Option (List Char × List Char) :=
  match name.reverse.dropWhile (· ≠ '.') with
  | [] => none
  | _ :: front => some (front.reverse,(name.reverse.takeWhile (· ≠ '.')).reverse)

def extension? (name : String) : Option String :=
  let name := last name.toList
  if name = ['.','.'] then none else
  match atDot? name with
  | none | some ([],_) => none
  | some (_,extension) => some (String.ofList extension)

theorem last_behind_slash {directory name : List Char} (single : '/' ∉ name) :
    last (directory ++ '/' :: name) = name := by
  have part : ∀ c ∈ name.reverse, decide (c ≠ '/') = true := by
    intro c member
    exact decide_eq_true fun slash => single (slash ▸ List.mem_reverse.mp member)
  unfold last
  rw [List.reverse_append,List.reverse_cons,List.append_assoc,List.takeWhile_append_of_pos part,
    List.singleton_append,List.takeWhile_cons_of_neg (by decide),List.append_nil,List.reverse_reverse]

end LockLender.FileName
