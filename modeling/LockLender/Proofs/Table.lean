import LockLender.Table

namespace LockLender.Table
variable {κ ν : Type} [DecidableEq κ] {table : Table κ ν} {key : κ} {value : ν}

def Distinct (table : Table κ ν) : Prop := (table.map Prod.fst).Nodup

def total (weight : ν → Nat) : Table κ ν → Nat
  | [] => 0
  | (_,value) :: rest => weight value + total weight rest

theorem mem_of_find? (found : table.find? key = some value) : (key,value) ∈ table := by
  induction table with
  | nil => simp [find?] at found
  | cons pair rest ih =>
      obtain ⟨k,old⟩ := pair
      by_cases same : k = key
      · simp only [find?,same,if_true,Option.some.injEq] at found
        simp [same,found]
      · simp only [find?,same,if_false] at found
        exact List.mem_cons_of_mem _ (ih found)

theorem find?_of_put {other : κ} {new : ν} (found : (table.put key new).find? other = some value) :
    (other = key ∧ value = new) ∨ table.find? other = some value := by
  by_cases same : other = key
  · rw [same,find?_put_self] at found
    exact .inl ⟨same,(Option.some.inj found).symm⟩
  · rw [find?_put_ne _ _ same] at found
    exact .inr found

theorem find?_of_remove {other : κ} (found : (table.remove key).find? other = some value) :
    table.find? other = some value := by
  by_cases same : other = key
  · rw [same,find?_remove_self] at found
    cases found
  · rwa [find?_remove_ne _ same] at found

theorem find?_isSome : (table.find? key).isSome ↔ key ∈ table.map Prod.fst := by
  induction table with
  | nil => simp [find?]
  | cons pair rest ih =>
      obtain ⟨k,old⟩ := pair
      by_cases same : k = key
      · simp [find?,same]
      · simp only [find?,same,if_false,ih,List.map_cons,List.mem_cons]
        constructor
        · exact .inr
        · rintro (equal | member)
          · exact absurd equal.symm same
          · exact member

theorem keys_put (table : Table κ ν) (key : κ) (value : ν) :
    (table.put key value).map Prod.fst =
      if (table.find? key).isSome then table.map Prod.fst else table.map Prod.fst ++ [key] := by
  induction table with
  | nil => simp [put,find?]
  | cons pair rest ih =>
      obtain ⟨k,old⟩ := pair
      by_cases same : k = key
      · simp [put,find?,same]
      · simp only [put,find?,same,if_false,List.map_cons,ih]
        split <;> rfl

theorem Distinct.put (distinct : table.Distinct) (key : κ) (value : ν) : (table.put key value).Distinct := by
  unfold Distinct
  rw [keys_put]
  split
  · exact distinct
  · rename_i absent
    refine List.nodup_append.mpr ⟨distinct,by simp,?_⟩
    rintro k member _ (⟨⟩ | ⟨_,⟨⟩⟩) rfl
    exact absent (find?_isSome.mpr member)

theorem Distinct.remove (distinct : table.Distinct) (key : κ) : (table.remove key).Distinct :=
  List.Sublist.nodup ((List.filter_sublist).map Prod.fst) distinct

theorem Distinct.find?_of_mem (distinct : table.Distinct) (member : (key,value) ∈ table) :
    table.find? key = some value := by
  induction table with
  | nil => cases member
  | cons pair rest ih =>
      obtain ⟨new,distinct⟩ := List.nodup_cons.mp distinct
      rcases List.mem_cons.mp member with rfl | member
      · simp [find?]
      · have differ : pair.1 ≠ key := by
          rintro rfl
          exact new (List.mem_map.mpr ⟨_,member,rfl⟩)
        simp [find?,differ,ih distinct member]

theorem length_put_le (table : Table κ ν) (key : κ) (value : ν) : (table.put key value).length ≤ table.length + 1 := by
  have keys := congrArg List.length (keys_put table key value)
  rw [List.length_map] at keys
  rw [keys]
  split
  · rw [List.length_map]
    exact Nat.le_succ _
  · rw [List.length_append,List.length_map]
    exact Nat.le_refl _

theorem length_remove_lt (found : table.find? key = some value) : (table.remove key).length < table.length := by
  apply List.length_filter_lt_length_iff_exists.mpr
  exact ⟨_,mem_of_find? found,by simp⟩

theorem find?_map (f : κ → ν → ν) (table : Table κ ν) (key : κ) :
    find? (table.map fun pair => (pair.1,f pair.1 pair.2)) key = (table.find? key).map (f key) := by
  induction table with
  | nil => rfl
  | cons pair rest ih =>
      by_cases same : pair.1 = key
      · simp [find?,same]
      · simp [find?,same,ih]

theorem total_put_new (weight : ν → Nat) (absent : table.find? key = none) (value : ν) :
    (table.put key value).total weight = table.total weight + weight value := by
  induction table with
  | nil => simp [put,total]
  | cons pair rest ih =>
      obtain ⟨k,old⟩ := pair
      have differ : k ≠ key := by
        rintro rfl
        simp [find?] at absent
      simp only [find?,differ,if_false] at absent
      have rest := ih absent
      simp only [total,put,differ,if_false] at rest ⊢
      omega

theorem total_put_old (weight : ν → Nat) {old : ν} (found : table.find? key = some old) (value : ν) :
    (table.put key value).total weight + weight old = table.total weight + weight value := by
  induction table with
  | nil => simp [find?] at found
  | cons pair rest ih =>
      obtain ⟨k,first⟩ := pair
      by_cases same : k = key
      · simp only [find?,same,if_true,Option.some.injEq] at found
        simp only [total,put,same,if_true,found]
        omega
      · simp only [find?,same,if_false] at found
        have rest := ih found
        simp only [total,put,same,if_false] at rest ⊢
        omega

theorem total_remove (weight : ν → Nat) (distinct : table.Distinct) (found : table.find? key = some value) :
    (table.remove key).total weight + weight value = table.total weight := by
  induction table with
  | nil => simp [find?] at found
  | cons pair rest ih =>
      obtain ⟨k,first⟩ := pair
      obtain ⟨new,distinct⟩ := List.nodup_cons.mp distinct
      by_cases same : k = key
      · subst same
        simp only [find?,if_true,Option.some.injEq] at found
        have kept : Table.remove rest k = rest := by
          apply List.filter_eq_self.mpr
          intro pair member
          have differ : pair.1 ≠ k := by
            rintro rfl
            exact new (List.mem_map.mpr ⟨pair,member,rfl⟩)
          simpa using differ
        have dropped : Table.remove ((k,first) :: rest) k = rest := by
          rw [← kept]
          simp [remove]
        rw [dropped,found]
        simp only [total]
        omega
      · simp only [find?,same,if_false] at found
        have rest := ih distinct found
        simp only [remove,List.filter_cons,same,ne_eq,not_false_eq_true,decide_true,if_true,total] at rest ⊢
        omega

def Below (table : Table Nat ν) (n : Nat) : Prop := ∀ k value, table.find? k = some value → k < n

variable {numbered : Table Nat ν} {n : Nat}

theorem Below.unused (below : numbered.Below n) : numbered.find? n = none := by
  cases found : numbered.find? n with
  | none => rfl
  | some value => exact absurd (below _ _ found) (Nat.lt_irrefl _)

theorem Below.put (below : numbered.Below n) {k : Nat} (used : (numbered.find? k).isSome) (value : ν) :
    (Table.put numbered k value).Below n := by
  intro j other found
  rcases find?_of_put found with ⟨rfl,-⟩ | found
  · obtain ⟨old,there⟩ := Option.isSome_iff_exists.mp used
    exact below _ _ there
  · exact below _ _ found

theorem Below.put_next (below : numbered.Below n) (value : ν) : (Table.put numbered n value).Below (n + 1) := by
  intro j other found
  rcases find?_of_put found with ⟨rfl,-⟩ | found
  · exact Nat.lt_succ_self _
  · exact Nat.lt_succ_of_lt (below _ _ found)

theorem Below.remove (below : numbered.Below n) (k : Nat) : (Table.remove numbered k).Below n :=
  fun _ _ found => below _ _ (find?_of_remove found)

end LockLender.Table
