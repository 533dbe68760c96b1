namespace LockLender

abbrev Table (κ ν : Type) := List (κ × ν)

namespace Table
variable {κ ν : Type} [DecidableEq κ]

def find? (table : Table κ ν) (key : κ) : Option ν :=
  match table with
  | [] => none
  | (k,value) :: rest => if k = key then some value else find? rest key

def put (table : Table κ ν) (key : κ) (value : ν) : Table κ ν :=
  match table with
  | [] => [(key,value)]
  | (k,old) :: rest => if k = key then (key,value) :: rest else (k,old) :: put rest key value

def remove (table : Table κ ν) (key : κ) : Table κ ν := table.filter (·.1 ≠ key)

@[simp] theorem find?_put_self (table : Table κ ν) (key : κ) (value : ν) :
    (table.put key value).find? key = some value := by
  induction table with
  | nil => simp [put,find?]
  | cons pair rest ih =>
      obtain ⟨k,old⟩ := pair
      by_cases same : k = key <;> simp [put,find?,same,ih]

theorem find?_put_ne (table : Table κ ν) {key other : κ} (value : ν) (differ : other ≠ key) :
    (table.put key value).find? other = table.find? other := by
  induction table with
  | nil => simp [put,find?,Ne.symm differ]
  | cons pair rest ih =>
      obtain ⟨k,old⟩ := pair
      by_cases same : k = key
      · subst same
        simp [put,find?,Ne.symm differ]
      · by_cases hit : k = other
        · subst hit
          simp [put,find?,same]
        · simp [put,find?,same,hit,ih]

@[simp] theorem find?_remove_self (table : Table κ ν) (key : κ) :
    (table.remove key).find? key = none := by
  induction table with
  | nil => rfl
  | cons pair rest ih =>
      obtain ⟨k,old⟩ := pair
      by_cases same : k = key
      · simpa [remove,same] using ih
      · simpa [remove,find?,same] using ih

theorem find?_remove_ne (table : Table κ ν) {key other : κ} (differ : other ≠ key) :
    (table.remove key).find? other = table.find? other := by
  induction table with
  | nil => rfl
  | cons pair rest ih =>
      obtain ⟨k,old⟩ := pair
      by_cases same : k = key
      · subst same
        simpa [remove,find?,Ne.symm differ] using ih
      · by_cases hit : k = other
        · subst hit
          simp [remove,find?,same]
        · simpa [remove,find?,same,hit] using ih

end Table
end LockLender
