namespace LockLender.Numeral

def decimal (n : Nat) : String := String.ofList (Nat.toDigits 10 n)

def hex (width n : Nat) : String :=
  let digits := (Nat.toDigits 16 n).map Char.toUpper
  String.ofList (List.replicate (width - digits.length) '0' ++ digits)

def shortHex (n : Nat) : String := String.ofList (Nat.toDigits 16 n)

def digit? (c : Char) : Option Nat :=
  if '0' ≤ c ∧ c ≤ '9' then some (c.toNat - '0'.toNat) else none

def hexDigit? (c : Char) : Option Nat :=
  if '0' ≤ c ∧ c ≤ '9' then some (c.toNat - '0'.toNat)
  else if 'a' ≤ c ∧ c ≤ 'f' then some (c.toNat - 'a'.toNat + 10)
  else if 'A' ≤ c ∧ c ≤ 'F' then some (c.toNat - 'A'.toNat + 10)
  else none

def positional? (read : Char → Option Nat) (base : Nat) (text : List Char) : Option Nat :=
  text.foldl (fun total c => do return (← total) * base + (← read c)) (some 0)

def digits? (text : List Char) : Option Nat :=
  if text.isEmpty then none else positional? digit? 10 text

-- A number that a machine word of the given size holds; one leading plus
-- sign is allowed, a minus sign is not.
def word? (size : Nat) (text : List Char) : Option Nat := do
  let n ← digits? (match text with | '+' :: rest => rest | _ => text)
  if n < size then some n else none

end LockLender.Numeral
