namespace LockLender.Double

-- Halfway between the largest double and what would be the next one; from
-- here on rounding gives no finite number.
def bound : Nat := Nat.pow 2 1024 - Nat.pow 2 970

def overflows (significand : Nat) (power : Int) : Bool :=
  let size : Int := (Nat.toDigits 10 significand).length + power
  if significand = 0 ∨ size < 300 then false
  else if size > 320 then true
  else if power < 0 then bound * Nat.pow 10 (-power).toNat ≤ significand
  else bound ≤ significand * Nat.pow 10 power.toNat

-- A whole number below the bound in the 53 binary digits of a double. It goes
-- to the nearer neighbour, and from halfway to the even one.
def nearest (n : Nat) : Nat :=
  let unit := Nat.pow 2 (n.log2 - 52)
  let units := n / unit
  let left := 2 * (n % unit)
  if unit < left ∨ (unit = left ∧ units % 2 = 1) then (units + 1) * unit else units * unit

-- Whether the product of both as doubles is too large. A power of ten past
-- the largest double is too large for any significand but zero.
def productOverflows (significand : Nat) (power : Int) : Bool :=
  if significand = 0 ∨ power < 0 then false
  else if 308 < power then true
  else bound ≤ nearest significand * nearest (Nat.pow 10 power.toNat)

end LockLender.Double
