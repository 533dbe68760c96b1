import LockLender.Address

namespace LockLender.Address

abbrev Reader (α : Type) := List Char → Option (α × List Char)

def char (c : Char) : Reader Unit
  | d :: rest => if d = c then some ((),rest) else none
  | [] => none

-- All digits that stand here, as a number below `limit`. Addresses of the
-- older kind know no leading zeros, and the parts of an address have a
-- largest number of digits.
def number (digit : Char → Option Nat) (base : Nat) (most : Option Nat) (zeros : Bool) (limit : Nat) :
    Reader Nat := fun text =>
  let digits := text.takeWhile fun c => (digit c).isSome
  let tooLong := match most with | some most => digits.length > most | none => false
  if digits.isEmpty || tooLong || (!zeros && digits.length > 1 && digits.head? == some '0') then none else
  match Numeral.positional? digit base digits with
  | some n => if n < limit then some (n,text.drop digits.length) else none
  | none => none

def octet : Reader Nat := number Numeral.digit? 10 (some 3) false 256

def group : Reader Nat := number Numeral.hexDigit? 16 (some 4) true 65536

def item {α : Type} (separator : Char) (index : Nat) (inner : Reader α) : Reader α := fun text => do
  let rest ← if index = 0 then some text else (char separator text).map (·.2)
  inner rest

def octets : Nat → Nat → Reader (List UInt8)
  | 0, _, text => some ([],text)
  | n+1, index, text => do
    let (first,rest) ← item '.' index octet text
    let (others,rest) ← octets n (index + 1) rest
    return (UInt8.ofNat first :: others,rest)

def four : Reader (List UInt8) := octets 4 0

def pairs : List UInt8 → List UInt16
  | high :: low :: rest => (high.toUInt16 <<< 8 ||| low.toUInt16) :: pairs rest
  | _ => []

-- Up to `room` groups; where two fit, four dotted octets may stand for the
-- last two. Says whether they did.
def groups : Nat → Nat → List Char → List UInt16 × Bool × List Char
  | 0, _, text => ([],false,text)
  | room+1, index, text =>
    match if room = 0 then none else item ':' index four text with
    | some (octets,rest) => (pairs octets,true,rest)
    | none =>
      match item ':' index group text with
      | none => ([],false,text)
      | some (n,rest) =>
        let (others,embedded,rest) := groups room (index + 1) rest
        (UInt16.ofNat n :: others,embedded,rest)

def eight : Reader (List UInt16) := fun text =>
  let (front,embedded,rest) := groups 8 0 text
  if front.length = 8 then some (front,rest)
  else if embedded then none
  else do
    let (_,rest) ← char ':' rest
    let (_,rest) ← char ':' rest
    let (back,_,rest) := groups (7 - front.length) 0 rest
    return (front ++ List.replicate (8 - front.length - back.length) 0 ++ back,rest)

def port : Reader UInt16 := fun text => do
  let (_,rest) ← char ':' text
  let (n,rest) ← number Numeral.digit? 10 none true 65536 rest
  return (UInt16.ofNat n,rest)

def scope : Reader UInt32 := fun text => do
  let (_,rest) ← char '%' text
  let (n,rest) ← number Numeral.digit? 10 none true 4294967296 rest
  return (UInt32.ofNat n,rest)

def v4Reader : Reader Address := fun text => do
  let (octets,rest) ← four text
  let (port,rest) ← port rest
  return (.v4 octets port,rest)

def v6Reader : Reader Address := fun text => do
  let (_,rest) ← char '[' text
  let (groups,rest) ← eight rest
  let (scope,rest) := (scope rest).getD (0,rest)
  let (_,rest) ← char ']' rest
  let (port,rest) ← port rest
  return (.v6 groups scope port,rest)

def parse? (text : String) : Option Address :=
  match (v4Reader text.toList).orElse fun _ => v6Reader text.toList with
  | some (address,[]) => some address
  | _ => none

end LockLender.Address
