import LockLender.Text.Numeral

namespace LockLender

inductive Address where
  | v4 (octets : List UInt8) (port : UInt16)
  | v6 (groups : List UInt16) (scope : UInt32) (port : UInt16)
  deriving DecidableEq, Repr

namespace Address

def dotted (octets : List UInt8) : String :=
  String.intercalate "." (octets.map fun octet => Numeral.decimal octet.toNat)

def colons (groups : List UInt16) : String :=
  String.intercalate ":" (groups.map fun group => Numeral.shortHex group.toNat)

def zeros (groups : List UInt16) : Nat := (groups.takeWhile (· = 0)).length

def longestZeros (groups : List UInt16) : Nat × Nat :=
  (List.range groups.length).foldl (fun (start,length) i =>
    let here := zeros (groups.drop i)
    if here > length then (i,here) else (start,length)) (0,0)

def highLow (group : UInt16) : List UInt8 := [(group >>> 8).toUInt8,group.toUInt8]

-- An embedded address of the older kind keeps its dots; a run of one zero is
-- written out.
def groupsText (groups : List UInt16) : String :=
  match groups with
  | [0,0,0,0,0,0xFFFF,high,low] => "::ffff:" ++ dotted (highLow high ++ highLow low)
  | _ =>
    let (start,length) := longestZeros groups
    if length > 1 then colons (groups.take start) ++ "::" ++ colons (groups.drop (start + length))
    else colons groups

def text : Address → String
  | .v4 octets port => dotted octets ++ ":" ++ Numeral.decimal port.toNat
  | .v6 groups scope port =>
    let scope := if scope = 0 then "" else "%" ++ Numeral.decimal scope.toNat
    "[" ++ groupsText groups ++ scope ++ "]:" ++ Numeral.decimal port.toNat

end Address
end LockLender
