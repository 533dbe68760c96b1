import LockLender.Bytes
import LockLender.Text.Numeral

namespace LockLender.Utf8

def encode (text : String) : Bytes := text.toList.flatMap String.utf8EncodeChar

inductive Flaw where
  | invalid (length : Nat)
  | incomplete
  deriving DecidableEq, Repr

inductive Front where
  | done
  | char (c : Char) (size : Nat)
  | flaw (f : Flaw)

def tail (b : UInt8) : Bool := 0x80 ≤ b && b ≤ 0xBF

-- The octets that may follow a leading octet of a longer character; they
-- shut out overlong forms, surrogates and numbers past the last character.
def second (lead b : UInt8) : Bool :=
  if lead = 0xE0 then 0xA0 ≤ b && b ≤ 0xBF
  else if lead = 0xED then 0x80 ≤ b && b ≤ 0x9F
  else if lead = 0xF0 then 0x90 ≤ b && b ≤ 0xBF
  else if lead = 0xF4 then 0x80 ≤ b && b ≤ 0x8F
  else tail b

def low (b : UInt8) : Nat := b.toNat % 64

def front : Bytes → Front
  | [] => .done
  | a :: rest =>
    if a < 0x80 then .char (Char.ofNat a.toNat) 1
    else if a < 0xC2 then .flaw (.invalid 1)
    else if a < 0xE0 then
      match rest with
      | [] => .flaw .incomplete
      | b :: _ =>
        if tail b then .char (Char.ofNat ((a.toNat % 32) * 64 + low b)) 2
        else .flaw (.invalid 1)
    else if a < 0xF0 then
      match rest with
      | [] => .flaw .incomplete
      | [b] => if second a b then .flaw .incomplete else .flaw (.invalid 1)
      | b :: c :: _ =>
        if !second a b then .flaw (.invalid 1)
        else if !tail c then .flaw (.invalid 2)
        else .char (Char.ofNat (((a.toNat % 16) * 64 + low b) * 64 + low c)) 3
    else if a < 0xF5 then
      match rest with
      | [] => .flaw .incomplete
      | [b] => if second a b then .flaw .incomplete else .flaw (.invalid 1)
      | [b,c] =>
        if !second a b then .flaw (.invalid 1)
        else if !tail c then .flaw (.invalid 2) else .flaw .incomplete
      | b :: c :: d :: _ =>
        if !second a b then .flaw (.invalid 1)
        else if !tail c then .flaw (.invalid 2)
        else if !tail d then .flaw (.invalid 3)
        else .char (Char.ofNat ((((a.toNat % 8) * 64 + low b) * 64 + low c) * 64 + low d)) 4
    else .flaw (.invalid 1)

structure Fault where
  flaw : Flaw
  index : Nat
  deriving DecidableEq, Repr

def Fault.message (fault : Fault) : String :=
  match fault.flaw with
  | .invalid length =>
    "invalid utf-8 sequence of " ++ Numeral.decimal length ++ " bytes from index " ++ Numeral.decimal fault.index
  | .incomplete => "incomplete utf-8 byte sequence from index " ++ Numeral.decimal fault.index

-- Each character uses at least one octet, so the octets bound the count.
def charsFrom : Nat → Nat → Bytes → Except Fault (List Char)
  | 0, _, _ => .ok []
  | fuel+1, index, bytes =>
    match front bytes with
    | .done => .ok []
    | .flaw f => .error ⟨f,index⟩
    | .char c size => (charsFrom fuel (index + size) (bytes.drop size)).map (c :: ·)

def decode (bytes : Bytes) : Except Fault String :=
  (charsFrom bytes.length 0 bytes).map String.ofList

def replacement : Char := Char.ofNat 0xFFFD

def forgiveFrom : Nat → Bytes → List Char
  | 0, _ => []
  | fuel+1, bytes =>
    match front bytes with
    | .done => []
    | .char c size => c :: forgiveFrom fuel (bytes.drop size)
    | .flaw (.invalid length) => replacement :: forgiveFrom fuel (bytes.drop length)
    | .flaw .incomplete => [replacement]

def forgive (bytes : Bytes) : String := String.ofList (forgiveFrom bytes.length bytes)

end LockLender.Utf8
