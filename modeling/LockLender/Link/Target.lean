import LockLender.Address.Reader
import LockLender.Wire.Fault

namespace LockLender

inductive Target where
  | socket (address : Address)
  | host (name : String) (port : UInt16)
  deriving DecidableEq, Repr

namespace Target

def named? (text : List Char) : Option Target :=
  let back := text.reverse
  match back.dropWhile (· ≠ ':') with
  | [] => none
  | _ :: front => do
    let port ← Numeral.word? 65536 (back.takeWhile (· ≠ ':')).reverse
    return .host (String.ofList front.reverse) (UInt16.ofNat port)

def parse? (text : String) : Option Target :=
  match Address.parse? text with
  | some address => some (.socket address)
  | none => named? text.toList

def dial {σ : Type} (connect : Target → Except LinkFault σ) (text : String) : Except LinkFault σ :=
  match parse? text with
  | some target => connect target
  | none => .error (.io .invalidInput)

end Target
end LockLender
