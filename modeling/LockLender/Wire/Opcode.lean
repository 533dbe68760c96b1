namespace LockLender

inductive Opcode where
  | acquire
  | release
  | stat
  | revoke
  | retry
  deriving DecidableEq, Repr

namespace Opcode

def all : List Opcode := [.acquire,.release,.stat,.revoke,.retry]

def code : Opcode → UInt16
  | .acquire => 0x0101
  | .release => 0x0102
  | .stat => 0x0103
  | .revoke => 0x0201
  | .retry => 0x0202

def name : Opcode → String
  | .acquire => "Acquire"
  | .release => "Release"
  | .stat => "Stat"
  | .revoke => "Revoke"
  | .retry => "Retry"

def ofCode? (raw : UInt16) : Option Opcode := all.find? (·.code = raw)

def isCallback : Opcode → Bool
  | .revoke | .retry => true
  | _ => false

theorem ofCode?_eq_some {raw : UInt16} {opcode : Opcode} :
    ofCode? raw = some opcode ↔ opcode.code = raw := by
  constructor
  · intro found
    simpa using List.find?_some found
  · rintro rfl
    cases opcode <;> decide

end Opcode
end LockLender
