import LockLender.Gate
import LockLender.Turns

namespace LockLender.Gate

inductive Job where
  | request (request : Request)
  | caller (id : Nat)
  deriving Repr

structure Answered where
  operation : Operation
  lock : LockId
  count : UInt64
  deriving DecidableEq, Repr

structure Turns where
  gate : Gate := {}
  ready : List Job := []
  log : List Answered := []
  deriving Repr

namespace Turns

def release (turns : Turns) (lock : LockId) : UInt64 × Turns :=
  let (woken,gate) := turns.gate.release lock
  (gate.stat,{ turns with gate, ready := turns.ready ++ woken.toList.map Job.caller })

def answered (turns : Turns) (operation : Operation) (lock : LockId) (count : UInt64) : Turns :=
  { turns with log := turns.log ++ [⟨operation,lock,count⟩] }

def step (id : Nat) (turns : Turns) : Option Turns := do
  let caller ← turns.gate.callers.find? id
  let (count,gate) ← turns.gate.advance id
  let turns := { turns with gate }
  match count with
  | none => return turns
  | some count => return turns.answered .acquire caller.lock count

def work (turns : Turns) : Job → Turns
  | .caller id => settle (step id) turns
  | .request (.acquire lock client) =>
    let (id,gate) := turns.gate.enter client lock
    settle (step id) { turns with gate }
  | .request (.release lock _) =>
    let (count,turns) := turns.release lock
    turns.answered .release lock count
  | .request (.stat lock) => turns.answered .stat lock turns.gate.stat

def turn (turns : Turns) : Option Turns :=
  match turns.ready with
  | [] => none
  | job :: rest => some (work { turns with ready := rest } job)

def submit (turns : Turns) (request : Request) : Turns :=
  { turns with ready := turns.ready ++ [.request request] }

def settled (turns : Turns) : Turns := settle turn turns

def takeLog (turns : Turns) : List Answered × Turns := (turns.log,{ turns with log := [] })

end Turns
end LockLender.Gate
