import LockLender.Borrower
import LockLender.Service
import LockLender.Turns

namespace LockLender.Borrower

inductive Job where
  | begin (purpose : Purpose) (lock : LockId)
  | frame (frame : Frame)
  | resume (call : Nat)
  deriving Repr

inductive Event where
  | requested (operation : Operation) (lock : LockId)
  | hook (lock : LockId)
  | done (purpose : Purpose) (lock : LockId) (outcome : Outcome)
  | handled (answer : Except LinkFault Bytes)

structure Turns where
  borrower : Borrower
  -- Someone still holds on to the client from outside.
  kept : Bool := true
  ready : List Job := []
  -- Calls whose requests the server has not answered, the oldest first.
  requests : List Nat := []
  presets : List (Except LockFault Reply) := []
  -- Calls made on behalf of a callback frame.
  framed : List Nat := []
  log : List Event := []

namespace Turns

def note (turns : Turns) (event : Event) : Turns := { turns with log := turns.log ++ [event] }

def request (turns : Turns) (operation : Operation) (call : Nat) (lock : LockId) : Turns :=
  let turns := turns.note (.requested operation lock)
  match turns.presets with
  | [] => { turns with requests := turns.requests ++ [call] }
  | reply :: presets =>
    { turns with presets, borrower := (turns.borrower.answer call reply).getD turns.borrower }

def effect (turns : Turns) : Effect → Turns
  | .ask call lock => turns.request .acquire call lock
  | .giveBack call lock => turns.request .release call lock
  | .hook lock => turns.note (.hook lock)
  | .wake calls => { turns with ready := turns.ready ++ calls.map Job.resume }
  | .done call purpose lock outcome =>
    if call ∈ turns.framed then
      { turns.note (.handled (answerOf (outcome.map fun _ => CallbackReply.ack))) with
        framed := turns.framed.erase call }
    else turns.note (.done purpose lock outcome)

def effects (turns : Turns) (effects : List Effect) : Turns := effects.foldl effect turns

def stepCall (id : Nat) (turns : Turns) : Option Turns := do
  let (effects,borrower) ← turns.borrower.advance id
  return Turns.effects { turns with borrower } effects

def resume (turns : Turns) (id : Nat) : Turns := settle (stepCall id) turns

def begin (turns : Turns) (framed : Bool) (purpose : Purpose) (lock : LockId) : Turns :=
  let (id,borrower,effects) := turns.borrower.begin purpose lock
  let turns := { turns with borrower, framed := if framed then id :: turns.framed else turns.framed }
  (turns.effects effects).resume id

def retry (turns : Turns) (lock : LockId) : Turns :=
  let (borrower,effects) := turns.borrower.retry lock
  Turns.effects { turns with borrower } effects

-- A client that nobody keeps lives on as long as a call is under way.
def alive (turns : Turns) : Bool :=
  turns.kept || !turns.borrower.calls.isEmpty || turns.ready.any fun | .begin .. => true | _ => false

def heed (callback : Callback) : OptionT (StateM Turns) (Except LockFault CallbackReply) := fun turns =>
  if !turns.alive then (none,turns.note (.handled (.error (.remote "lock client shut down")))) else
  match callback with
  | .revoke lock => (none,turns.begin true .revoke lock)
  | .retry lock => (some (.ok .ack),turns.retry lock)

def handle (turns : Turns) (frame : Frame) : Turns :=
  match (frame.handled Callback.opcode Callback.shown heed).run turns with
  | (none,turns) => turns
  | (some answer,turns) => turns.note (.handled answer)

def turn (turns : Turns) : Option Turns :=
  match turns.ready with
  | [] => none
  | job :: ready =>
    let turns := { turns with ready }
    match job with
    | .begin purpose lock => some (turns.begin false purpose lock)
    | .frame frame => some (turns.handle frame)
    | .resume call => some (turns.resume call)

def settled (turns : Turns) : Turns := settle turn turns

def submit (turns : Turns) (job : Job) : Turns := { turns with ready := turns.ready ++ [job] }

def reply (turns : Turns) (index : Nat) (reply : Except LockFault Reply) : Option Turns := do
  let call ← turns.requests[index]?
  let borrower ← turns.borrower.answer call reply
  return { turns with
    borrower
    requests := turns.requests.eraseIdx index
    ready := turns.ready ++ [.resume call] }

def takeLog (turns : Turns) : List Event × Turns := (turns.log,{ turns with log := [] })

end Turns
end LockLender.Borrower
