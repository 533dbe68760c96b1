import LockLender.Lender
import LockLender.Service
import LockLender.Turns

namespace LockLender.Lender

-- Notices still to deliver in order; the first has been handed over when an
-- outcome is there.
structure Errand where
  notices : List Notice
  outcome : Option Bool := none
  deriving Repr

structure Turns where
  lender : Lender := {}
  failRevokes : Bool := false
  failRetries : Bool := false
  -- Notices wait to be answered one by one.
  gated : Bool := false
  ready : List Errand := []
  waiting : List Errand := []
  log : List Notice := []
  deriving Repr

namespace Turns

def dispatch (turns : Turns) (notices : List Notice) : Turns :=
  if notices.isEmpty then turns else { turns with ready := turns.ready ++ [{ notices }] }

def fails (turns : Turns) (notice : Notice) : Bool :=
  match notice.callback with
  | .revoke _ => turns.failRevokes
  | .retry _ => turns.failRetries

def deliver (turns : Turns) : List Notice → Turns
  | [] => turns
  | notice :: rest =>
    let turns := { turns with log := turns.log ++ [notice] }
    if turns.gated then { turns with waiting := turns.waiting ++ [{ notices := notice :: rest }] }
    else deliver { turns with lender := turns.lender.noticed notice (!turns.fails notice) } rest

def turn (turns : Turns) : Option Turns :=
  match turns.ready with
  | [] => none
  | errand :: ready =>
    let turns := { turns with ready }
    match errand.outcome,errand.notices with
    | some ok,notice :: rest => some (deliver { turns with lender := turns.lender.noticed notice ok } rest)
    | _,notices => some (deliver turns notices)

def settled (turns : Turns) : Turns := settle turn turns

def serve (turns : Turns) (request : Request) : Reply × Turns :=
  let (reply,notices,lender) := turns.lender.serve request
  (reply,dispatch { turns with lender } notices)

def acquire (turns : Turns) (lock : LockId) (client : ClientId) : Status × Turns :=
  let (status,notices,lender) := turns.lender.acquire lock client
  (status,dispatch { turns with lender } notices)

def release (turns : Turns) (lock : LockId) (client : ClientId) : Except LockFault Unit × Turns :=
  match turns.lender.release lock client with
  | (.ok notices,lender) => (.ok (),dispatch { turns with lender } notices)
  | (.error fault,lender) => (.error fault,{ turns with lender })

def answer (turns : Turns) (index : Nat) (ok : Bool) : Option Turns := do
  let errand ← turns.waiting[index]?
  return { turns with
    waiting := turns.waiting.eraseIdx index
    ready := turns.ready ++ [{ errand with outcome := some ok }] }

def service : Service Turns where
  acquire turns lock client :=
    let (reply,turns) := turns.serve (.acquire lock client)
    (.ok reply,turns)
  release turns lock client :=
    let (reply,turns) := turns.serve (.release lock client)
    (.ok reply,turns)
  stat turns _ := (.ok turns.lender.stat,turns)

def takeLog (turns : Turns) : List Notice × Turns := (turns.log,{ turns with log := [] })

end Turns
end LockLender.Lender
