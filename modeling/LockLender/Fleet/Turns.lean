import LockLender.Fleet
import LockLender.Turns

namespace LockLender.Fleet

inductive Job where
  | begin (client : ClientId) (purpose : Borrower.Purpose) (lock : LockId)
  | resume (client : ClientId) (call : Nat)
  | errand (id : Nat)
  deriving Repr

inductive Event where
  | hook (client : ClientId) (lock : LockId) (owner : Option ClientId)
  | done (purpose : Borrower.Purpose) (client : ClientId) (lock : LockId) (outcome : Borrower.Outcome)

structure Turns where
  fleet : Fleet := {}
  -- Clients that someone holds on to, and those the lender can find.
  kept : List ClientId := []
  registered : List ClientId := []
  ready : List Job := []
  -- Revokes handled for the lender rather than for a local caller, and how
  -- the last of them ended.
  behalf : List (ClientId × Nat) := []
  verdict : Borrower.Outcome := .ok ()
  delivered : List Notice := []
  log : List Event := []

namespace Turns

def join (turns : Turns) (borrower : Borrower) : Turns :=
  { turns with
    fleet := { turns.fleet with members := turns.fleet.members.put borrower.id borrower }
    kept := turns.kept ++ [borrower.id]
    registered := turns.registered ++ [borrower.id] }

def alive (turns : Turns) (client : ClientId) : Bool :=
  turns.kept.contains client ||
    (match turns.fleet.members.find? client with
    | none => false
    | some b => !b.calls.isEmpty) ||
    turns.ready.any fun | .begin c .. => c == client | _ => false

def reachable (turns : Turns) (client : ClientId) : Bool :=
  turns.registered.contains client && turns.alive client

def act (turns : Turns) (move : Move) : Option (Turns × List Happening) := do
  let (fleet,happenings) ← turns.fleet.step move
  let jobs := if fleet.nextErrand > turns.fleet.nextErrand then [Job.errand turns.fleet.nextErrand] else []
  return ({ turns with fleet, ready := turns.ready ++ jobs },happenings)

def force (turns : Turns) (move : Move) : Turns := ((turns.act move).map (·.1)).getD turns

def happen (turns : Turns) : Happening → Turns
  | (client,.ask call _) | (client,.giveBack call _) =>
    (turns.force (.serve client call)).force (.deliver client call)
  | (client,.hook lock) =>
    let owner := (turns.fleet.lender.loan? lock).bind (·.owner)
    { turns with log := turns.log ++ [.hook client lock owner] }
  | (client,.wake calls) => { turns with ready := turns.ready ++ calls.map (Job.resume client) }
  | (client,.done call purpose lock outcome) =>
    if (client,call) ∈ turns.behalf then
      { turns with behalf := turns.behalf.erase (client,call), verdict := outcome }
    else { turns with log := turns.log ++ [.done purpose client lock outcome] }

def perform (turns : Turns) (move : Move) : Option Turns := do
  let (turns,happenings) ← turns.act move
  return happenings.foldl happen turns

def resume (turns : Turns) (client : ClientId) (call : Nat) : Turns :=
  settle (perform · (.advance client call)) turns

def run (turns : Turns) (client : ClientId) (behalf : Bool) (move : Move) : Turns :=
  match turns.fleet.members.find? client with
  | none => turns
  | some b =>
    let turns := if behalf then { turns with behalf := (client,b.nextCall) :: turns.behalf } else turns
    ((turns.perform move).getD turns).resume client b.nextCall

-- Hands one notice to its client. A client that cannot be found counts as a
-- lost connection; `lost` is the move that then takes the notice off its way.
def hand (turns : Turns) (notice : Notice) (arrive : Move) (lost : Option Move) : Borrower.Outcome × Turns :=
  let turns := { turns with delivered := turns.delivered ++ [notice] }
  if !turns.reachable notice.client then (.error (.link .reset),(lost.bind turns.perform).getD turns) else
  match notice.callback with
  | .revoke _ =>
    let turns := run { turns with verdict := .ok () } notice.client true arrive
    (turns.verdict,turns)
  | .retry _ => (.ok (),(turns.perform arrive).getD turns)

def sink (turns : Turns) (notice : Notice) : Borrower.Outcome × Turns :=
  match notice.callback with
  | .revoke lock => turns.hand notice (.begin notice.client .revoke lock) none
  | .retry lock => turns.hand notice (.retry notice.client lock) none

def stepErrand (id : Nat) (turns : Turns) : Option Turns := do
  let errand ← turns.fleet.errands.find? id
  let notice ← errand.notices.head?
  let number := turns.fleet.nextNotice
  let turns ← turns.perform (.post id)
  let (outcome,turns) := turns.hand notice (.arrive number) (some (.discard number))
  turns.perform (.settle id outcome.isOk)

def turn (turns : Turns) : Option Turns :=
  match turns.ready with
  | [] => none
  | job :: ready =>
    let turns := { turns with ready }
    match job with
    | .begin client purpose lock => some (turns.run client false (.begin client purpose lock))
    | .resume client call => some (turns.resume client call)
    | .errand id => some (settle (stepErrand id) turns)

def settled (turns : Turns) : Turns := settle turn turns

def submit (turns : Turns) (job : Job) : Turns := { turns with ready := turns.ready ++ [job] }

def call (turns : Turns) (client : ClientId) (purpose : Borrower.Purpose) (lock : LockId) : Turns :=
  turns.submit (.begin client purpose lock)

def hint (turns : Turns) (client : ClientId) (lock : LockId) : Turns :=
  (turns.perform (.retry client lock)).getD turns

def direct (turns : Turns) (request : Request) : Reply × Turns :=
  ((turns.fleet.lender.serve request).1,turns.force (.direct request))

def takeLog (turns : Turns) : List Event × Turns := (turns.log,{ turns with log := [] })

end Turns
end LockLender.Fleet
