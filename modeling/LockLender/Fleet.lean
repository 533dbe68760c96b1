import LockLender.Borrower
import LockLender.Lender

namespace LockLender

-- The notices of one operation at the lender. The next one goes out when the
-- outcome of the one before is known.
structure Errand where
  notices : List Notice
  sent : Bool := false
  deriving DecidableEq, Repr

structure Fleet where
  lender : Lender := {}
  members : Table ClientId Borrower := []
  -- By client and call; a call has one request out at most.
  requests : Table (ClientId × Nat) Request := []
  replies : Table (ClientId × Nat) (Except LockFault Reply) := []
  errands : Table Nat Errand := []
  -- Notices that went out and have not arrived.
  notices : Table Nat Notice := []
  nextErrand : Nat := 0
  nextNotice : Nat := 0

namespace Fleet

inductive Move where
  -- A client begins a local acquire or release, or handles a revoke.
  | begin (client : ClientId) (purpose : Borrower.Purpose) (lock : LockId)
  | retry (client : ClientId) (lock : LockId)
  | advance (client : ClientId) (call : Nat)
  -- A request reaches the lender, or fails on its way there.
  | serve (client : ClientId) (call : Nat)
  | refuse (client : ClientId) (call : Nat) (fault : LockFault)
  -- A reply arrives, or is lost and the call fails.
  | deliver (client : ClientId) (call : Nat)
  | lose (client : ClientId) (call : Nat) (fault : LockFault)
  -- The next notice of an errand goes out; it arrives or is lost; its
  -- outcome becomes known to the lender.
  | post (errand : Nat)
  | arrive (notice : Nat)
  | discard (notice : Nat)
  | settle (errand : Nat) (ok : Bool)
  -- A request in a client's name that comes from elsewhere.
  | direct (request : Request)
  deriving Repr

abbrev Happening := ClientId × Borrower.Effect

def record (fleet : Fleet) (client : ClientId) (b : Borrower) (effects : List Borrower.Effect) :
    Fleet × List Happening :=
  let requests := effects.foldl (fun requests effect =>
    match effect with
    | .ask call lock => Table.put requests (client,call) (.acquire lock client)
    | .giveBack call lock => Table.put requests (client,call) (.release lock client)
    | _ => requests) fleet.requests
  ({ fleet with members := fleet.members.put client b, requests },effects.map (client,·))

def dispatch (fleet : Fleet) (lender : Lender) (notices : List Notice) : Fleet :=
  if notices.isEmpty then { fleet with lender } else
  { fleet with
    lender
    errands := fleet.errands.put fleet.nextErrand { notices }
    nextErrand := fleet.nextErrand + 1 }

def begin (fleet : Fleet) (client : ClientId) (purpose : Borrower.Purpose) (lock : LockId) :
    Option (Fleet × List Happening) := do
  let b ← fleet.members.find? client
  let (_,b,effects) := b.begin purpose lock
  return fleet.record client b effects

def retry (fleet : Fleet) (client : ClientId) (lock : LockId) : Option (Fleet × List Happening) := do
  let b ← fleet.members.find? client
  let (b,effects) := b.retry lock
  return fleet.record client b effects

def answer (fleet : Fleet) (client : ClientId) (call : Nat) (reply : Except LockFault Reply) :
    Option (Fleet × List Happening) := do
  let b ← fleet.members.find? client
  let b ← b.answer call reply
  return { fleet with replies := fleet.replies.remove (client,call) }.record client b []

def step (fleet : Fleet) : Move → Option (Fleet × List Happening)
  | .begin client purpose lock => fleet.begin client purpose lock
  | .retry client lock => fleet.retry client lock
  | .advance client call => do
    let b ← fleet.members.find? client
    let (effects,b) ← b.advance call
    return fleet.record client b effects
  | .serve client call => do
    let request ← fleet.requests.find? (client,call)
    let (reply,notices,lender) := fleet.lender.serve request
    return ({ fleet with
      requests := fleet.requests.remove (client,call)
      replies := fleet.replies.put (client,call) (.ok reply) }.dispatch lender notices,[])
  | .refuse client call fault => do
    let _ ← fleet.requests.find? (client,call)
    return ({ fleet with
      requests := fleet.requests.remove (client,call)
      replies := fleet.replies.put (client,call) (.error fault) },[])
  | .deliver client call => do
    let reply ← fleet.replies.find? (client,call)
    fleet.answer client call reply
  | .lose client call fault => do
    let _ ← fleet.replies.find? (client,call)
    fleet.answer client call (.error fault)
  | .post errand => do
    let current ← fleet.errands.find? errand
    let notice ← current.notices.head?
    if current.sent then none
    return ({ fleet with
      errands := fleet.errands.put errand { current with sent := true }
      notices := fleet.notices.put fleet.nextNotice notice
      nextNotice := fleet.nextNotice + 1 },[])
  | .arrive id => do
    let notice ← fleet.notices.find? id
    let fleet := { fleet with notices := fleet.notices.remove id }
    match notice.callback with
    | .revoke lock => fleet.begin notice.client .revoke lock
    | .retry lock => fleet.retry notice.client lock
  | .discard id => do
    let _ ← fleet.notices.find? id
    return ({ fleet with notices := fleet.notices.remove id },[])
  | .settle errand ok => do
    let current ← fleet.errands.find? errand
    if !current.sent then none
    let notice ← current.notices.head?
    let errands := match current.notices.tail with
      | [] => fleet.errands.remove errand
      | rest => fleet.errands.put errand { notices := rest }
    return ({ fleet with lender := fleet.lender.noticed notice ok, errands },[])
  | .direct request =>
    let (_,notices,lender) := fleet.lender.serve request
    some (fleet.dispatch lender notices,[])

end Fleet
end LockLender
