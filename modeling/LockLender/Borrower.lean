import LockLender.Lock.Fault
import LockLender.Table

namespace LockLender

namespace Borrower

structure Entry where
  state : LockState := .idle
  -- Acquire calls that have not returned.
  waiting : Nat := 0
  -- The server wants the lock back.
  revoked : Bool := false
  -- The server said that the acquire now under way got the lock.
  signal : Bool := false
  -- Calls to be woken at the next change, in the order they registered.
  watchers : List Nat := []
  deriving DecidableEq, Repr

inductive Purpose where
  | acquire
  | release
  | revoke
  deriving DecidableEq, Repr

def Purpose.name : Purpose → String
  | .acquire => "acquire"
  | .release => "release"
  | .revoke => "revoke"

abbrev Outcome := Except LockFault Unit

-- Where a call stands. The first three belong to an acquire that looks for a
-- free lock, the next six to one that asks the server, the last three to a
-- release or revoke that gives the lock back.
inductive Place where
  | arriving
  | looking
  | parked
  | asking
  | asked
  | queued
  | watching
  | dozing
  | settling (outcome : Outcome)
  | returning
  | returned
  | closing (outcome : Outcome)
  deriving Repr

structure Call where
  purpose : Purpose
  lock : LockId
  place : Place
  deriving Repr

structure Stats where
  acquireRpcs : Nat := 0
  cacheHits : Nat := 0
  releaseRpcs : Nat := 0
  retriesReceived : Nat := 0
  revokesReceived : Nat := 0
  deriving DecidableEq, Repr

inductive Effect where
  | ask (call : Nat) (lock : LockId)
  | giveBack (call : Nat) (lock : LockId)
  -- The holder's chance to write back what the lock protects.
  | hook (lock : LockId)
  | wake (calls : List Nat)
  | done (call : Nat) (purpose : Purpose) (lock : LockId) (outcome : Outcome)
  deriving Repr

end Borrower

structure Borrower where
  id : ClientId
  -- With fewer acquires than this waiting, a revoked lock goes back on release.
  threshold : Nat
  hooked : Bool
  entries : Table LockId Borrower.Entry := []
  calls : Table Nat Borrower.Call := []
  nextCall : Nat := 0
  stats : Borrower.Stats := {}
  deriving Repr

namespace Borrower

-- A threshold of zero would keep a revoked lock for ever.
def new (id : ClientId) (threshold : Nat) (hooked : Bool) : Borrower :=
  { id, threshold := max threshold 1, hooked }

def plain (id : ClientId) : Borrower := new id 1 false

def entry? (b : Borrower) (lock : LockId) : Option Entry := b.entries.find? lock

def entry (b : Borrower) (lock : LockId) : Entry := (b.entry? lock).getD {}

def state? (b : Borrower) (lock : LockId) : Option LockState := (b.entry? lock).map (·.state)

def write (b : Borrower) (lock : LockId) (entry : Entry) : Borrower :=
  { b with entries := b.entries.put lock entry }

def change (b : Borrower) (lock : LockId) (entry : Entry) : List Effect × Borrower :=
  ([.wake entry.watchers],b.write lock { entry with watchers := [] })

def move (b : Borrower) (id : Nat) (call : Call) (place : Place) : Borrower :=
  { b with calls := b.calls.put id { call with place } }

def finish (b : Borrower) (id : Nat) (call : Call) (outcome : Outcome) : List Effect × Borrower :=
  ([.done id call.purpose call.lock outcome],{ b with calls := b.calls.remove id })

def openCall (b : Borrower) (purpose : Purpose) (lock : LockId) (place : Place) : Nat × Borrower :=
  (b.nextCall,{ b with calls := b.calls.put b.nextCall ⟨purpose,lock,place⟩, nextCall := b.nextCall + 1 })

def brief (b : Borrower) (purpose : Purpose) (lock : LockId) (outcome : Outcome) : Nat × Borrower × List Effect :=
  (b.nextCall,{ b with nextCall := b.nextCall + 1 },[.done b.nextCall purpose lock outcome])

-- Each act is indivisible, and acts of different calls may fall in any order.
def acquire (b : Borrower) (lock : LockId) : Nat × Borrower × List Effect :=
  let entry := b.entry lock
  let (id,b) := (b.write lock { entry with waiting := entry.waiting + 1 }).openCall .acquire lock .arriving
  (id,b,[])

def release (b : Borrower) (lock : LockId) : Nat × Borrower × List Effect :=
  match b.entry? lock with
  | none => b.brief .release lock (.error (.noSuchLock lock))
  | some entry =>
    if entry.state ≠ .held then b.brief .release lock (.error (.notHeld lock))
    else if entry.revoked ∧ entry.waiting < b.threshold then
      let (id,b) := (b.write lock { entry with state := .releasing }).openCall .release lock .returning
      (id,b,[])
    else
      let (woken,b) := b.change lock { entry with state := .cachedFree }
      let (id,b,effects) := b.brief .release lock (.ok ())
      (id,b,woken ++ effects)

-- The server wants the lock back. Only a lock that lies here unused goes at
-- once; while the lock is on its way back nothing more is needed.
def revoke (b : Borrower) (lock : LockId) : Nat × Borrower × List Effect :=
  let b := { b with stats := { b.stats with revokesReceived := b.stats.revokesReceived + 1 } }
  let entry := b.entry lock
  match entry.state with
  | .cachedFree =>
    let (id,b) := (b.write lock { entry with state := .releasing }).openCall .revoke lock .returning
    (id,b,[])
  | .releasing => (b.write lock entry).brief .revoke lock (.ok ())
  | _ => (b.write lock { entry with revoked := true }).brief .revoke lock (.ok ())

-- The server says the lock is now this client's. That means something only to
-- an acquire under way; at any other time it is stale.
def retry (b : Borrower) (lock : LockId) : Borrower × List Effect :=
  let b := { b with stats := { b.stats with retriesReceived := b.stats.retriesReceived + 1 } }
  let entry := b.entry lock
  if entry.state = .acquiring ∧ ¬ entry.signal then
    let (woken,b) := b.change lock { entry with signal := true }
    (b,woken)
  else (b.write lock entry,[])

def begin (b : Borrower) (purpose : Purpose) (lock : LockId) : Nat × Borrower × List Effect :=
  match purpose with
  | .acquire => b.acquire lock
  | .release => b.release lock
  | .revoke => b.revoke lock

def watch (b : Borrower) (id : Nat) (call : Call) (place : Place) : Borrower :=
  let entry := b.entry call.lock
  (b.write call.lock { entry with watchers := entry.watchers ++ [id] }).move id call place

-- A registered call looks at the lock: free here, it takes it; free to ask
-- for, it will ask the server; busy, it sleeps. A retry signal seen before
-- asking belongs to an older request; a wish to have the lock back does not,
-- for the server may count this client as owner already.
def look (b : Borrower) (id : Nat) (call : Call) : List Effect × Borrower :=
  let entry := b.entry call.lock
  let watchers := entry.watchers.erase id
  match entry.state with
  | .cachedFree =>
    let b := b.write call.lock { entry with state := .held, waiting := entry.waiting - 1, watchers }
    { b with stats := { b.stats with cacheHits := b.stats.cacheHits + 1 } }.finish id call (.ok ())
  | .idle =>
    let b := b.write call.lock { entry with state := .acquiring, signal := false, watchers }
    ([],b.move id call .asking)
  | _ => ([],b.move id call .parked)

def settleAcquire (b : Borrower) (id : Nat) (call : Call) (outcome : Outcome) : List Effect × Borrower :=
  let entry := b.entry call.lock
  let entry := { entry with waiting := entry.waiting - 1 }
  match outcome with
  | .ok () => (b.write call.lock { entry with state := .held }).finish id call outcome
  | .error _ =>
    let (woken,b) := b.change call.lock { entry with state := .idle }
    let (done,b) := b.finish id call outcome
    (woken ++ done,b)

-- The outcome of giving the lock back. After a failure the lock is still here
-- and still wanted, and the next release tries again.
def settleReturn (b : Borrower) (id : Nat) (call : Call) (outcome : Outcome) : List Effect × Borrower :=
  let entry := b.entry call.lock
  let entry := match outcome with
    | .ok () => { entry with state := .idle, revoked := false }
    | .error _ => { entry with state := .cachedFree, revoked := true }
  let (woken,b) := b.change call.lock entry
  let (done,b) := b.finish id call outcome
  (woken ++ done,b)

def advance (b : Borrower) (id : Nat) : Option (List Effect × Borrower) := do
  let call ← b.calls.find? id
  let entry := b.entry call.lock
  match call.place with
  | .arriving => return ([],b.watch id call .looking)
  | .looking => return b.look id call
  | .parked => if id ∈ entry.watchers then none else return ([],b.watch id call .looking)
  | .asking =>
    let b := { b with stats := { b.stats with acquireRpcs := b.stats.acquireRpcs + 1 } }
    return ([.ask id call.lock],b.move id call .asked)
  | .asked => none
  | .queued => return ([],b.watch id call .watching)
  | .watching =>
    if entry.signal then
      let b := b.write call.lock { entry with watchers := entry.watchers.erase id }
      return ([],b.move id call (.settling (.ok ())))
    else return ([],b.move id call .dozing)
  | .dozing => if id ∈ entry.watchers then none else return ([],b.watch id call .watching)
  | .settling outcome => return b.settleAcquire id call outcome
  | .returning =>
    let b := { b with stats := { b.stats with releaseRpcs := b.stats.releaseRpcs + 1 } }
    return ((if b.hooked then [.hook call.lock] else []) ++ [.giveBack id call.lock],b.move id call .returned)
  | .returned => none
  | .closing outcome => return b.settleReturn id call outcome

def afterAsk : Except LockFault Reply → Place
  | .ok .granted => .settling (.ok ())
  | .ok .retry => .queued
  | .ok reply => .settling (.error (.unexpected .acquire reply))
  | .error fault => .settling (.error fault)

-- A server that does not know the lock has no claim on it.
def afterReturn : Except LockFault Reply → Place
  | .ok .released | .ok (.noSuchLock _) => .closing (.ok ())
  | .ok reply => .closing (.error (.unexpected .release reply))
  | .error fault => .closing (.error fault)

def answer (b : Borrower) (id : Nat) (reply : Except LockFault Reply) : Option Borrower := do
  let call ← b.calls.find? id
  match call.place with
  | .asked => return b.move id call (afterAsk reply)
  | .returned => return b.move id call (afterReturn reply)
  | _ => none

def Stats.rpcs (stats : Stats) : Except Abort UInt64 :=
  checkedAdd (UInt64.ofNat stats.acquireRpcs) (UInt64.ofNat stats.releaseRpcs)

def states (b : Borrower) : List (LockId × LockState) :=
  (b.entries.map fun (lock,entry) => (lock,entry.state)).mergeSort fun one two => one.1.ordered two.1

end Borrower
end LockLender
