import LockLender.Lock.Message
import LockLender.Table

namespace LockLender

namespace Gate

structure Slot where
  held : Bool := false
  permit : Bool := false
  -- Callers asleep here, the longest asleep first.
  asleep : List Nat := []
  deriving DecidableEq, Repr

inductive Place where
  | looking
  | turnedAway
  | asleep
  deriving DecidableEq, Repr

structure Caller where
  client : ClientId
  lock : LockId
  place : Place
  deriving DecidableEq, Repr

end Gate

structure Gate where
  slots : Table LockId Gate.Slot := []
  -- Locks held now.
  count : Nat := 0
  callers : Table Nat Gate.Caller := []
  nextCaller : Nat := 0
  deriving Repr

namespace Gate

def slot (gate : Gate) (lock : LockId) : Slot := (gate.slots.find? lock).getD {}

def isHeld (gate : Gate) (lock : LockId) : Bool := (gate.slot lock).held

def stat (gate : Gate) : UInt64 := UInt64.ofNat gate.count

def enter (gate : Gate) (client : ClientId) (lock : LockId) : Nat × Gate :=
  (gate.nextCaller,
    { gate with
      callers := gate.callers.put gate.nextCaller ⟨client,lock,.looking⟩
      nextCaller := gate.nextCaller + 1 })

def place (gate : Gate) (id : Nat) (caller : Caller) (place : Place) : Gate :=
  { gate with callers := gate.callers.put id { caller with place } }

-- A caller that finds the lock held goes to sleep in a step of its own, so that a
-- release may fall between the two; it leaves a permit, and the caller looks again.
def advance (gate : Gate) (id : Nat) : Option (Option UInt64 × Gate) := do
  let caller ← gate.callers.find? id
  let slot := gate.slot caller.lock
  match caller.place with
  | .looking =>
    if slot.held then
      return (none,{ gate.place id caller .turnedAway with slots := gate.slots.put caller.lock slot })
    else
      return (some (UInt64.ofNat (gate.count + 1)),
        { gate with
          slots := gate.slots.put caller.lock { slot with held := true }
          count := gate.count + 1
          callers := gate.callers.remove id })
  | .turnedAway =>
    if slot.permit then
      return (none,
        { gate.place id caller .looking with slots := gate.slots.put caller.lock { slot with permit := false } })
    else
      return (none,
        { gate.place id caller .asleep with
          slots := gate.slots.put caller.lock { slot with asleep := slot.asleep ++ [id] } })
  | .asleep => none

-- Whoever asks, a held lock becomes free; of a free or unknown lock nothing
-- changes. The caller asleep longest is woken, or a permit is left.
def release (gate : Gate) (lock : LockId) : Option Nat × Gate :=
  match gate.slots.find? lock with
  | none => (none,gate)
  | some slot =>
    if !slot.held then (none,gate) else
    let gate := { gate with count := gate.count - 1 }
    match slot.asleep with
    | [] => (none,{ gate with slots := gate.slots.put lock { slot with held := false, permit := true } })
    | id :: rest =>
      let gate := { gate with slots := gate.slots.put lock { slot with held := false, asleep := rest } }
      match gate.callers.find? id with
      | none => (some id,gate)
      | some caller => (some id,gate.place id caller .looking)

end Gate
end LockLender
