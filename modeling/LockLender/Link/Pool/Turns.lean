import LockLender.Link.Caller
import LockLender.Link.Pool
import LockLender.Link.Responder

namespace LockLender.Pool

def echo (frame : Frame) : Except LinkFault Bytes :=
  match frame.opcode with
  | .stat => .error (.remote (Utf8.forgive frame.payload))
  | .revoke => .error (.unknownOpcode (UInt16.ofNat frame.payload.length))
  | _ => .ok frame.payload

inductive Peer where
  | answering (handle : Frame → Except LinkFault Bytes)
  | leaving

structure Turns where
  pool : Pool := {}
  callers : Table Nat Caller := []
  -- Connections in the order in which they were first handed out.
  shown : List Nat := []

namespace Turns

def perform (turns : Turns) (act : Act) : List Effect × Turns :=
  let (pool,effects) := (turns.pool.step act).getD (turns.pool,[])
  (effects,{ turns with pool })

-- A caller and the connection it gets. Nobody is faster while it dials.
def enter (turns : Turns) (address : String) (dialed : Except LinkFault Unit) : Except LinkFault (Nat × Nat) × Turns :=
  let user := turns.pool.nextUser
  let (looked,turns) := (turns.perform (.begin address)).2.perform (.look user)
  match looked,dialed with
  | [.obtained _ connection],_ => (.ok (user,connection),turns)
  | _,.error fault => (.error fault,(turns.perform (.dial user (.error fault))).2)
  | _,.ok () =>
    let connection := turns.pool.nextConnection
    let turns := ((turns.perform (.dial user (.ok ()))).2.perform (.offer user)).2
    (.ok (user,connection),{ turns with callers := turns.callers.put connection .opened })

def get (turns : Turns) (address : String) (dialed : Except LinkFault Unit) : Except LinkFault Nat × Turns :=
  match turns.enter address dialed with
  | (.error fault,turns) => (.error fault,turns)
  | (.ok (user,connection),turns) =>
    let turns := (turns.perform (.succeed user)).2
    let shown := if connection ∈ turns.shown then turns.shown else turns.shown ++ [connection]
    (.ok (shown.idxOf connection),{ turns with shown })

def meet (peer : Peer) (caller : Caller) (sent : List Frame) : Caller :=
  match peer with
  | .answering handle => (sent.filterMap fun frame => frame.answered (handle frame)).foldl Caller.arrive caller
  | .leaving => if caller.closed then caller else caller.sever

def call (turns : Turns) (address : String) (dialed : Except LinkFault Unit) (peer : Peer) (opcode : Opcode)
    (payload : Bytes) (limit : UInt64) : Caller.Result × Turns :=
  match turns.enter address dialed with
  | (.error fault,turns) => (.error fault,turns)
  | (.ok (user,connection),turns) =>
    let caller := (turns.callers.find? connection).getD {}
    let id := caller.nextCall
    let (caller,sent) := (caller.start .none opcode payload (some limit)).advance id (.ok ())
    let (caller,done) := (meet peer caller (sent.filterMap Caller.Effect.sent?)).advance id (.ok ())
    let turns := { turns with callers := turns.callers.put connection caller }
    let turns := if caller.closed then (turns.perform (.close connection)).2 else turns
    match (sent ++ done).findSome? Caller.Effect.result? with
    | some (.error fault) => (.error fault,((turns.perform (.fail user fault)).2.perform (.evict user)).2)
    | some (.ok answer) => (.ok answer,(turns.perform (.succeed user)).2)
    | none => (.ok none,turns)

def remove (turns : Turns) (address : String) : Turns := { turns with pool := turns.pool.remove address }

def close (turns : Turns) (shown : Nat) : Turns :=
  match turns.shown[shown]? with
  | none => turns
  | some connection =>
    let caller := meet .leaving ((turns.callers.find? connection).getD {}) []
    (({ turns with callers := turns.callers.put connection caller }).perform (.close connection)).2

end Turns
end LockLender.Pool
