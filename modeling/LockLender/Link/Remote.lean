import LockLender.Link.Caller
import LockLender.Link.Responder
import LockLender.Service

namespace LockLender

structure Remote (σ : Type) where
  caller : Caller := Caller.opened
  -- The service at the other end.
  server : σ

namespace Remote
variable {σ : Type}

def refused (bytes : Bytes) : Bool :=
  match (Stream.drain false bytes).2 with
  | .fault .. => true
  | _ => false

-- One call of the calling end, from its number to its result, over a
-- connection that loses nothing and to an end that answers in time. If either
-- end refuses what it reads, the connection is gone.
def exchange (handle : σ → Frame → Except LinkFault Bytes × σ) (remote : Remote σ)
    (opcode : Opcode) (payload : Bytes) (limit : Option UInt64) : Except LinkFault Frame × Remote σ :=
  let id := remote.caller.nextCall
  let (caller,effects) := (remote.caller.start .none opcode payload limit).advance id (.ok ())
  let sent := (effects.filterMap Caller.Effect.sent?).flatMap Frame.encode
  let (answers,server) := Responder.replies handle remote.server sent
  let back := answers.flatMap Frame.encode
  let caller := (Stream.drain false back).1.foldl Caller.arrive caller
  let caller := if refused sent || refused back then caller.sever else caller
  let (caller,more) := caller.advance id (.ok ())
  match (effects ++ more).findSome? Caller.Effect.result? with
  | some (.ok (some frame)) => (.ok frame,{ caller, server })
  | some (.error fault) => (.error fault,{ caller, server })
  | _ => (.error .reset,{ caller, server })

def reply : Except LinkFault Frame → Except LockFault Reply
  | .error fault => .error (.link fault)
  | .ok frame =>
    match (Coded.decode frame.payload : Except MessageFlaw Reply) with
    | .error flaw => .error (.link (.badMessage flaw))
    | .ok reply => .ok reply

def call (service : Service σ) (limit : Option UInt64) (remote : Remote σ) (request : Request) :
    Except LockFault Reply × Remote σ :=
  let (result,remote) := remote.exchange service.handle request.opcode (Coded.encode request) limit
  (reply result,remote)

-- An acquire that a server may park has no limit: giving up on it would leave
-- the lock with a caller that does not know it.
def service (inner : Service σ) (responseMillis : UInt64) (blocking : Bool) : Service (Remote σ) where
  acquire remote lock client :=
    remote.call inner (if blocking then none else some responseMillis) (.acquire lock client)
  release remote lock client := remote.call inner (some responseMillis) (.release lock client)
  stat remote lock :=
    let (reply,remote) := remote.call inner (some responseMillis) (.stat lock)
    (expectCount .stat reply,remote)

end Remote
end LockLender
