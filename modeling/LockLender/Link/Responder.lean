import LockLender.Table
import LockLender.Wire.Stream

namespace LockLender

namespace Frame

def answered (frame : Frame) (outcome : Except LinkFault Bytes) : Option Frame :=
  if frame.isOneWay then none else
  match outcome with
  | .ok payload => some (frame.respond payload)
  | .error fault => some (frame.refuse fault.message)

end Frame

structure Responder where
  buffer : Bytes := []
  -- No more octets will come.
  ended : Bool := false
  reading : Bool := true
  -- Requests that the handler is at work on.
  tasks : Table Nat Frame := []
  nextTask : Nat := 0
  deriving Repr

namespace Responder

inductive Act where
  | receive (bytes : Bytes)
  | hangUp
  -- The reader takes what stands first in the buffer.
  | read
  -- The handler is done with a request.
  | finish (task : Nat) (outcome : Except LinkFault Bytes)

inductive Effect where
  | handle (task : Nat) (frame : Frame)
  | write (bytes : Bytes)
  deriving DecidableEq, Repr

def read (r : Responder) : Option (Responder × List Effect) :=
  match Stream.take r.ended r.buffer with
  | .waiting => none
  | .fault _ rest => some ({ r with buffer := rest, reading := false },[])
  | .frame frame rest =>
    let r := { r with buffer := rest }
    -- An answer to nothing that was asked here is passed over.
    if frame.isResponse then some (r,[])
    else some ({ r with tasks := r.tasks.put r.nextTask frame, nextTask := r.nextTask + 1 },
      [.handle r.nextTask frame])

def step (r : Responder) : Act → Option (Responder × List Effect)
  | .receive bytes => if r.ended then none else some ({ r with buffer := r.buffer ++ bytes },[])
  | .hangUp => some ({ r with ended := true },[])
  | .read => if r.reading then r.read else none
  | .finish task outcome => do
    let frame ← r.tasks.find? task
    let r := { r with tasks := r.tasks.remove task }
    match frame.answered outcome with
    | none => return (r,[])
    | some answer => return (r,[.write answer.encode])

end Responder

def Stream.frames (bytes : Bytes) : List Frame := (Stream.drain true bytes).1

def Responder.replies {σ : Type} (handle : σ → Frame → Except LinkFault Bytes × σ) (s : σ) (bytes : Bytes) :
    List Frame × σ :=
  (Stream.frames bytes).foldl (fun (answers,s) frame =>
    if frame.isResponse then (answers,s) else
    let (outcome,s) := handle s frame
    (answers ++ (frame.answered outcome).toList,s)) ([],s)

end LockLender
