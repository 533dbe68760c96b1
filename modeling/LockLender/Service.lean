import LockLender.Lock.Fault
import LockLender.Wire.Codec
import LockLender.Wire.Frame

namespace LockLender

namespace Frame

def message {α : Type} [Coded α] (opcode : α → Opcode) (shown : α → String) (frame : Frame) :
    Except LockFault α :=
  match Coded.decode frame.payload with
  | .error flaw => .error (.link (.badMessage flaw))
  | .ok message =>
    if opcode message = frame.opcode then .ok message
    else .error (.malformed (shown message ++ " under opcode " ++ frame.opcode.name))

def asRequest (frame : Frame) : Except LockFault Request := frame.message Request.opcode Request.shown

def asCallback (frame : Frame) : Except LockFault Callback := frame.message Callback.opcode Callback.shown

end Frame

def answerOf {α : Type} [Coded α] : Except LockFault α → Except LinkFault Bytes
  | .ok message => .ok (Coded.encode message)
  | .error fault => .error (.remote fault.message)

-- A frame on an endpoint whose operations may take their time: the operation
-- that the frame asks for, once, or none.
def Frame.handled {m : Type → Type} [Monad m] {α β : Type} [Coded α] [Coded β] (opcode : α → Opcode)
    (shown : α → String) (perform : α → m (Except LockFault β)) (frame : Frame) : m (Except LinkFault Bytes) :=
  match frame.message opcode shown with
  | .error fault => return .error (.remote fault.message)
  | .ok message => return answerOf (← perform message)

structure Service (σ : Type) where
  acquire : σ → LockId → ClientId → Except LockFault Reply × σ
  release : σ → LockId → ClientId → Except LockFault Reply × σ
  stat : σ → LockId → Except LockFault UInt64 × σ

namespace Service
variable {σ : Type}

def perform (service : Service σ) (s : σ) : Request → Except LockFault Reply × σ
  | .acquire lock client => service.acquire s lock client
  | .release lock client => service.release s lock client
  | .stat lock =>
    let (count,s) := service.stat s lock
    (count.map Reply.count,s)

def handle (service : Service σ) (s : σ) (frame : Frame) : Except LinkFault Bytes × σ :=
  frame.handled (m := StateM σ) Request.opcode Request.shown (fun request s => service.perform s request) s

variable {service : Service σ} {s : σ} {frame : Frame} {request : Request} {fault : LockFault}

theorem handle_ok (asked : frame.asRequest = .ok request) :
    service.handle s frame = (answerOf (service.perform s request).1,(service.perform s request).2) := by
  unfold Frame.asRequest at asked
  simp only [handle,Frame.handled,asked]
  rfl

theorem handle_error (refused : frame.asRequest = .error fault) :
    service.handle s frame = (.error (.remote fault.message),s) := by
  unfold Frame.asRequest at refused
  simp only [handle,Frame.handled,refused]
  rfl

end Service

-- A caller of a service that counts: an acquire or release answered by
-- anything but a number makes no sense to it.
def expectCount (call : Operation) : Except LockFault Reply → Except LockFault UInt64
  | .ok (.count n) => .ok n
  | .ok reply => .error (.unexpected call reply)
  | .error fault => .error fault

end LockLender
