import LockLender.Link.Remote
import LockLender.Proofs.Wire.Codec
import LockLender.Proofs.Wire.Stream

namespace LockLender

def Request.frame (request : Request) (number : UInt64) : Frame :=
  (Frame.make request.opcode number (Coded.encode request)).withFlags .none

-- A failed operation comes back in words: that it failed at the other end, then the fault's own.
def LockFault.words (fault : LockFault) : String := "remote handler failed: " ++ fault.message

def carried : Except LockFault Reply → Bytes
  | .ok reply => Coded.encode reply
  | .error fault => Utf8.encode fault.words

-- What a reply is after it came over a connection: a fault is only words.
def relayed : Except LockFault Reply → Except LockFault Reply
  | .ok reply => .ok reply
  | .error fault => .error (.link (.remote fault.words))

def Frame.answer (frame : Frame) : Except LockFault Reply → Frame
  | .ok reply => frame.respond (Coded.encode reply)
  | .error fault => frame.refuse fault.words

def expected : Request → Except LockFault Reply → Except LockFault Reply
  | .stat _, reply => (expectCount .stat reply).map .count
  | .acquire .., reply | .release .., reply => reply

structure Request.Fits (request : Request) (reply : Except LockFault Reply) : Prop where
  request : (Coded.encode request).length ≤ Frame.payloadLimit.toNat
  reply : (carried reply).length ≤ Frame.payloadLimit.toNat

variable {σ : Type} {request : Request} {reply : Except LockFault Reply} {s : σ} {frame : Frame}

namespace Request

theorem frame_wants (request : Request) (number : UInt64) : (request.frame number).isOneWay = false :=
  Frame.make_wants request.opcode number (Coded.encode request)

theorem frame_asks (request : Request) (number : UInt64) : (request.frame number).isResponse = false := by
  change Flags.none.contains .response = false
  decide

theorem frame_proper (fits : request.Fits reply) (number : UInt64) : (request.frame number).Proper :=
  Frame.make_proper request.opcode number .none fits.request

theorem short (fits : request.Fits reply) : request.Short := by
  have room := fits.request
  have limit : Frame.payloadLimit.toNat < 2 ^ 64 := by decide
  cases request with
  | stat lock => trivial
  | acquire lock client | release lock client =>
      have within : (Utf8.encode client.name).length ≤ (Coded.encode client).length := by
        simp [Coded.encode,Codec.textBytes]
      simp only [Coded.encode,List.length_append] at room within
      simp only [Short,Codec.Short]
      omega

end Request

theorem Service.handle_frame (service : Service σ) (s : σ) (fits : request.Fits reply) (number : UInt64) :
    service.handle s (request.frame number) = (answerOf (service.perform s request).1,(service.perform s request).2) := by
  have decoded : Coded.decode (request.frame number).payload = .ok request :=
    (Coded.decode_eq_ok Codec.request_exact).mpr ⟨request.short fits,List.prefix_refl _⟩
  have asked : (request.frame number).asRequest = .ok request := by
    unfold Frame.asRequest Frame.message
    rw [decoded]
    exact if_pos rfl
  exact handle_ok asked

theorem Service.expected_perform (service : Service σ) (s : σ) (request : Request) :
    expected request (relayed (service.perform s request).1) = relayed (service.perform s request).1 := by
  cases request with
  | acquire lock client | release lock client => rfl
  | stat lock =>
      simp only [Service.perform]
      cases (service.stat s lock).1 <;> rfl

theorem Frame.answered_answer (wants : frame.isOneWay = false) (reply : Except LockFault Reply) :
    frame.answered (answerOf reply) = some (frame.answer reply) := by
  unfold Frame.answered
  rw [if_neg (by rw [wants]; exact Bool.false_ne_true)]
  cases reply <;> rfl

theorem Frame.answer_request (frame : Frame) (reply : Except LockFault Reply) :
    (frame.answer reply).request = frame.request := by
  cases reply <;> rfl

theorem Frame.answer_proper (frame : Frame) (fits : request.Fits reply) : (frame.answer reply).Proper := by
  cases reply with
  | ok reply => exact Frame.make_proper frame.opcode frame.request .response fits.reply
  | error fault => exact Frame.make_proper frame.opcode frame.request (Flags.response.union .error) fits.reply

end LockLender
