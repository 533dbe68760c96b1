import LockLender.Proofs.Link.Lone
import LockLender.Proofs.Link.Relay

namespace LockLender

namespace Service
variable {σ : Type}

def performAll (service : Service σ) : σ → List Request → List (Except LockFault Reply) × σ
  | s, [] => ([],s)
  | s, request :: requests =>
    let (reply,next) := service.perform s request
    let (replies,last) := service.performAll next requests
    (reply :: replies,last)

def Fits (service : Service σ) : σ → List Request → Prop
  | _, [] => True
  | s, request :: requests =>
    request.Fits (service.perform s request).1 ∧ service.Fits (service.perform s request).2 requests

def noted (service : Service σ) : Service (σ × List Request) where
  acquire s lock client :=
    let (reply,next) := service.acquire s.1 lock client
    (reply,next,s.2 ++ [.acquire lock client])
  release s lock client :=
    let (reply,next) := service.release s.1 lock client
    (reply,next,s.2 ++ [.release lock client])
  stat s lock :=
    let (count,next) := service.stat s.1 lock
    (count,next,s.2 ++ [.stat lock])

end Service

namespace Caller
variable {caller next : Caller} {k n : Nat} {call : Call} {outcome : Except LinkFault Unit} {before effects : List Effect}

theorem advance_step (found : caller.calls.find? k = some call)
    (ran : caller.step (acts k call outcome) = some (next,effects)) :
    advance.go k outcome (n + 1) caller before = advance.go k outcome n next (before ++ effects) := by
  simp only [advance.go,found,Option.bind_some,ran]

theorem advance_waits (found : caller.calls.find? k = some call) (waits : caller.step (acts k call outcome) = none) :
    advance.go k outcome (n + 1) caller before = (caller,before) := by
  simp only [advance.go,found,Option.bind_some,waits]

theorem advance_gone (gone : caller.calls.find? k = none) :
    advance.go k outcome (n + 1) caller before = (caller,before) := by
  simp only [advance.go,gone,Option.bind_none]

theorem Lone.advance_sent (lone : caller.Lone k call []) (place : call.place = .numbered) (empty : call.inbox = .empty)
    (wants : call.frame.isOneWay = false) :
    ∃ next, caller.advance k (.ok ()) = (next,[.send call.frame]) ∧
      next.Lone k { call with place := .sent } [(call.frame.request,k)] := by
  obtain ⟨entered,enters,lone'⟩ := lone.enter place wants
  obtain ⟨sent,writes,lone''⟩ := lone'.write rfl wants
  have waits := lone''.finish_empty rfl empty
  refine ⟨sent,?_,lone''⟩
  unfold advance
  rw [advance_step lone.find? (by simpa only [acts,place] using enters),advance_step lone'.find? writes,
    advance_waits lone''.find? waits]
  rfl

theorem Lone.advance_done {frame : Frame} (lone : caller.Lone k call []) (place : call.place = .sent)
    (came : call.inbox = .frame frame) :
    ∃ next, caller.advance k (.ok ()) = (next,[.done k ((resultOf frame).map some)]) ∧ next.Idle := by
  obtain ⟨last,finishes,idle⟩ := lone.finish place came
  have gone : last.calls.find? k = none := by rw [idle.calls]; rfl
  refine ⟨last,?_,idle⟩
  unfold advance
  rw [advance_step lone.find? (by simpa only [acts,place] using finishes),advance_gone gone]
  rfl

end Caller

theorem Responder.replies_frame {σ : Type} (handle : σ → Frame → Except LinkFault Bytes × σ) (s : σ)
    {frame answer : Frame} (proper : frame.Proper) (asks : frame.isResponse = false)
    (answers : frame.answered (handle s frame).1 = some answer) :
    replies handle s frame.encode = ([answer],(handle s frame).2) := by
  unfold replies Stream.frames
  rw [Stream.drain_encode proper]
  simp [asks,answers]

theorem Caller.resultOf_refused (frame : Frame) (fault : LockFault) :
    Caller.resultOf (frame.answer (.error fault)) = .error (.remote fault.words) := by
  have failed : (frame.answer (.error fault)).isError = true := by
    change (Flags.response.union .error).contains .error = true
    decide
  have words : (frame.answer (.error fault)).payload = Utf8.encode fault.words := rfl
  rw [Caller.resultOf,if_pos failed,words,Utf8.forgive_encode]

theorem Remote.reply_answer (frame : Frame) (reply : Except LockFault Reply) :
    Remote.reply (Caller.resultOf (frame.answer reply)) = relayed reply := by
  cases reply with
  | error fault =>
      rw [Caller.resultOf_refused]
      rfl
  | ok reply =>
      have worked : ¬ (frame.answer (.ok reply)).isError = true := by
        change ¬ Flags.response.contains .error = true
        decide
      have decoded : Coded.decode (frame.answer (.ok reply)).payload = .ok reply :=
        (Coded.decode_eq_ok Codec.reply_exact).mpr ⟨trivial,List.prefix_refl _⟩
      rw [Caller.resultOf,if_neg worked,Remote.reply,decoded]
      rfl

namespace Remote
variable {σ : Type} {remote : Remote σ} {request : Request} {service : Service σ}

theorem refused_frame {frame : Frame} (proper : frame.Proper) : refused frame.encode = false := by
  unfold refused
  rw [Stream.drain_encode proper]
  rfl

theorem exchange_answer {handle : σ → Frame → Except LinkFault Bytes × σ} {opcode : Opcode} {payload : Bytes}
    {frame answer : Frame} (limit : Option UInt64) (idle : remote.caller.Idle)
    (made : (Frame.make opcode remote.caller.nextNumber payload).withFlags .none = frame) (asked : frame.Proper)
    (wants : frame.isOneWay = false) (asks : frame.isResponse = false)
    (outcome : frame.answered (handle remote.server frame).1 = some answer) (answered : answer.Proper)
    (mine : answer.request = frame.request) :
    ∃ caller : Caller, caller.Idle ∧ remote.exchange handle opcode payload limit =
      (Caller.resultOf answer,{ caller, server := (handle remote.server frame).2 }) := by
  have started := idle.start opcode payload limit
  rw [made] at started
  obtain ⟨sent,sends,out⟩ := started.advance_sent rfl rfl wants
  obtain ⟨last,returns,back⟩ := (out.arrive mine).advance_done rfl rfl
  have replies := Responder.replies_frame handle remote.server asked asks outcome
  refine ⟨last,back,?_⟩
  unfold exchange
  simp only [sends,List.filterMap_cons,Caller.Effect.sent?,List.filterMap_nil,List.flatMap_cons,List.flatMap_nil,
    List.append_nil,replies,Stream.drain_encode answered,List.foldl_cons,List.foldl_nil,refused_frame asked,
    refused_frame answered,Bool.or_self,Bool.false_eq_true,if_false,returns]
  cases Caller.resultOf answer <;> rfl

theorem call_request (idle : remote.caller.Idle) (fits : request.Fits (service.perform remote.server request).1)
    (limit : Option UInt64) :
    ∃ caller : Caller, caller.Idle ∧ remote.call service limit request =
      (relayed (service.perform remote.server request).1,
        { caller, server := (service.perform remote.server request).2 }) := by
  let frame := request.frame remote.caller.nextNumber
  have handled : service.handle remote.server frame = _ := service.handle_frame remote.server fits _
  have outcome : frame.answered (service.handle remote.server frame).1 =
      some (frame.answer (service.perform remote.server request).1) := by
    rw [handled]
    exact Frame.answered_answer (request.frame_wants _) _
  obtain ⟨caller,idle',exchanged⟩ := exchange_answer limit idle (show _ = frame from rfl)
    (request.frame_proper fits _) (request.frame_wants _) (request.frame_asks _) outcome
    (frame.answer_proper fits) (frame.answer_request _)
  refine ⟨caller,idle',?_⟩
  rw [handled] at exchanged
  rw [call,exchanged,← reply_answer]

variable {inner : Service σ} (millis : UInt64) (blocking : Bool)

theorem perform_service (idle : remote.caller.Idle) (fits : request.Fits (inner.perform remote.server request).1) :
    ∃ caller : Caller, caller.Idle ∧ (Remote.service inner millis blocking).perform remote request =
      (relayed (inner.perform remote.server request).1,
        { caller, server := (inner.perform remote.server request).2 }) := by
  cases request with
  | acquire lock client | release lock client => exact call_request idle fits _
  | stat lock =>
      obtain ⟨caller,idle',called⟩ := call_request idle fits (some millis)
      refine ⟨caller,idle',?_⟩
      have counted := inner.expected_perform remote.server (.stat lock)
      simp only [Service.perform,Remote.service,called] at counted ⊢
      exact congrArg (fun reply => (reply,_)) counted

theorem performAll_service (requests : List Request) (idle : remote.caller.Idle) (fits : inner.Fits remote.server requests) :
    ∃ caller : Caller, caller.Idle ∧ (Remote.service inner millis blocking).performAll remote requests =
      ((inner.performAll remote.server requests).1.map relayed,
        { caller, server := (inner.performAll remote.server requests).2 }) := by
  induction requests generalizing remote with
  | nil => exact ⟨remote.caller,idle,rfl⟩
  | cons request requests ih =>
      obtain ⟨one,others⟩ := fits
      obtain ⟨caller,idle',first⟩ := perform_service millis blocking idle one
      obtain ⟨last,idle'',rest⟩ := @ih { caller, server := (inner.perform remote.server request).2 } idle' others
      refine ⟨last,idle'',?_⟩
      simp only [Service.performAll,first,rest,List.map_cons]

end Remote

namespace Service
variable {σ : Type}

theorem performAll_append (service : Service σ) (s : σ) (one two : List Request) :
    service.performAll s (one ++ two) =
      ((service.performAll s one).1 ++ (service.performAll (service.performAll s one).2 two).1,
        (service.performAll (service.performAll s one).2 two).2) := by
  induction one generalizing s with
  | nil => rfl
  | cons request requests ih => simp [performAll,ih]

theorem fits_append (service : Service σ) (s : σ) (one two : List Request) :
    service.Fits s (one ++ two) ↔ service.Fits s one ∧ service.Fits (service.performAll s one).2 two := by
  induction one generalizing s with
  | nil => simp [Fits,performAll]
  | cons request requests ih => simp [Fits,performAll,ih,and_assoc]

theorem perform_noted (service : Service σ) (s : σ) (log : List Request) (request : Request) :
    service.noted.perform (s,log) request =
      ((service.perform s request).1,(service.perform s request).2,log ++ [request]) := by
  cases request <;> rfl

theorem performAll_noted (service : Service σ) (s : σ) (log requests : List Request) :
    service.noted.performAll (s,log) requests =
      ((service.performAll s requests).1,(service.performAll s requests).2,log ++ requests) := by
  induction requests generalizing s log with
  | nil => simp [performAll]
  | cons request requests ih => simp [performAll,perform_noted,ih]

theorem fits_noted (service : Service σ) (s : σ) (log requests : List Request) :
    service.noted.Fits (s,log) requests ↔ service.Fits s requests := by
  induction requests generalizing s log with
  | nil => rfl
  | cons request requests ih => simp [Fits,perform_noted,ih]

end Service
end LockLender
