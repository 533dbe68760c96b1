import LockLender.Link.Caller

namespace LockLender.Caller

structure Idle (caller : Caller) : Prop where
  live : caller.closed = false
  waiting : caller.waiting = []
  calls : caller.calls = []

structure Lone (caller : Caller) (k : Nat) (call : Call) (waiting : Table UInt64 Nat) : Prop where
  live : caller.closed = false
  waiting : caller.waiting = waiting
  calls : caller.calls = [(k,call)]

variable {caller next : Caller} {k : Nat} {call : Call} {frame : Frame} {waiting : Table UInt64 Nat}
  {effects : List Effect}

theorem opened_idle : opened.Idle := ⟨rfl,rfl,rfl⟩

theorem Idle.start (idle : caller.Idle) (opcode : Opcode) (payload : Bytes) (limit : Option UInt64) :
    (caller.start .none opcode payload limit).Lone caller.nextCall
      { frame := (Frame.make opcode caller.nextNumber payload).withFlags .none, limit } [] := by
  constructor
  · exact idle.live
  · exact idle.waiting
  · simp [Caller.start,Caller.put,idle.calls,Table.put]

theorem Lone.find? (lone : caller.Lone k call waiting) : caller.calls.find? k = some call := by
  simp [lone.calls,Table.find?]

theorem Lone.enter (lone : caller.Lone k call []) (place : call.place = .numbered) (wants : call.frame.isOneWay = false) :
    ∃ next, caller.step (.enter k) = some (next,[]) ∧
      next.Lone k { call with place := .entered } [(call.frame.request,k)] := by
  have entered : caller.enter k call =
      (({ caller with waiting := caller.waiting.put call.frame.request k }.put k
        { call with place := .entered }).count .requestsSent,[]) := by
    simp only [Caller.enter,wants,lone.live,Bool.false_eq_true,if_false]
  have ran : caller.step (.enter k) = some (caller.enter k call) := by simp [step,lone.find?,place]
  refine ⟨_,ran.trans (congrArg some entered),?_⟩
  constructor
  · exact lone.live
  · simp [count,Caller.put,lone.waiting,Table.put]
  · simp [count,Caller.put,lone.calls,Table.put]

theorem Lone.write (lone : caller.Lone k call waiting) (place : call.place = .entered)
    (wants : call.frame.isOneWay = false) :
    ∃ next, caller.step (.write k (.ok ())) = some (next,[.send call.frame]) ∧
      next.Lone k { call with place := .sent } waiting := by
  have written : caller.write k call (.ok ()) = (caller.put k { call with place := .sent },[.send call.frame]) := by
    simp only [Caller.write,wants,Bool.false_eq_true,if_false]
  have ran : caller.step (.write k (.ok ())) = some (caller.write k call (.ok ())) := by simp [step,lone.find?,place]
  refine ⟨_,ran.trans (congrArg some written),?_⟩
  constructor
  · exact lone.live
  · exact lone.waiting
  · simp [Caller.put,lone.calls,Table.put]

theorem Lone.arrives (lone : caller.Lone k call waiting) (frame : Frame) :
    caller.step (.arrive frame) = some (caller.arrive frame,[]) := by
  simp [step,lone.live]

theorem Lone.arrive {number : UInt64} (lone : caller.Lone k call [(number,k)]) (mine : frame.request = number) :
    (caller.arrive frame).Lone k { call with inbox := .frame frame } [] := by
  subst mine
  have found : Table.find? [(frame.request,k)] frame.request = some k := by simp [Table.find?]
  have there : Table.find? [(k,call)] k = some call := by simp [Table.find?]
  unfold Caller.arrive
  simp only [count,lone.waiting,lone.calls,found,there]
  constructor
  · exact lone.live
  · simp [Caller.put,Table.remove]
  · simp [Caller.put,Table.put]

def resultOf (frame : Frame) : Except LinkFault Frame :=
  if frame.isError then .error (.remote (Utf8.forgive frame.payload)) else .ok frame

theorem Lone.finish (lone : caller.Lone k call []) (place : call.place = .sent) (came : call.inbox = .frame frame) :
    ∃ next, caller.step (.finish k) = some (next,[.done k ((resultOf frame).map some)]) ∧ next.Idle := by
  have settled (counted : Caller) (live : counted.closed = false) (waiting : counted.waiting = [])
      (calls : counted.calls = [(k,call)]) (result : Result) : (counted.finishWith k result).1.Idle := by
    constructor
    · exact live
    · exact waiting
    · simp [finishWith,calls,Table.remove]
  have ran : caller.step (.finish k) = caller.finish k (.frame frame) := by simp [step,lone.find?,place,came]
  rw [ran]
  simp only [Caller.finish,resultOf]
  split
  · exact ⟨_,rfl,settled (caller.count .errors) lone.live lone.waiting lone.calls
      (.error (.remote (Utf8.forgive frame.payload)))⟩
  · exact ⟨_,rfl,settled caller lone.live lone.waiting lone.calls (.ok (some frame))⟩

theorem Lone.finish_empty (lone : caller.Lone k call waiting) (place : call.place = .sent) (empty : call.inbox = .empty) :
    caller.step (.finish k) = none := by
  simp [step,lone.find?,place,empty,Caller.finish]

end LockLender.Caller
