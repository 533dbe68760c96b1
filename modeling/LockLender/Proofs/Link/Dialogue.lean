import LockLender.Proofs.Link.Remote

namespace LockLender

structure Dialogue (σ : Type) where
  caller : Caller := Caller.opened
  responder : Responder := {}
  server : σ
  -- The requests still to be made; the one under way, under its call; what came of the others.
  todo : List Request
  current : Option (Nat × Request) := none
  results : List (Except LockFault Reply) := []
  -- Octets on their way out, on their way back, and before the caller's reader.
  out : Bytes := []
  back : Bytes := []
  inbox : Bytes := []

namespace Dialogue

def outcome : Caller.Result → Except LinkFault Frame
  | .ok (some frame) => .ok frame
  | .ok none => .error .reset
  | .error fault => .error fault

theorem outcome_map (result : Except LinkFault Frame) : outcome (result.map some) = result := by
  cases result <;> rfl

def note {σ : Type} (request : Request) (d : Dialogue σ) : Caller.Effect → Dialogue σ
  | .send frame => { d with out := d.out ++ frame.encode }
  | .done _ result =>
    { d with current := none, results := d.results ++ [expected request (Remote.reply (outcome result))] }

def written : Responder.Effect → Bytes
  | .write bytes => bytes
  | .handle .. => []

inductive Step {σ : Type} (inner : Service σ) : Dialogue σ → Dialogue σ → Prop where
  | begin (limit : Option UInt64) (free : d.current = none) (first : d.todo = request :: others) :
      Step inner d { d with
        caller := d.caller.start .none request.opcode (Coded.encode request) limit
        current := some (d.caller.nextCall,request)
        todo := others }
  -- The call under way does what it can do by itself.
  | proceed (under : d.current = some (k,request)) (found : d.caller.calls.find? k = some call)
      (ran : d.caller.step (Caller.acts k call (.ok ())) = some (next,effects)) :
      Step inner d (effects.foldl (note request) { d with caller := next })
  | carry (moved : d.out = octets ++ rest) (real : octets ≠ [])
      (ran : d.responder.step (.receive octets) = some (next,effects)) :
      Step inner d { d with responder := next, out := rest }
  | read (ran : d.responder.step .read = some (next,effects)) : Step inner d { d with responder := next }
  -- The handler is done with a request, and what it gives goes back.
  | serve (found : d.responder.tasks.find? task = some frame)
      (ran : d.responder.step (.finish task (inner.handle d.server frame).1) = some (next,effects)) :
      Step inner d { d with
        responder := next
        server := (inner.handle d.server frame).2
        back := d.back ++ effects.flatMap written }
  | bring (moved : d.back = octets ++ rest) (real : octets ≠ []) :
      Step inner d { d with back := rest, inbox := d.inbox ++ octets }
  | take (taken : Stream.take false d.inbox = .frame frame rest)
      (ran : d.caller.step (.arrive frame) = some (next,effects)) :
      Step inner d { d with caller := next, inbox := rest }
  | fail (taken : Stream.take false d.inbox = .fault fault rest) (ran : d.caller.step .sever = some (next,effects)) :
      Step inner d { d with caller := next, inbox := rest }

structure Between {σ : Type} (d : Dialogue σ) (asked : Bytes) (tasks : Table Nat Frame) (answer : Bytes) : Prop where
  live : d.responder.ended = false
  reading : d.responder.reading = true
  asked : d.responder.buffer ++ d.out = asked
  tasks : d.responder.tasks = tasks
  answer : d.inbox ++ d.back = answer

-- Where the caller stands, beside what is between the ends, the replies given and not yet returned,
-- and the requests that the service has not seen. The last number falls with every turn.
inductive Talk (caller : Caller) (current : Option (Nat × Request)) (todo : List Request) :
    Bytes → Table Nat Frame → Bytes → List (Except LockFault Reply) → List Request → Nat → Prop where
  | resting (idle : caller.Idle) (free : current = none) :
      Talk caller current todo [] [] [] [] todo (8 * todo.length)
  | numbered (under : current = some (k,request)) (lone : caller.Lone k { frame := request.frame n, limit } []) :
      Talk caller current todo [] [] [] [] (request :: todo) (8 * todo.length + 7)
  | entered (under : current = some (k,request))
      (lone : caller.Lone k { frame := request.frame n, limit, place := .entered } [((request.frame n).request,k)]) :
      Talk caller current todo [] [] [] [] (request :: todo) (8 * todo.length + 6)
  | asking (under : current = some (k,request))
      (lone : caller.Lone k { frame := request.frame n, limit, place := .sent } [((request.frame n).request,k)]) :
      Talk caller current todo (request.frame n).encode [] [] [] (request :: todo) (8 * todo.length + 5)
  | working (under : current = some (k,request))
      (lone : caller.Lone k { frame := request.frame n, limit, place := .sent } [((request.frame n).request,k)]) :
      Talk caller current todo [] [(task,request.frame n)] [] [] (request :: todo) (8 * todo.length + 4)
  | answering (under : current = some (k,request)) (fits : request.Fits reply)
      (suits : expected request (relayed reply) = relayed reply)
      (lone : caller.Lone k { frame := request.frame n, limit, place := .sent } [((request.frame n).request,k)]) :
      Talk caller current todo [] [] ((request.frame n).answer reply).encode [reply] todo (8 * todo.length + 3)
  | answered (under : current = some (k,request)) (suits : expected request (relayed reply) = relayed reply)
      (lone : caller.Lone k
        { frame := request.frame n, limit, place := .sent, inbox := .frame ((request.frame n).answer reply) } []) :
      Talk caller current todo [] [] [] [reply] todo (8 * todo.length + 2)

def At {σ : Type} (d : Dialogue σ) (coming : List (Except LockFault Reply)) (ahead : List Request) (rank : Nat) :
    Prop :=
  ∃ asked tasks answer,
    d.Between asked tasks answer ∧ Talk d.caller d.current d.todo asked tasks answer coming ahead rank

def afloat {σ : Type} (d : Dialogue σ) : Nat := d.out.length + d.back.length

-- What a step does, seen from above: nothing, an operation of the service, or the return of its reply.
inductive Does {σ : Type} (inner : Service σ) (d next : Dialogue σ) :
    List (Except LockFault Reply) → List Request → Nat →
      List (Except LockFault Reply) → List Request → Nat → Prop where
  | moves (server : next.server = d.server) (results : next.results = d.results)
      (less : rank' < rank ∨ rank' = rank ∧ next.afloat < d.afloat) :
      Does inner d next coming ahead rank coming ahead rank'
  | serves (server : next.server = (inner.perform d.server request).2) (results : next.results = d.results)
      (less : rank' < rank) :
      Does inner d next [] (request :: ahead) rank [(inner.perform d.server request).1] ahead rank'
  | returns (server : next.server = d.server) (results : next.results = d.results ++ [relayed reply])
      (less : rank' < rank) : Does inner d next [reply] ahead rank [] ahead rank'

variable {σ : Type} {inner : Service σ} {d next : Dialogue σ} {asked answer octets rest : Bytes}
  {tasks : Table Nat Frame} {frame : Frame} {coming : List (Except LockFault Reply)} {ahead : List Request} {rank : Nat}

namespace Between
variable {far : Responder} {told : List Responder.Effect}

theorem carry (between : d.Between asked tasks answer) (moved : d.out = octets ++ rest)
    (ran : d.responder.step (.receive octets) = some (far,told)) :
    Between { d with responder := far, out := rest } asked tasks answer := by
  simp only [Responder.step,between.live,Bool.false_eq_true,if_false,Option.some.injEq,Prod.mk.injEq] at ran
  obtain ⟨rfl,-⟩ := ran
  constructor
  · rfl
  · exact between.reading
  · rw [← between.asked,moved]
    exact List.append_assoc ..
  · exact between.tasks
  · exact between.answer

theorem bring (between : d.Between asked tasks answer) (moved : d.back = octets ++ rest) :
    Between { d with back := rest, inbox := d.inbox ++ octets } asked tasks answer := by
  constructor
  · exact between.live
  · exact between.reading
  · exact between.asked
  · exact between.tasks
  · rw [← between.answer,moved]
    exact List.append_assoc ..

theorem read_empty (between : d.Between [] tasks answer) : d.responder.step .read = none := by
  have buffer : d.responder.buffer = [] := (List.append_eq_nil_iff.mp between.asked).1
  have taken : Stream.take false [] = .waiting := rfl
  simp only [Responder.step,Responder.read,between.reading,between.live,buffer,taken,if_true]

theorem read_frame (between : d.Between frame.encode [] answer) (proper : frame.Proper)
    (asks : frame.isResponse = false) :
    d.out ≠ [] ∧ d.responder.step .read = none ∨
      d.out = [] ∧ d.responder.step .read = some ({ d.responder with
        buffer := [], tasks := [(d.responder.nextTask,frame)], nextTask := d.responder.nextTask + 1 },
        [.handle d.responder.nextTask frame]) := by
  by_cases whole : d.out = []
  · have taken := Stream.take_encode proper false []
    rw [← between.asked,whole,List.append_nil,List.append_nil] at taken
    refine .inr ⟨whole,?_⟩
    simp only [Responder.step,Responder.read,between.reading,between.live,taken,asks,between.tasks,if_true,
      Bool.false_eq_true,if_false,Table.put]
  · have taken := Stream.take_part proper between.asked.symm whole
    refine .inl ⟨whole,?_⟩
    simp only [Responder.step,Responder.read,between.reading,between.live,taken,if_true]

theorem serve_frame {task : Nat} {request : Request} {n : UInt64}
    (between : d.Between asked [(task,request.frame n)] answer)
    (fits : request.Fits (inner.perform d.server request).1) :
    d.responder.step (.finish task (inner.handle d.server (request.frame n)).1) =
      some ({ d.responder with tasks := [] },
        [.write ((request.frame n).answer (inner.perform d.server request).1).encode]) := by
  have answered := Frame.answered_answer (request.frame_wants n) (inner.perform d.server request).1
  simp [Responder.step,between.tasks,Table.find?,Table.remove,inner.handle_frame d.server fits n,answered]

theorem take_frame (between : d.Between asked tasks frame.encode) (proper : frame.Proper) :
    d.back ≠ [] ∧ Stream.take false d.inbox = .waiting ∨
      d.back = [] ∧ Stream.take false d.inbox = .frame frame [] := by
  by_cases whole : d.back = []
  · have taken := Stream.take_encode proper false []
    rw [← between.answer,whole,List.append_nil,List.append_nil] at taken
    exact .inr ⟨whole,taken⟩
  · exact .inl ⟨whole,Stream.take_part proper between.answer.symm whole⟩

theorem take_empty (between : d.Between asked tasks []) : Stream.take false d.inbox = .waiting := by
  have inbox : d.inbox = [] := (List.append_eq_nil_iff.mp between.answer).1
  rw [inbox]
  rfl

end Between

def Leads (inner : Service σ) (d next : Dialogue σ) (coming : List (Except LockFault Reply)) (ahead : List Request)
    (rank : Nat) : Prop :=
  ∃ coming' ahead' rank', next.At coming' ahead' rank' ∧ Does inner d next coming ahead rank coming' ahead' rank'

variable {request : Request} {others : List Request} {k : Nat} {call : Caller.Call} {heard : Caller}
  {effects : List Caller.Effect} {far : Responder} {told : List Responder.Effect} {task : Nat}

theorem request_proper {s : σ} (fits : inner.Fits s (request :: others)) (n : UInt64) : (request.frame n).Proper :=
  request.frame_proper fits.1 n

theorem begin_leads (between : d.Between asked tasks answer)
    (talk : Talk d.caller d.current d.todo asked tasks answer coming ahead rank) (limit : Option UInt64)
    (free : d.current = none) (first : d.todo = request :: others) :
    Leads inner d { d with
      caller := d.caller.start .none request.opcode (Coded.encode request) limit
      current := some (d.caller.nextCall,request)
      todo := others } coming ahead rank := by
  cases talk with
  | resting idle free =>
      have lone := idle.start request.opcode (Coded.encode request) limit
      refine ⟨[],request :: others,_,⟨[],[],[],?_,.numbered rfl lone⟩,?_⟩
      · exact ⟨between.live,between.reading,between.asked,between.tasks,between.answer⟩
      · rw [first]
        refine .moves rfl rfl (.inl ?_)
        simp only [List.length_cons]
        omega
  | numbered under lone | entered under lone | asking under lone | working under lone => simp [free] at under
  | answering under fits suits lone | answered under suits lone => simp [free] at under

theorem proceed_leads (between : d.Between asked tasks answer)
    (talk : Talk d.caller d.current d.todo asked tasks answer coming ahead rank)
    (under : d.current = some (k,request)) (found : d.caller.calls.find? k = some call)
    (ran : d.caller.step (Caller.acts k call (.ok ())) = some (heard,effects)) :
    Leads inner d (effects.foldl (note request) { d with caller := heard }) coming ahead rank := by
  cases talk with
  | resting idle free => simp [free] at under
  | numbered under' lone =>
      obtain ⟨rfl,rfl⟩ : _ ∧ _ := by simpa using under.symm.trans under'
      cases found.symm.trans lone.find?
      obtain ⟨entered,enters,lone'⟩ := lone.enter rfl (request.frame_wants _)
      cases ran.symm.trans enters
      refine ⟨_,_,_,⟨[],[],[],?_,.entered under lone'⟩,.moves rfl rfl (.inl (Nat.lt_succ_self _))⟩
      exact ⟨between.live,between.reading,between.asked,between.tasks,between.answer⟩
  | entered under' lone =>
      obtain ⟨rfl,rfl⟩ : _ ∧ _ := by simpa using under.symm.trans under'
      cases found.symm.trans lone.find?
      obtain ⟨sent,writes,lone'⟩ := lone.write rfl (request.frame_wants _)
      cases ran.symm.trans writes
      refine ⟨_,_,_,⟨_,[],[],?_,.asking under lone'⟩,.moves rfl rfl (.inl (Nat.lt_succ_self _))⟩
      refine ⟨between.live,between.reading,?_,between.tasks,between.answer⟩
      rw [← List.nil_append (Frame.encode _),← between.asked]
      exact (List.append_assoc ..).symm
  | asking under' lone | working under' lone | answering under' fits suits lone =>
      obtain ⟨rfl,rfl⟩ : _ ∧ _ := by simpa using under.symm.trans under'
      cases found.symm.trans lone.find?
      cases ran.symm.trans (lone.finish_empty rfl rfl)
  | answered under' suits lone =>
      obtain ⟨rfl,rfl⟩ : _ ∧ _ := by simpa using under.symm.trans under'
      cases found.symm.trans lone.find?
      obtain ⟨last,finishes,idle⟩ := lone.finish rfl rfl
      cases ran.symm.trans finishes
      refine ⟨_,_,_,⟨[],[],[],?_,.resting idle rfl⟩,.returns rfl ?_ (Nat.lt_add_of_pos_right (by decide))⟩
      · exact ⟨between.live,between.reading,between.asked,between.tasks,between.answer⟩
      · simp only [List.foldl_cons,List.foldl_nil,note,outcome_map,Remote.reply_answer,suits]

theorem read_leads (between : d.Between asked tasks answer)
    (talk : Talk d.caller d.current d.todo asked tasks answer coming ahead rank) (fits : inner.Fits d.server ahead)
    (ran : d.responder.step .read = some (far,told)) : Leads inner d { d with responder := far } coming ahead rank := by
  cases talk with
  | resting | numbered | entered | working | answering | answered => cases ran.symm.trans between.read_empty
  | asking under lone =>
      obtain ⟨-,waits⟩ | ⟨out,reads⟩ := between.read_frame (request_proper fits _) (Request.frame_asks _ _)
      · cases ran.symm.trans waits
      · cases ran.symm.trans reads
        refine ⟨_,_,_,⟨[],[(d.responder.nextTask,_)],[],?_,.working under lone⟩,
          .moves rfl rfl (.inl (Nat.lt_succ_self _))⟩
        exact ⟨between.live,between.reading,out,rfl,between.answer⟩

theorem serve_leads (between : d.Between asked tasks answer)
    (talk : Talk d.caller d.current d.todo asked tasks answer coming ahead rank) (fits : inner.Fits d.server ahead)
    (found : d.responder.tasks.find? task = some frame)
    (ran : d.responder.step (.finish task (inner.handle d.server frame).1) = some (far,told)) :
    Leads inner d { d with
      responder := far
      server := (inner.handle d.server frame).2
      back := d.back ++ told.flatMap written } coming ahead rank := by
  rw [between.tasks] at found
  cases talk with
  | resting | numbered | entered | asking | answering | answered => cases found
  | @working k request n limit other under lone =>
      obtain ⟨rfl,rfl⟩ : other = task ∧ request.frame n = frame := by
        simpa [Table.find?] using found
      cases ran.symm.trans (between.serve_frame fits.1)
      rw [inner.handle_frame d.server fits.1 n]
      refine ⟨_,_,_,⟨[],[],_,?_,.answering under fits.1 (inner.expected_perform _ _) lone⟩,
        .serves rfl rfl (Nat.lt_succ_self _)⟩
      refine ⟨between.live,between.reading,between.asked,rfl,?_⟩
      obtain ⟨inbox,back⟩ := List.append_eq_nil_iff.mp between.answer
      simp [written,inbox,back]

theorem take_leads {more : Bytes} (between : d.Between asked tasks answer)
    (talk : Talk d.caller d.current d.todo asked tasks answer coming ahead rank)
    (taken : Stream.take false d.inbox = .frame frame more)
    (ran : d.caller.step (.arrive frame) = some (heard,effects)) :
    Leads inner d { d with caller := heard, inbox := more } coming ahead rank := by
  cases talk with
  | resting | numbered | entered | asking | working | answered => cases taken.symm.trans between.take_empty
  | @answering k request reply n limit under fits suits lone =>
      obtain ⟨-,waits⟩ | ⟨back,whole⟩ := between.take_frame (Frame.answer_proper _ fits)
      · cases taken.symm.trans waits
      · cases taken.symm.trans whole
        cases ran.symm.trans (lone.arrives _)
        refine ⟨_,_,_,⟨[],[],[],?_,.answered under suits (lone.arrive (Frame.answer_request _ _))⟩,
          .moves rfl rfl (.inl (Nat.lt_succ_self _))⟩
        exact ⟨between.live,between.reading,between.asked,between.tasks,back⟩

theorem Between.never_fails {fault : LinkFault} {more : Bytes} (between : d.Between asked tasks answer)
    (talk : Talk d.caller d.current d.todo asked tasks answer coming ahead rank) :
    Stream.take false d.inbox ≠ .fault fault more := by
  intro taken
  cases talk with
  | resting | numbered | entered | asking | working | answered => cases taken.symm.trans between.take_empty
  | answering under fits suits lone =>
      obtain ⟨-,waits⟩ | ⟨-,whole⟩ := between.take_frame (Frame.answer_proper _ fits)
      · cases taken.symm.trans waits
      · cases taken.symm.trans whole

theorem Step.leads (step : Step inner d next) (fits : inner.Fits d.server ahead) (stands : d.At coming ahead rank) :
    Leads inner d next coming ahead rank := by
  obtain ⟨asked,tasks,answer,between,talk⟩ := stands
  cases step with
  | begin limit free first => exact begin_leads between talk limit free first
  | proceed under found ran => exact proceed_leads between talk under found ran
  | read ran => exact read_leads between talk fits ran
  | serve found ran => exact serve_leads between talk fits found ran
  | take taken ran => exact take_leads between talk taken ran
  | fail taken ran => exact absurd taken (between.never_fails talk)
  | carry moved real ran =>
      refine ⟨_,_,_,⟨_,_,_,between.carry moved ran,talk⟩,.moves rfl rfl (.inr ⟨rfl,?_⟩)⟩
      have length := List.length_pos_iff.mpr real
      simp only [afloat,moved,List.length_append]
      omega
  | bring moved real =>
      refine ⟨_,_,_,⟨_,_,_,between.bring moved,talk⟩,.moves rfl rfl (.inr ⟨rfl,?_⟩)⟩
      have length := List.length_pos_iff.mpr real
      simp only [afloat,moved,List.length_append]
      omega

theorem At.progress (place : d.At coming ahead rank) (fits : inner.Fits d.server ahead) :
    (∃ next, Step inner d next) ∨ coming = [] ∧ ahead = [] := by
  obtain ⟨asked,tasks,answer,between,talk⟩ := place
  cases talk with
  | resting idle free =>
      cases first : d.todo with
      | nil => exact .inr ⟨rfl,rfl⟩
      | cons request others => exact .inl ⟨_,.begin none free first⟩
  | numbered under lone =>
      obtain ⟨entered,enters,-⟩ := lone.enter rfl (Request.frame_wants _ _)
      exact .inl ⟨_,.proceed under lone.find? enters⟩
  | entered under lone =>
      obtain ⟨sent,writes,-⟩ := lone.write rfl (Request.frame_wants _ _)
      exact .inl ⟨_,.proceed under lone.find? writes⟩
  | asking under lone =>
      obtain ⟨out,-⟩ | ⟨-,reads⟩ := between.read_frame (request_proper fits _) (Request.frame_asks _ _)
      · have receives : d.responder.step (.receive d.out) =
            some ({ d.responder with buffer := d.responder.buffer ++ d.out },[]) := by
          simp [Responder.step,between.live]
        exact .inl ⟨_,.carry (List.append_nil _).symm out receives⟩
      · exact .inl ⟨_,.read reads⟩
  | @working k request n limit task under lone =>
      have found : d.responder.tasks.find? task = some (request.frame n) := by
        rw [between.tasks]
        exact if_pos rfl
      exact .inl ⟨_,.serve found (between.serve_frame fits.1)⟩
  | answering under fit suits lone =>
      obtain ⟨back,-⟩ | ⟨-,whole⟩ := between.take_frame (Frame.answer_proper _ fit)
      · exact .inl ⟨_,.bring (List.append_nil _).symm back⟩
      · exact .inl ⟨_,.take whole (lone.arrives _)⟩
  | answered under suits lone =>
      obtain ⟨last,finishes,-⟩ := lone.finish rfl rfl
      exact .inl ⟨_,.proceed under lone.find? finishes⟩

end Dialogue
end LockLender
