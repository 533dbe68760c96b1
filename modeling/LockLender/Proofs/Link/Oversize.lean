import LockLender.Lender.Turns
import LockLender.Proofs.Link.Answering
import LockLender.Proofs.Link.Relay
import LockLender.Proofs.Link.Traffic
import LockLender.Proofs.Wire.Size

namespace LockLender

namespace Frame

def Made (frame : Frame) : Prop :=
  ∃ opcode request payload flags, frame = (make opcode request payload).withFlags flags

def Fits (frame : Frame) : Prop := frame.payload.length ≤ payloadLimit.toNat

def Arrives (frame : Frame) : Prop := ∀ rest, Stream.next (frame.encode ++ rest) = (.ok frame,rest)

-- The header states a length that the other end refuses. A length of 2^32 or more is not stated as it is.
def Oversize (frame : Frame) : Prop := frame.header.length > payloadLimit

variable {frame request answer : Frame} {outcome : Except LinkFault Bytes} {rest : Bytes}

theorem Proper.fits (proper : frame.Proper) : frame.Fits := by
  unfold Fits
  rw [← proper.stated]
  exact UInt32.le_iff_toNat_le.mp proper.bounded

theorem Made.proper (made : frame.Made) (fits : frame.Fits) : frame.Proper := by
  obtain ⟨opcode,number,payload,flags,rfl⟩ := made
  exact make_proper opcode number flags fits

theorem Made.arrives_iff (made : frame.Made) : frame.Arrives ↔ frame.Fits := by
  constructor
  · intro arrives
    exact (Stream.next_eq_ok.mp (arrives [])).1.fits
  · intro fits rest
    exact Stream.next_encode (made.proper fits) rest

theorem answered_made (answers : request.answered outcome = some answer) : answer.Made := by
  unfold answered at answers
  split at answers
  · cases answers
  · cases outcome with
    | ok payload =>
        cases answers
        exact ⟨_,_,_,_,rfl⟩
    | error fault =>
        cases answers
        exact ⟨_,_,_,_,rfl⟩

end Frame

namespace Stream
variable {frames before : List Frame} {frame big : Frame} {ended : Bool}

theorem take_oversize (made : big.Made) (large : big.Oversize) (ended : Bool) (rest : Bytes) :
    take ended (big.encode ++ rest) =
      .fault (.tooLarge big.header.length Frame.payloadLimit) (big.payload ++ rest) := by
  obtain ⟨opcode,number,payload,flags,rfl⟩ := made
  have header := Bytes.split?_eq_some.mpr
    ⟨Frame.encode_append ((Frame.make opcode number payload).withFlags flags) rest,Header.encode_length _⟩
  have decoded := Header.decode_eq_ok.mpr
    ⟨List.prefix_refl ((Frame.make opcode number payload).withFlags flags).header.encode,rfl,rfl⟩
  unfold take
  simp only [header,decoded]
  exact if_pos large

theorem frames_whole (proper : ∀ frame ∈ frames, Frame.Proper frame) :
    Stream.frames (frames.flatMap Frame.encode) = frames := by
  have front : Front (frames.flatMap Frame.encode) frames [] := by
    refine ⟨(List.append_nil _).symm,proper,?_⟩
    intro frame _ begins
    exact frame.encode_ne_nil (List.prefix_nil.mp begins)
  exact front.frames_eq

theorem frames_cut (proper : ∀ frame ∈ before, Frame.Proper frame) (made : big.Made) (large : big.Oversize)
    (rest : Bytes) : Stream.frames (before.flatMap Frame.encode ++ (big.encode ++ rest)) = before := by
  have front : Front (before.flatMap Frame.encode ++ (big.encode ++ rest)) before (big.encode ++ rest) := by
    refine ⟨rfl,proper,?_⟩
    rintro frame proper ⟨more,same⟩
    have taken := take_oversize made large true rest
    rw [← same,take_encode proper] at taken
    cases taken
  exact front.frames_eq

end Stream

structure Carried (sent : List Frame) : Prop where
  each : ∀ frame ∈ sent, frame.Arrives ↔ frame.Fits
  whole : Stream.frames (sent.flatMap Frame.encode) = sent ↔ ∀ frame ∈ sent, frame.Fits
  cut : ∀ before big behind, sent = before ++ big :: behind → (∀ frame ∈ before, frame.Fits) → big.Oversize →
    Stream.frames (sent.flatMap Frame.encode) = before

theorem Carried.of_made {sent : List Frame} (made : ∀ frame ∈ sent, frame.Made) : Carried sent := by
  constructor
  · intro frame member
    exact (made frame member).arrives_iff
  · constructor
    · intro same frame member
      obtain ⟨rest,front⟩ := Stream.frames_front (sent.flatMap Frame.encode)
      rw [same] at front
      exact (front.proper frame member).fits
    · intro fits
      exact Stream.frames_whole fun frame member => (made frame member).proper (fits frame member)
  · rintro before big behind rfl fits large
    rw [List.flatMap_append,List.flatMap_cons]
    apply Stream.frames_cut _ (made big (by simp)) large
    intro frame member
    exact (made frame (List.mem_append_left _ member)).proper (fits frame member)

namespace Caller

def Act.frame? (number : UInt64) : Act → Option Frame
  | .begin opcode payload _ => some ((Frame.make opcode number payload).withFlags .none)
  | .beginOneWay opcode payload => some ((Frame.make opcode number payload).withFlags .oneWay)
  | _ => none

def Begun (past : List Deed) (frame : Frame) : Prop := ∃ now ∈ past, ∃ number, now.act.frame? number = some frame

def sent : List Deed → List Frame
  | [] => []
  | now :: past => sent past ++ now.effects.filterMap Effect.sent?

def Framed (p : Frame → Prop) (calls : Table Nat Call) : Prop := ∀ k call, calls.find? k = some call → p call.frame

variable {p : Frame → Prop} {calls : Table Nat Call} {caller next : Caller} {act : Act} {effects : List Effect}
  {call : Call} {frame : Frame} {past : List Deed} {k : Nat}

theorem Framed.put (framed : Framed p calls) (holds : p call.frame) (k : Nat) : Framed p (calls.put k call) := by
  intro j other found
  rcases Table.find?_of_put found with ⟨-,rfl⟩ | found
  · exact holds
  · exact framed j other found

theorem Turn.keeps {after : Option Call} {table : Table UInt64 Nat}
    (turn : Turn caller k act (some call) effects after table) :
    (∀ later, after = some later → later.frame = call.frame) ∧
      ∀ frame, .send frame ∈ effects → frame = call.frame := by
  constructor
  · intro later made
    cases turn with
    | refuse | post | misplace | leave | answered | rejected | cut => cases made
    | announce | register | send | fail | expire | deliver =>
        cases made
        rfl
  · intro frame sent
    obtain ⟨_,same,writes,_⟩ := turn.sent sent
    cases same
    exact writes

theorem Does.framed {after : Option Call} (does : caller.Does act k effects after next)
    (found : caller.calls.find? k = some call) (framed : Framed p caller.calls) :
    Framed p next.calls ∧ ∀ frame, .send frame ∈ effects → p frame := by
  have turn := does.turn
  rw [found] at turn
  obtain ⟨keeps,writes⟩ := turn.keeps
  have holds := framed k call found
  constructor
  · intro j other there
    by_cases same : j = k
    · rw [same,does.call] at there
      rw [keeps other there]
      exact holds
    · rw [does.calls j same] at there
      exact framed j other there
  · intro frame sent
    rw [writes frame sent]
    exact holds

theorem step_framed (framed : Framed p caller.calls) (begins : ∀ number frame, act.frame? number = some frame → p frame)
    (ran : caller.step act = some (next,effects)) :
    Framed p next.calls ∧ ∀ frame, .send frame ∈ effects → p frame := by
  -- Only the first two acts bring in a frame.
  cases act with
  | begin opcode payload limit =>
      cases ran
      exact ⟨framed.put (begins _ _ rfl) _,nofun⟩
  | beginOneWay opcode payload =>
      cases ran
      exact ⟨framed.put (begins _ _ rfl) _,nofun⟩
  | enter k =>
      obtain ⟨call,found,ran⟩ := Option.bind_eq_some_iff.mp ran
      split at ran
      · rename_i place
        obtain ⟨_,does⟩ := enter_does found place (Option.some.inj ran)
        exact does.framed found framed
      · cases ran
  | write k outcome =>
      obtain ⟨call,found,ran⟩ := Option.bind_eq_some_iff.mp ran
      split at ran
      · rename_i place
        obtain ⟨_,does⟩ := write_does found place (Option.some.inj ran)
        exact does.framed found framed
      · cases ran
  | expire k =>
      obtain ⟨call,found,ran⟩ := Option.bind_eq_some_iff.mp ran
      obtain ⟨millis,limit,ran⟩ := Option.bind_eq_some_iff.mp ran
      split at ran
      · rename_i waits
        cases ran
        exact Does.framed (does_put found (.expire waits.1 waits.2 limit) rfl rfl ⟨rfl,rfl⟩) found framed
      · cases ran
  | leave k =>
      obtain ⟨call,found,ran⟩ := Option.bind_eq_some_iff.mp ran
      split at ran
      · rename_i fault counter place
        cases ran
        exact Does.framed (does_remove found (.leave place) rfl rfl ⟨rfl,rfl⟩) found framed
      · cases ran
  | finish k =>
      obtain ⟨call,found,ran⟩ := Option.bind_eq_some_iff.mp ran
      split at ran
      · rename_i place
        obtain ⟨_,does⟩ := finish_does found place ran
        exact does.framed found framed
      · cases ran
  | arrive frame =>
      simp only [step] at ran
      split at ran
      · cases ran
      · cases ran
        refine ⟨?_,nofun⟩
        unfold arrive
        dsimp only
        split
        · exact framed
        · split
          · exact framed
          · rename_i call found
            have holds : p call.frame := framed _ call found
            apply framed.put
            exact holds
  | sever =>
      simp only [step] at ran
      split at ran
      · cases ran
      · cases ran
        refine ⟨?_,nofun⟩
        intro k call found
        rw [sever_marks] at found
        obtain ⟨old,there,rfl⟩ := Option.map_eq_some_iff.mp found
        split
        · exact framed k old there
        · exact framed k old there

-- No length keeps a frame from being written.
theorem write_sends (found : caller.calls.find? k = some call) (place : call.place = .entered) :
    ∃ next effects, caller.step (.write k (.ok ())) = some (next,effects) ∧ .send call.frame ∈ effects := by
  simp only [step,found,bind,Option.bind,place,if_true,write]
  split
  · exact ⟨_,_,rfl,List.mem_cons_self⟩
  · exact ⟨_,_,rfl,List.mem_cons_self⟩

theorem Begun.later {now : Deed} (begun : Begun past frame) : Begun (now :: past) frame := by
  obtain ⟨other,member,started⟩ := begun
  exact ⟨other,List.mem_cons_of_mem _ member,started⟩

theorem Begun.made (begun : Begun past frame) : frame.Made := by
  obtain ⟨now,_,number,started⟩ := begun
  cases act : now.act with
  | begin | beginOneWay =>
      rw [act] at started
      cases started
      exact ⟨_,_,_,_,rfl⟩
  | enter | write | expire | leave | finish | arrive | sever =>
      rw [act] at started
      cases started

theorem Traffic.begun (traffic : Traffic past caller) :
    Framed (Begun past) caller.calls ∧ ∀ frame ∈ sent past, Begun past frame := by
  induction traffic with
  | start begins =>
      obtain ⟨metrics,rfl⟩ := begins
      constructor
      · intro k call found
        cases found
      · intro frame member
        cases member
  | @step past caller next effects act traffic natural ran ih =>
      obtain ⟨framed,wrote⟩ := ih
      have later : Framed (Begun (⟨caller,act,effects,next⟩ :: past)) caller.calls :=
        fun k call found => (framed k call found).later
      obtain ⟨framed,writes⟩ := step_framed later
        (fun number frame started => ⟨_,List.mem_cons_self,number,started⟩) ran
      refine ⟨framed,?_⟩
      intro frame member
      obtain before | now := List.mem_append.mp member
      · exact (wrote frame before).later
      · obtain ⟨effect,there,sends⟩ := List.mem_filterMap.mp now
        cases effect with
        | send =>
            cases sends
            exact writes frame there
        | done => cases sends

end Caller

theorem Responder.answered_of_mem {requests : List Frame} {finished : List (Nat × Except LinkFault Bytes)} {answer : Frame}
    (member : answer ∈ answers requests finished) : ∃ task outcome request,
      (task,outcome) ∈ finished ∧ requests[task]? = some request ∧ request.answered outcome = some answer := by
  obtain ⟨⟨task,outcome⟩,there,same⟩ := List.mem_filterMap.mp member
  obtain ⟨request,asked,same⟩ := Option.bind_eq_some_iff.mp same
  exact ⟨task,outcome,request,there,asked,same⟩

namespace Service
variable {σ : Type}

theorem handle_length (service : Service σ) (s : σ) (frame : Frame) :
    (carriedBack (service.handle s frame).1).length ≤ 6 * frame.payload.length + 158 ∨
      ∃ request fault, frame.asRequest = .ok request ∧ (service.perform s request).1 = .error fault ∧
        carriedBack (service.handle s frame).1 = Utf8.encode fault.words := by
  cases read : frame.asRequest with
  | error fault =>
      have words := Frame.size_asRequest read
      rw [handle_error read]
      refine .inl ?_
      change Utf8.size ("remote handler failed: " ++ fault.message) ≤ _
      rw [Utf8.size_append]
      change 23 + _ ≤ _
      omega
  | ok request =>
      rw [handle_ok read]
      dsimp only
      cases done : (service.perform s request).1 with
      | ok reply =>
          have short := reply.encode_length_le
          refine .inl ?_
          change (Coded.encode reply).length ≤ _
          omega
      | error fault => exact .inr ⟨request,fault,rfl,done,rfl⟩

end Service

theorem Lender.Turns.perform_ok (turns : Lender.Turns) (request : Request) :
    ∃ reply, (Lender.Turns.service.perform turns request).1 = .ok reply := by
  cases request with
  | acquire lock client | release lock client | stat lock => exact ⟨_,rfl⟩

-- What goes out at either end is read at the other exactly if its payload is within the limit, all of it if
-- all payloads are, and else up to the first whose length is refused; neither end looks at it before.
-- A lock service keeps its answers within the limit if it is not asked at length.
theorem delivered_unless_oversize {calls : List Caller.Deed} {caller : Caller} {past : List Responder.Deed} {r : Responder}
    (traffic : Caller.Traffic calls caller) (course : Responder.Course past r) :
    ((∀ frame ∈ Caller.sent calls, Caller.Begun calls frame) ∧ Carried (Caller.sent calls) ∧
      ∀ k call, caller.calls.find? k = some call → call.place = .entered →
        ∃ next effects, caller.step (.write k (.ok ())) = some (next,effects) ∧ .send call.frame ∈ effects) ∧
    (let requests := Responder.asking (Stream.frames (Responder.received past))
      let answers := Responder.answers requests (Responder.done past)
      Responder.written past = answers.flatMap Frame.encode ∧ Carried answers ∧
        ∀ answer ∈ answers, ∃ task outcome request, (task,outcome) ∈ Responder.done past ∧
          requests[task]? = some request ∧ answer.Answers request outcome) ∧
    (∀ (σ : Type) (service : Service σ) (s : σ) (frame : Frame),
      (carriedBack (service.handle s frame).1).length ≤ 6 * frame.payload.length + 158 ∨
        ∃ request fault, frame.asRequest = .ok request ∧ (service.perform s request).1 = .error fault ∧
          carriedBack (service.handle s frame).1 = Utf8.encode fault.words) ∧
    ∀ turns request, ∃ reply, (Lender.Turns.service.perform turns request).1 = .ok reply := by
  refine ⟨?_,?_,?_,Lender.Turns.perform_ok⟩
  · obtain ⟨_,begun⟩ := traffic.begun
    have made : ∀ frame ∈ Caller.sent calls, frame.Made := fun frame member => (begun frame member).made
    exact ⟨begun,.of_made made,fun k call found place => Caller.write_sends found place⟩
  · intro requests answers
    obtain ⟨_,_,kept⟩ := course.kept
    refine ⟨kept.answering.written,.of_made ?_,?_⟩
    · intro answer member
      obtain ⟨_,_,_,_,_,answered⟩ := Responder.answered_of_mem member
      exact Frame.answered_made answered
    · intro answer member
      obtain ⟨task,outcome,request,there,asked,answered⟩ := Responder.answered_of_mem member
      exact ⟨task,outcome,request,there,asked,Frame.answers_of_answered answered⟩
  · intro σ service s frame
    exact service.handle_length s frame

def posting (payload : Bytes) : List Caller.Act :=
  [.begin .acquire payload none,.begin .stat [] none,.enter 0,.enter 1,.write 0 (.ok ()),.write 1 (.ok ())]

def posted (payload : Bytes) : List Caller.Deed × Caller := Caller.linked.follow [] {} (posting payload)

def parcel (payload : Bytes) : Frame := (Frame.make .acquire 1 payload).withFlags .none
def inquiry : Frame := (Frame.make .stat 2 []).withFlags .none

theorem posted_traffic (payload : Bytes) : Caller.Traffic (posted payload).1 (posted payload).2 :=
  Caller.linked.follow_runs (.start ⟨{},rfl⟩) (posting payload)

theorem sent_posted (payload : Bytes) : Caller.sent (posted payload).1 = [parcel payload,inquiry] := by
  simp [posted,posting,Machine.follow,Caller.Act.natural,Caller.step,Caller.start,Caller.put,Table.put,Table.find?,
    Caller.enter,Caller.write,Caller.count,Frame.make_wants,Caller.sent,Caller.Effect.sent?,parcel,inquiry]

theorem delivered_unless_oversize_posted :
    (Caller.Traffic (posted [7]).1 (posted [7]).2 ∧
      Stream.frames ((Caller.sent (posted [7]).1).flatMap Frame.encode) = [parcel [7],inquiry]) ∧
    (Responder.Course Responder.bustled.1 Responder.bustled.2 ∧
      Stream.frames (Responder.written Responder.bustled.1) =
        [Responder.late.refuse "remote handler failed: gone",Responder.wanted.respond [0,1]]) := by
  obtain ⟨⟨-,calls,-⟩,⟨written,answers,-⟩,-⟩ := delivered_unless_oversize (posted_traffic [7]) Responder.bustled_course
  rw [sent_posted] at calls
  have sent : Responder.answers (Responder.asking (Stream.frames (Responder.received Responder.bustled.1)))
      (Responder.done Responder.bustled.1) =
        [Responder.late.refuse "remote handler failed: gone",Responder.wanted.respond [0,1]] := by decide +kernel
  rw [sent] at written answers
  refine ⟨⟨posted_traffic [7],?_⟩,Responder.bustled_course,?_⟩
  · rw [sent_posted]
    apply calls.whole.mpr
    unfold Frame.Fits
    decide
  · rw [written]
    apply answers.whole.mpr
    unfold Frame.Fits
    decide +kernel

theorem posted_unread {payload : Bytes} (large : (parcel payload).Oversize) :
    Stream.next ((Caller.sent (posted payload).1).flatMap Frame.encode) =
        (.error (.tooLarge (parcel payload).header.length Frame.payloadLimit),payload ++ inquiry.encode) ∧
      Stream.frames ((Caller.sent (posted payload).1).flatMap Frame.encode) = [] := by
  have made : (parcel payload).Made := ⟨_,_,_,_,rfl⟩
  have octets : (Caller.sent (posted payload).1).flatMap Frame.encode = (parcel payload).encode ++ inquiry.encode := by
    rw [sent_posted,List.flatMap_cons,List.flatMap_singleton]
  rw [octets]
  constructor
  · rw [Stream.next_eq_take,Stream.take_oversize made large true inquiry.encode]
    rfl
  · exact Stream.frames_cut (List.forall_mem_nil _) made large inquiry.encode

-- A request whose client has a name of characters that are not seen as themselves.
def swollen (n : Nat) : Request := .acquire ⟨7⟩ ⟨String.ofList (List.replicate n '\x7F')⟩

def swollenFrame (n : Nat) : Frame := (Frame.make .stat 5 (Coded.encode (swollen n))).withFlags .none

theorem swollen_name (n : Nat) : (Utf8.encode (String.ofList (List.replicate n '\x7F'))).length = n := by
  change Utf8.size _ = _
  rw [Utf8.size_plain,List.length_replicate]
  intro c member
  rw [List.eq_of_mem_replicate member]
  rfl

theorem swollen_length (n : Nat) : (Coded.encode (swollen n)).length = n + 20 := by
  simp only [swollen,Coded.encode,Codec.caseBytes,Codec.wordBytes,Codec.textBytes,List.length_append,
    Bytes.little_length,swollen_name]
  omega

theorem swollen_shown (n : Nat) : 6 * n ≤ Utf8.size (swollen n).shown := by
  have each : Utf8.size (Quoted.escape '\x7F') = 6 := by decide +kernel
  have quoted := Quoted.size_quoted (String.ofList (List.replicate n '\x7F'))
  rw [String.toList_ofList,List.map_replicate,List.sum_replicate_nat,each] at quoted
  change _ ≤ Utf8.size (shownRecord "Acquire" [("lock_id",LockId.shown ⟨7⟩),("client_id",ClientId.shown _)])
  unfold shownRecord ClientId.shown
  rw [List.map_cons,List.map_cons,List.map_nil,String.intercalate_cons_cons,String.intercalate_singleton]
  simp only [Utf8.size_append,quoted]
  omega

theorem swollen_refused (n : Nat) (fits : (swollenFrame n).Fits) : (swollenFrame n).asRequest =
    .error (.malformed ((swollen n).shown ++ " under opcode " ++ Opcode.stat.name)) := by
  have short : (swollen n).Short := by
    have limit : Frame.payloadLimit.toNat < 2 ^ 64 := by decide
    change (Coded.encode (swollen n)).length ≤ _ at fits
    rw [swollen_length] at fits
    change (Utf8.encode _).length < _
    rw [swollen_name]
    omega
  have read : (Coded.decode (swollenFrame n).payload : Except MessageFlaw Request) = .ok (swollen n) :=
    (Coded.decode_eq_ok Codec.request_exact).mpr ⟨short,List.prefix_refl _⟩
  unfold Frame.asRequest Frame.message
  rw [read]
  rfl

theorem swollen_unread (n : Nat) (fits : (swollenFrame n).Fits) (long : Frame.payloadLimit.toNat < 6 * n)
    {σ : Type} (service : Service σ) (s : σ) : ∃ answer,
      (swollenFrame n).answered (service.handle s (swollenFrame n)).1 = some answer ∧ ¬ answer.Arrives := by
  have shown := swollen_shown n
  have words : carriedBack (service.handle s (swollenFrame n)).1 = Utf8.encode
      ("remote handler failed: " ++ ("malformed request: " ++
        ((swollen n).shown ++ " under opcode " ++ Opcode.stat.name))) := by
    rw [Service.handle_error (swollen_refused n fits)]
    rfl
  have wants : (swollenFrame n).isOneWay = false := Frame.make_wants .stat 5 (Coded.encode (swollen n))
  obtain ⟨answer,answered,answers⟩ := Frame.answered_wanted wants
  refine ⟨answer,answered,?_⟩
  rw [(Frame.answered_made answered).arrives_iff]
  unfold Frame.Fits
  rw [answers.payload,words]
  change ¬ Utf8.size _ ≤ _
  simp only [Utf8.size_append]
  omega

def bulk : Bytes := List.replicate 16777217 0

-- The connection is lost for another call, with a request that is too long by an octet, and with the answer to
-- a request that is not too long.
theorem oversize_ends_reading :
    (Caller.Traffic (posted bulk).1 (posted bulk).2 ∧ Caller.sent (posted bulk).1 = [parcel bulk,inquiry] ∧
      (Stream.next ((Caller.sent (posted bulk).1).flatMap Frame.encode)).1 = .error (.tooLarge 16777217 16777216) ∧
      Stream.frames ((Caller.sent (posted bulk).1).flatMap Frame.encode) = []) ∧
    (swollenFrame 3000000).Arrives ∧
      ∀ (σ : Type) (service : Service σ) (s : σ), ∃ answer,
        (swollenFrame 3000000).answered (service.handle s (swollenFrame 3000000)).1 = some answer ∧
          ¬ answer.Arrives := by
  have stated : (parcel bulk).header.length = 16777217 := by
    change UInt32.ofNat bulk.length = _
    rw [bulk,List.length_replicate]
    rfl
  have large : (parcel bulk).Oversize := by
    unfold Frame.Oversize
    rw [stated]
    decide
  obtain ⟨first,none⟩ := posted_unread large
  have fits : (swollenFrame 3000000).Fits := by
    change (Coded.encode (swollen 3000000)).length ≤ _
    rw [swollen_length]
    decide
  refine ⟨⟨posted_traffic bulk,sent_posted bulk,?_,none⟩,?_,?_⟩
  · rw [first,stated]
    rfl
  · have made : (swollenFrame 3000000).Made := ⟨_,_,_,_,rfl⟩
    exact made.arrives_iff.mpr fits
  · intro σ service s
    exact swollen_unread 3000000 fits (by decide) service s

end LockLender
