import LockLender.Proofs.Link.Turn
import LockLender.Proofs.Machine

namespace LockLender.Caller

abbrev Deed := LockLender.Deed Caller Act (List Effect)

-- Anything may happen at any time, but only a frame can bring word from the
-- other end: a write that fails does so with a fault of this end.
def Act.natural : Act → Bool
  | .write _ (.error fault) => fault.ofWriting
  | _ => true

abbrev linked : Machine Caller Act (List Effect) where
  begins caller := ∃ metrics, caller = { metrics }
  allows _ _ act := act.natural = true
  step := step

abbrev Traffic : List Deed → Caller → Prop := linked.Runs

def Deed.Settles (now : Deed) (k : Nat) (frame : Frame) : Prop :=
  now.act = .arrive frame ∧ now.before.waiting.find? frame.request = some k ∧
    ∃ call, now.before.calls.find? k = some call ∧ now.after.calls.find? k = some { call with inbox := .frame frame }

def Deed.Enters (now : Deed) (k : Nat) : Prop :=
  now.act = .enter k ∧ now.after.waiting.find? (number k) = some k

def Answered (past : List Deed) (k : Nat) (frame : Frame) : Prop :=
  ∃ arrival earlier, arrival :: earlier <:+ past ∧ arrival.Settles k frame ∧ frame.request = number k ∧
    ∃ entering ∈ earlier, entering.Enters k

def Call.severed (call : Call) : Bool :=
  call.place != .numbered && !call.frame.isOneWay && call.inbox == .severed

-- Whatever the call returns, now or when it next has its turn, is such a fault.
structure Fails (past : List Deed) (caller : Caller) (k : Nat) (fails : LinkFault → Prop) : Prop where
  only : ∀ now ∈ past, ∀ result, .done k result ∈ now.effects → ∃ fault, fails fault ∧ result = .error fault
  soon : (∃ now ∈ past, ∃ result, .done k result ∈ now.effects) ∨
    ∀ outcome, ∃ fault, fails fault ∧ .done k (.error fault) ∈ (caller.advance k outcome).2

structure Known (past : List Deed) (caller : Caller) : Prop where
  -- A call that returned is gone for good.
  gone : ∀ now ∈ past, ∀ k result, .done k result ∈ now.effects →
    caller.calls.find? k = none ∧ k < caller.nextCall
  entered : ∀ k call, caller.calls.find? k = some call → call.place ≠ .numbered → call.frame.isOneWay = false →
    ∃ entering ∈ past, entering.Enters k
  came : ∀ k call, caller.calls.find? k = some call → ∀ frame, call.inbox = .frame frame → Answered past k frame
  homemade : ∀ k call, caller.calls.find? k = some call →
    ∀ fault counter, call.place = .leaving fault counter → ∀ text, fault ≠ .remote text
  -- What was sent was sent by a call that is past its entry.
  sent : ∀ now ∈ past, ∀ frame, .send frame ∈ now.effects → ∃ k, frame.request = number k ∧ k < caller.nextCall ∧
    ∀ call, caller.calls.find? k = some call → call.place ≠ .numbered

def Dooms (p : Call → Bool) (fails : LinkFault → Prop) : Prop :=
  ∀ {caller act k call effects after table}, caller.closed = true → p call = true →
    Turn caller k act (some call) effects after table →
      (∃ fault, fails fault ∧ effects = [.done k (.error fault)] ∧ after = none) ∨
        (∃ next, after = some next ∧ p next = true) ∧ ∀ result, .done k result ∉ effects

structure Lost (past : List Deed) (caller : Caller) (k : Nat) (p : Call → Bool) (fails : LinkFault → Prop) :
    Prop where
  closed : caller.closed = true
  lower : k < caller.nextCall
  still : ∀ call, caller.calls.find? k = some call → p call = true
  gone : caller.calls.find? k = none → ∃ now ∈ past, ∃ result, .done k result ∈ now.effects
  only : ∀ now ∈ past, ∀ result, .done k result ∈ now.effects → ∃ fault, fails fault ∧ result = .error fault

structure Matched (past : List Deed) (caller : Caller) : Prop where
  numbered : ∀ now ∈ past, ∀ k call, now.after.calls.find? k = some call → call.frame.request = number k
  distinct : ∀ j k, j < caller.nextCall → k < caller.nextCall → number j = number k → j = k
  answered : ∀ now earlier, now :: earlier <:+ past → ∀ k frame, .done k (.ok (some frame)) ∈ now.effects →
    Answered earlier k frame ∧ frame.isError = false
  rejected : ∀ now earlier, now :: earlier <:+ past → ∀ k text, .done k (.error (.remote text)) ∈ now.effects →
    ∃ frame, Answered earlier k frame ∧ frame.isError = true ∧ text = Utf8.forgive frame.payload
  settled : ∀ now ∈ past, ∀ frame, now.act = .arrive frame →
    (∀ k, now.after.calls.find? k = now.before.calls.find? k) ∨
      ∃ k, now.Settles k frame ∧ ∀ j, j ≠ k → now.after.calls.find? j = now.before.calls.find? j
  returned : ∀ now ∈ past, ∀ k result, .done k result ∈ now.effects → caller.waiting.find? (number k) = none
  severed : ∀ now ∈ past, now.act = .sever → caller.closed = true ∧ caller.waiting = [] ∧
    ∀ n k, now.before.waiting.find? n = some k → Fails past caller k fun _ => True
  -- Who was not in the table then, or calls later, has nothing sent.
  refused : ∀ now ∈ past, now.after.closed = true → ∀ k call, now.after.calls.find? k = some call →
    call.outside = true → Fails past caller k (· = .reset) ∧
      ∀ other ∈ past, ∀ frame, .send frame ∈ other.effects → frame.request ≠ number k
  begun : ∀ now ∈ past, ∀ opcode payload limit, now.act = .begin opcode payload limit →
    now.after.closed = now.before.closed ∧
      ∃ call, now.after.calls.find? now.before.nextCall = some call ∧ call.outside = true

variable {past earlier : List Deed} {caller next : Caller} {act : Act} {k j : Nat} {effects : List Effect}
  {call : Call} {before after : Option Call} {table : Table UInt64 Nat} {now : Deed}

theorem Traffic.kept (traffic : Traffic past caller) (few : caller.nextCall < 2 ^ 64) : caller.Kept := by
  induction traffic with
  | start begins =>
      obtain ⟨metrics,rfl⟩ := begins
      exact start_kept metrics
  | step _ _ ran ih =>
      have kept := ih (Nat.lt_of_le_of_lt (step_grown ran) few)
      exact (step_did kept ran).kept kept few

theorem Answered.later {frame : Frame} (answered : Answered past k frame) : Answered (now :: past) k frame := by
  obtain ⟨arrival,earlier,suffix,rest⟩ := answered
  exact ⟨arrival,earlier,suffix.trans (List.suffix_cons now past),rest⟩

theorem Does.old (does : caller.Does act k effects after next) (old : j < caller.nextCall)
    (none : caller.calls.find? j = none) : next.calls.find? j = Option.none := by
  rw [does.calls j]
  · exact none
  · rintro rfl
    rcases does.numbers with ⟨_,_,there⟩ | ⟨new,_⟩
    · exact there none
    · omega

theorem Does.numbered (does : caller.Does act k effects after next) (old : j < caller.nextCall)
    (there : next.calls.find? j = some call) (numbered : call.place = .numbered) :
    ∃ old, caller.calls.find? j = some old ∧ old.place = .numbered := by
  cases found : caller.calls.find? j with
  | none => cases there.symm.trans (does.old old found)
  | some before =>
      by_cases same : j = k
      · subst same
        exact ⟨before,rfl,does.turn.numbered (does.call.symm.trans there) numbered before found⟩
      · cases found.symm.trans (does.calls j same ▸ there)
        exact ⟨_,rfl,numbered⟩

theorem Known.does (known : Known past caller) (kept : caller.Kept) (does : caller.Does act k effects after next)
    (keptNext : next.Kept) (natural : act.natural = true) : Known (⟨caller,act,effects,next⟩ :: past) next := by
  obtain ⟨used,grown,_⟩ := does.used kept
  have turn := does.turn
  constructor
  case gone =>
    intro now member j result done
    rcases List.mem_cons.mp member with rfl | member
    · obtain ⟨rfl,none,_⟩ := turn.done done
      exact ⟨does.call.trans none,used⟩
    · obtain ⟨none,lower⟩ := known.gone now member j result done
      exact ⟨does.old lower none,Nat.lt_of_lt_of_le lower grown⟩
  case entered =>
    refine does.each ?_ fun j call found moved wants => ?_
    · intro call made moved wants
      rcases turn.registered made moved wants with ⟨old,found,moved,frame⟩ | ⟨act,table⟩
      · obtain ⟨entering,member,enters⟩ := known.entered k old found moved (frame ▸ wants)
        exact ⟨entering,List.mem_cons_of_mem _ member,enters⟩
      · rw [keptNext.named k call (does.call.trans made)] at table
        exact ⟨_,List.mem_cons_self,act,table⟩
    · obtain ⟨entering,member,enters⟩ := known.entered j call found moved wants
      exact ⟨entering,List.mem_cons_of_mem _ member,enters⟩
  case came =>
    refine does.each ?_ fun j call found frame came => ?_
    · intro call made frame came
      obtain ⟨old,found,was | ⟨arrived,claimed,changed⟩⟩ := turn.came made came
      · exact (known.came k old found frame was).later
      · obtain ⟨_,there,number,awaits⟩ := kept.booked claimed
        cases found.symm.trans there
        have awaits := Call.awaits_iff.mp awaits
        obtain ⟨entering,member,enters⟩ := known.entered k old found awaits.2.1 awaits.1
        have settles : Deed.Settles ⟨caller,act,effects,next⟩ k frame :=
          ⟨arrived,claimed,old,found,by rw [does.call,made,changed]⟩
        exact ⟨_,past,List.suffix_refl _,settles,(kept.holder _ _ claimed).1,entering,member,enters⟩
    · exact (known.came j call found frame came).later
  case homemade =>
    refine does.each ?_ known.homemade
    intro call made fault counter leaving text
    rcases turn.leaving made leaving with ⟨old,found,was⟩ | rfl | ⟨n,millis,rfl⟩
    · exact known.homemade k old found fault counter was text
    · rintro rfl
      cases natural
    · simp
  case sent =>
    intro now member frame sent
    rcases List.mem_cons.mp member with rfl | member
    · obtain ⟨call,found,rfl,place⟩ := turn.sent sent
      refine ⟨k,kept.named k call found,used,fun after there numbered => ?_⟩
      have was := turn.numbered (does.call.symm.trans there) numbered call found
      cases place.symm.trans was
    · obtain ⟨j,number,lower,past⟩ := known.sent now member frame sent
      refine ⟨j,number,Nat.lt_of_lt_of_le lower grown,fun call there numbered => ?_⟩
      obtain ⟨old,found,was⟩ := does.numbered lower there numbered
      exact past old found was

theorem Known.hushed (known : Known past caller) (hush : Call → Call) (numbers : next.nextCall = caller.nextCall)
    (calls : ∀ k, next.calls.find? k = (caller.calls.find? k).map hush)
    (hushed : ∀ call, (hush call).frame = call.frame ∧ (hush call).place = call.place ∧
      ((hush call).inbox = call.inbox ∨ (hush call).inbox = .severed)) :
    Known (⟨caller,act,[],next⟩ :: past) next := by
  have back (k : Nat) (call : Call) (found : next.calls.find? k = some call) :
      ∃ old, caller.calls.find? k = some old ∧ call = hush old := by
    obtain ⟨old,there,same⟩ := Option.map_eq_some_iff.mp (calls k ▸ found)
    exact ⟨old,there,same.symm⟩
  have old {now : Deed} {effect : Effect} (member : now ∈ ⟨caller,act,[],next⟩ :: past) (made : effect ∈ now.effects) :
      now ∈ past := by
    rcases List.mem_cons.mp member with rfl | member
    · cases made
    · exact member
  constructor
  case gone =>
    intro now member k result done
    obtain ⟨none,lower⟩ := known.gone now (old member done) k result done
    exact ⟨by simp [calls k,none],numbers ▸ lower⟩
  case entered =>
    intro k call found moved wants
    obtain ⟨before,there,rfl⟩ := back k call found
    obtain ⟨frame,place,_⟩ := hushed before
    obtain ⟨entering,member,enters⟩ := known.entered k before there (place ▸ moved) (frame ▸ wants)
    exact ⟨entering,List.mem_cons_of_mem _ member,enters⟩
  case came =>
    intro k call found frame came
    obtain ⟨before,there,rfl⟩ := back k call found
    rcases (hushed before).2.2 with same | severed
    · exact (known.came k before there frame (same ▸ came)).later
    · cases severed.symm.trans came
  case homemade =>
    intro k call found fault counter leaving
    obtain ⟨before,there,rfl⟩ := back k call found
    exact known.homemade k before there fault counter ((hushed before).2.1 ▸ leaving)
  case sent =>
    intro now member frame sent
    obtain ⟨k,number,lower,past⟩ := known.sent now (old member sent) frame sent
    refine ⟨k,number,numbers ▸ lower,fun call found => ?_⟩
    obtain ⟨before,there,rfl⟩ := back k call found
    exact (hushed before).2.1 ▸ past before there

theorem Traffic.known (traffic : Traffic past caller) (few : caller.nextCall < 2 ^ 64) : Known past caller := by
  induction traffic with
  | start begins =>
      obtain ⟨metrics,rfl⟩ := begins
      constructor <;> simp [Table.find?]
  | step traffic natural ran ih =>
      have fewer := Nat.lt_of_le_of_lt (step_grown ran) few
      have kept := Traffic.kept traffic fewer
      have known := ih fewer
      cases step_did kept ran with
      | own does => exact known.does kept does (does.kept kept few) natural
      | stray => exact known.hushed id rfl (by simp [count]) (by simp)
      | sever =>
          refine known.hushed _ rfl kept.sever_find? fun call => ?_
          split <;> simp

theorem outside_dooms : Dooms Call.outside (· = .reset) := by
  intro caller act k call effects after table closed outside turn
  have ⟨place,wants⟩ : call.place = .numbered ∧ call.frame.isOneWay = false := by simpa [Call.outside] using outside
  cases turn with
  | refuse => exact .inl ⟨_,rfl,rfl,rfl⟩
  | announce _ oneWay => cases oneWay.symm.trans wants
  | register _ _ live | deliver live => cases live.symm.trans closed
  | post there | send there | misplace there | fail there | expire there | leave there | answered there
  | rejected there | cut there => cases there.symm.trans place

theorem severed_dooms : Dooms Call.severed fun _ => True := by
  intro caller act k call effects after table closed severed turn
  have ⟨⟨moved,wants⟩,inbox⟩ : (call.place ≠ .numbered ∧ call.frame.isOneWay = false) ∧ call.inbox = .severed := by
    simpa [Call.severed] using severed
  cases turn with
  | send | fail => exact .inr ⟨⟨_,rfl,by simp [Call.severed,wants,inbox]⟩,by simp⟩
  | leave | cut => exact .inl ⟨_,trivial,rfl,rfl⟩
  | announce place | refuse place | register place => exact absurd place moved
  | post _ oneWay | misplace _ oneWay => cases oneWay.symm.trans wants
  | expire _ came | answered _ came | rejected _ came => cases came.symm.trans inbox
  | deliver live => cases live.symm.trans closed

theorem Dooms.does {p : Call → Bool} {fails : LinkFault → Prop} (dooms : Dooms p fails)
    (closed : caller.closed = true) (lower : k < caller.nextCall)
    (still : ∀ call, caller.calls.find? k = some call → p call = true) (does : caller.Does act j effects after next) :
    (∀ call, next.calls.find? k = some call → p call = true) ∧
    (next.calls.find? k = none → caller.calls.find? k = none ∨ ∃ result, .done k result ∈ effects) ∧
    ∀ result, .done k result ∈ effects → ∃ fault, fails fault ∧ result = .error fault := by
  by_cases same : k = j
  · subst same
    rw [does.call]
    cases found : caller.calls.find? k with
    | none =>
        have none := does.call.symm.trans (does.old lower found)
        refine ⟨by simp [none],fun _ => .inl rfl,fun result done => ?_⟩
        obtain ⟨_,_,_,there,_⟩ := does.turn.done done
        cases found.symm.trans there
    | some call =>
        rcases dooms closed (still call found) (found ▸ does.turn) with
          ⟨fault,fits,rfl,rfl⟩ | ⟨⟨other,rfl,stays⟩,quiet⟩
        · refine ⟨by simp,fun _ => .inr ⟨.error fault,by simp⟩,fun result done => ?_⟩
          cases List.mem_singleton.mp done
          exact ⟨fault,fits,rfl⟩
        · exact ⟨by simpa using stays,by simp,fun result done => absurd done (quiet result)⟩
  · rw [does.calls k same]
    exact ⟨still,.inl,fun result done => absurd (does.turn.done done).1 same⟩

theorem Lost.step {p : Call → Bool} {fails : LinkFault → Prop} (lost : Lost past caller k p fails)
    (dooms : Dooms p fails) (did : caller.Did act effects next) (kept : caller.Kept) :
    Lost (⟨caller,act,effects,next⟩ :: past) next k p fails := by
  obtain ⟨closed,lower,still,gone,only⟩ := lost
  cases did with
  | stray live | sever live => cases live.symm.trans closed
  | own does =>
      obtain ⟨stays,goes,ends⟩ := dooms.does closed lower still does
      refine ⟨does.closed.trans closed,Nat.lt_of_lt_of_le lower (does.used kept).2.1,stays,fun none => ?_,?_⟩
      · rcases goes none with before | now
        · obtain ⟨now,member,done⟩ := gone before
          exact ⟨now,List.mem_cons_of_mem _ member,done⟩
        · exact ⟨_,List.mem_cons_self,now⟩
      · rintro now member result done
        rcases List.mem_cons.mp member with rfl | member
        · exact ends result done
        · exact only now member result done

theorem Traffic.lost {p : Call → Bool} {fails : LinkFault → Prop} (traffic : Traffic past caller)
    (few : caller.nextCall < 2 ^ 64) (dooms : Dooms p fails) (member : now ∈ past)
    (closed : now.after.closed = true) (found : now.after.calls.find? k = some call) (holds : p call = true) :
    Lost past caller k p fails := by
  induction traffic with
  | start => cases member
  | step traffic natural ran ih =>
      have fewer := Nat.lt_of_le_of_lt (step_grown ran) few
      rcases List.mem_cons.mp member with rfl | member
      · have traffic : Traffic _ _ := traffic.step natural ran
        have known := traffic.known few
        refine ⟨closed,(traffic.kept few).below k call found,?_,fun none => ?_,fun now member result done => ?_⟩
        · intro other there
          cases found.symm.trans there
          exact holds
        · cases found.symm.trans none
        · cases found.symm.trans (known.gone now member k result done).1
      · exact (ih fewer member).step dooms (step_did (Traffic.kept traffic fewer) ran) (Traffic.kept traffic fewer)

theorem advance_outside (closed : caller.closed = true) (found : caller.calls.find? k = some call)
    (outside : call.outside = true) (outcome : Except LinkFault Unit) :
    (caller.advance k outcome).2 = [.done k (.error .reset)] := by
  have ⟨place,wants⟩ : call.place = .numbered ∧ call.frame.isOneWay = false := by simpa [Call.outside] using outside
  simp [advance,advance.go,found,acts,place,step,enter,wants,closed,finishWith]

theorem advance_severed (found : caller.calls.find? k = some call) (severed : call.severed = true)
    (outcome : Except LinkFault Unit) : ∃ fault, .done k (.error fault) ∈ (caller.advance k outcome).2 := by
  have ⟨⟨moved,wants⟩,came⟩ : (call.place ≠ .numbered ∧ call.frame.isOneWay = false) ∧ call.inbox = .severed := by
    simpa [Call.severed] using severed
  cases place : call.place with
  | numbered => exact absurd place moved
  | entered =>
      rcases outcome with fault | ⟨⟨⟩⟩ <;>
        simp [advance,advance.go,found,acts,place,step,write,wants,finishWith,put,count,came,finish]
  | sent => simp [advance,advance.go,found,acts,place,step,finish,came,finishWith,count]
  | leaving fault counter => simp [advance,advance.go,found,acts,place,step,finishWith,count]

theorem Lost.fails {p : Call → Bool} {fails : LinkFault → Prop} (lost : Lost past caller k p fails)
    (soon : ∀ call, caller.calls.find? k = some call → p call = true →
      ∀ outcome, ∃ fault, fails fault ∧ .done k (.error fault) ∈ (caller.advance k outcome).2) :
    Fails past caller k fails := by
  refine ⟨lost.only,?_⟩
  cases found : caller.calls.find? k with
  | none => exact .inl (lost.gone found)
  | some call => exact .inr (soon call found (lost.still call found))

theorem Traffic.unsent (traffic : Traffic past caller) (few : caller.nextCall < 2 ^ 64) (member : now ∈ past)
    (closed : now.after.closed = true) (found : now.after.calls.find? k = some call) (outside : call.outside = true) :
    ∀ other ∈ past, ∀ frame, .send frame ∈ other.effects → frame.request ≠ number k := by
  have place {call : Call} (outside : call.outside = true) : call.place = .numbered := by
    have both : call.place = .numbered ∧ call.frame.isOneWay = false := by simpa [Call.outside] using outside
    exact both.1
  induction traffic with
  | start => cases member
  | @step past caller next effects act traffic natural ran ih =>
      have fewer := Nat.lt_of_le_of_lt (step_grown ran) few
      have all : Traffic _ _ := traffic.step natural ran
      intro other sender frame sent same
      rcases List.mem_cons.mp member with rfl | member
      · obtain ⟨j,number,lower,past⟩ := (all.known few).sent other sender frame sent
        have below := (all.kept few).below k call found
        obtain rfl := number_inj (Nat.lt_trans lower few) (Nat.lt_trans below few) (number.symm.trans same)
        exact past call found (place outside)
      · rcases List.mem_cons.mp sender with rfl | sender
        · have kept := Traffic.kept traffic fewer
          have lost := Traffic.lost traffic fewer outside_dooms member closed found outside
          cases step_did kept ran with
          | stray | sever => cases sent
          | @own _ j _ _ _ does =>
              obtain ⟨writer,there,rfl,entered⟩ := does.turn.sent sent
              have below := kept.below j writer there
              have number := (kept.named j writer there).symm.trans same
              obtain rfl := number_inj (Nat.lt_trans below fewer) (Nat.lt_trans lost.lower fewer) number
              cases entered.symm.trans (place (lost.still writer there))
        · exact ih fewer member other sender frame sent same

theorem Traffic.grown (traffic : Traffic past caller) (member : now ∈ past) :
    now.after.nextCall ≤ caller.nextCall := by
  induction traffic with
  | start => cases member
  | step _ _ ran ih =>
      rcases List.mem_cons.mp member with rfl | member
      · exact Nat.le_refl _
      · exact Nat.le_trans (ih member) (step_grown ran)

theorem Traffic.did (traffic : Traffic past caller) (few : caller.nextCall < 2 ^ 64) (suffix : now :: earlier <:+ past) :
    Known earlier now.before ∧ now.before.Kept ∧ now.after.Kept ∧ now.act.natural = true ∧
      now.before.Did now.act now.effects now.after := by
  obtain ⟨before,natural,ran⟩ := traffic.of_suffix suffix
  have few := Nat.lt_of_le_of_lt (traffic.grown (suffix.subset List.mem_cons_self)) few
  have fewer := Nat.lt_of_le_of_lt (step_grown ran) few
  have kept := Traffic.kept before fewer
  exact ⟨Traffic.known before fewer,kept,Traffic.kept (before.step natural ran) few,natural,step_did kept ran⟩

theorem Traffic.result (traffic : Traffic past caller) (few : caller.nextCall < 2 ^ 64)
    (suffix : now :: earlier <:+ past) {result : Result} (done : .done k result ∈ now.effects) :
    (∀ frame, result = .ok (some frame) → Answered earlier k frame ∧ frame.isError = false) ∧
    ∀ text, result = .error (.remote text) →
      ∃ frame, Answered earlier k frame ∧ frame.isError = true ∧ text = Utf8.forgive frame.payload := by
  obtain ⟨known,_,_,natural,did⟩ := traffic.did few suffix
  rcases now with ⟨before,act,effects,after⟩
  dsimp only at did done natural
  cases did with
  | stray | sever => cases done
  | own does =>
      obtain ⟨rfl,_,call,found,ground⟩ := does.turn.done done
      cases ground with
      | answered came good =>
          refine ⟨fun frame same => ?_,by simp⟩
          cases same
          exact ⟨known.came k call found _ came,good⟩
      | rejected came bad =>
          refine ⟨by simp,fun text same => ?_⟩
          cases same
          exact ⟨_,known.came k call found _ came,bad,rfl⟩
      | left place =>
          refine ⟨by simp,fun text same => ?_⟩
          cases same
          exact absurd rfl (known.homemade k call found _ _ place text)
      | misplaced =>
          refine ⟨by simp,fun text same => ?_⟩
          cases same
          cases natural
      | posted | cut | refused => simp

theorem Traffic.settles (traffic : Traffic past caller) (few : caller.nextCall < 2 ^ 64) (member : now ∈ past)
    {frame : Frame} (arrived : now.act = .arrive frame) :
    (∀ k, now.after.calls.find? k = now.before.calls.find? k) ∨
      ∃ k, now.Settles k frame ∧ ∀ j, j ≠ k → now.after.calls.find? j = now.before.calls.find? j := by
  obtain ⟨later,earlier,rfl⟩ := List.append_of_mem member
  obtain ⟨_,_,_,_,did⟩ := traffic.did few (List.suffix_append _ _)
  rcases now with ⟨before,act,effects,after⟩
  dsimp only at did arrived
  subst arrived
  cases did with
  | stray => exact .inl fun _ => rfl
  | @own _ k _ _ _ does =>
      obtain ⟨call,found,claimed,changed⟩ := does.turn.delivered
      exact .inr ⟨k,⟨rfl,claimed,call,found,does.call.trans changed⟩,does.calls⟩

theorem Traffic.begins (traffic : Traffic past caller) (few : caller.nextCall < 2 ^ 64) (member : now ∈ past)
    {opcode : Opcode} {payload : Bytes} {limit : Option UInt64} (begun : now.act = .begin opcode payload limit) :
    now.after.closed = now.before.closed ∧
      ∃ call, now.after.calls.find? now.before.nextCall = some call ∧ call.outside = true := by
  obtain ⟨later,earlier,rfl⟩ := List.append_of_mem member
  obtain ⟨_,_,_,_,did⟩ := traffic.did few (List.suffix_append _ _)
  rcases now with ⟨before,act,effects,after⟩
  dsimp only at did begun ⊢
  subst begun
  cases did with
  | @own _ k _ _ _ does =>
      obtain ⟨new,call,made,outside⟩ := does.turn.begun
      rcases does.numbers with ⟨_,_,there⟩ | ⟨rfl,_⟩
      · exact absurd new there
      · exact ⟨does.closed,call,does.call.trans made,outside⟩

theorem Traffic.cut (traffic : Traffic past caller) (few : caller.nextCall < 2 ^ 64) (member : now ∈ past)
    (severed : now.act = .sever) : now.after.closed = true ∧
      ∀ n k, now.before.waiting.find? n = some k →
        ∃ call, now.after.calls.find? k = some call ∧ call.severed = true := by
  obtain ⟨later,earlier,rfl⟩ := List.append_of_mem member
  obtain ⟨_,kept,_,_,did⟩ := traffic.did few (List.suffix_append _ _)
  rcases now with ⟨before,act,effects,after⟩
  dsimp only at did severed kept ⊢
  subst severed
  cases did with
  | own does => cases does.turn
  | sever live =>
      refine ⟨rfl,fun n k waits => ?_⟩
      obtain ⟨call,found,_,awaits⟩ := kept.booked waits
      have ⟨wants,moved,_⟩ := Call.awaits_iff.mp awaits
      refine ⟨{ call with inbox := .severed },?_,by simp [Call.severed,wants,moved]⟩
      rw [kept.sever_find?,found]
      simp [awaits]

theorem Traffic.closed (traffic : Traffic past caller) (few : caller.nextCall < 2 ^ 64) (member : now ∈ past)
    (shut : now.after.closed = true) : caller.closed = true := by
  induction traffic with
  | start => cases member
  | step traffic natural ran ih =>
      have fewer := Nat.lt_of_le_of_lt (step_grown ran) few
      rcases List.mem_cons.mp member with rfl | member
      · exact shut
      · have closed := ih fewer member
        cases step_did (Traffic.kept traffic fewer) ran with
        | own does => exact does.closed.trans closed
        | stray => exact closed
        | sever => rfl

instance (past : List Deed) (caller : Caller) (act : Act) : Decidable (linked.allows past caller act) :=
  inferInstanceAs (Decidable (act.natural = true))

-- Frames that come in go to the calls whose numbers they carry, in time or not
-- at all, and when the connection fails those that wait and those that come
-- later all hear of it.
theorem Traffic.matched (traffic : Traffic past caller) (few : caller.nextCall < 2 ^ 64) : Matched past caller := by
  have known := traffic.known few
  have kept := traffic.kept few
  have at_ {now : Deed} (member : now ∈ past) : ∃ earlier, now :: earlier <:+ past := by
    obtain ⟨later,earlier,rfl⟩ := List.append_of_mem member
    exact ⟨earlier,List.suffix_append _ _⟩
  constructor
  case numbered =>
    intro now member
    obtain ⟨earlier,suffix⟩ := at_ member
    exact (traffic.did few suffix).2.2.1.named
  case distinct => exact fun j k left right => number_inj (Nat.lt_trans left few) (Nat.lt_trans right few)
  case answered => exact fun now earlier suffix k frame done => (traffic.result few suffix done).1 frame rfl
  case rejected => exact fun now earlier suffix k text done => (traffic.result few suffix done).2 text rfl
  case settled => exact fun now member frame arrived => traffic.settles few member arrived
  case returned =>
    intro now member k result done
    obtain ⟨gone,lower⟩ := known.gone now member k result done
    simp [kept.place k lower,gone]
  case severed =>
    intro now member severed
    obtain ⟨shut,gone⟩ := traffic.cut few member severed
    have closed := traffic.closed few member shut
    refine ⟨closed,kept.shut closed,fun n k waits => ?_⟩
    obtain ⟨call,found,severed⟩ := gone n k waits
    have lost := traffic.lost few severed_dooms member shut found severed
    refine lost.fails fun call found severed outcome => ?_
    obtain ⟨fault,done⟩ := advance_severed found severed outcome
    exact ⟨fault,trivial,done⟩
  case refused =>
    intro now member closed k call found outside
    have lost := traffic.lost few outside_dooms member closed found outside
    refine ⟨lost.fails fun call found outside outcome => ⟨.reset,rfl,?_⟩,traffic.unsent few member closed found outside⟩
    simp [advance_outside lost.closed found outside outcome]
  case begun =>
    intro now member opcode payload limit begun
    exact traffic.begins few member begun

def reply (request : UInt64) (flags : Flags) : Frame :=
  ⟨{ flags, opcode := .stat, request, length := 0, checksum := 0 },[]⟩

-- Frames that nobody waits for, twice the same answer, a refusal, one that
-- comes too late, a failure while two calls are under way, and a call after it.
def storm : List Act :=
  [.begin .stat [] (some 5),.begin .stat [] none,.begin .acquire [] none,.enter 0,.enter 1,.enter 2,
    .write 0 (.ok ()),.write 1 (.ok ()),.write 2 (.ok ()),.arrive (reply 9 .response),.arrive (reply 2 .response),
    .arrive (reply 2 .response),.finish 1,.expire 0,.leave 0,.arrive (reply 1 .response),.begin .stat [] none,
    .enter 3,.write 3 (.ok ()),.arrive (reply 4 (Flags.response.union .error)),.finish 3,.begin .release [] none,
    .enter 4,.sever,.write 4 (.error (.io .networkDown)),.leave 4,.finish 2,.begin .stat [] none,.enter 5]

def stormed : List Deed × Caller := linked.follow [] {} storm

theorem matched_stormed :
    (stormed.2.nextCall < 2 ^ 64 ∧ stormed.1.flatMap (fun now => now.effects.filterMap Effect.result?) =
      [.error .reset,.error .reset,.error (.io .networkDown),.error (.remote ""),.error (.replyTimeout 1 5),
        .ok (some (reply 2 .response))]) ∧
    Matched stormed.1 stormed.2 := by
  have few : stormed.2.nextCall < 2 ^ 64 := by decide
  have traffic : Traffic stormed.1 stormed.2 := linked.follow_runs (.start ⟨{},rfl⟩) storm
  exact ⟨⟨few,rfl⟩,traffic.matched few⟩

end LockLender.Caller
