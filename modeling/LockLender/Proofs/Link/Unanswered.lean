import Mathlib.Data.Finset.Card
import LockLender.Proofs.Link.Traffic

namespace LockLender.Caller

-- The request numbers of those that enter, are written, are answered and time out.
-- From its entry on a call may be writing, and be answered.
def Deed.asks (now : Deed) : List UInt64 :=
  match now.act with
  | .enter k => [number k]
  | _ => []

def Deed.sends (now : Deed) : List UInt64 := now.effects.filterMap fun effect => effect.sent?.map (·.request)

def Deed.answers (now : Deed) : List UInt64 :=
  match now.act with
  | .arrive frame => [frame.request]
  | _ => []

def Effect.expired? : Effect → Option UInt64
  | .done _ (.error (.replyTimeout request _)) => some request
  | _ => none

def Deed.expires (now : Deed) : List UInt64 := now.effects.filterMap Effect.expired?

def asked (past : List Deed) : List UInt64 := past.flatMap Deed.asks
def written (past : List Deed) : List UInt64 := past.flatMap Deed.sends
def answered (past : List Deed) : List UInt64 := past.flatMap Deed.answers
def timedOut (past : List Deed) : List UInt64 := past.flatMap Deed.expires

-- Every call wants an answer, every write succeeds, the connection does not fail,
-- and what comes in answers a request that has not been answered yet.
def Allowed (past : List Deed) : Act → Prop
  | .beginOneWay .. | .sever | .write _ (.error _) => False
  | .arrive frame => frame.request ∈ asked past ∧ frame.request ∉ answered past
  | _ => True

instance (past : List Deed) : (act : Act) → Decidable (Allowed past act)
  | .beginOneWay .. | .sever | .write _ (.error _) => .isFalse id
  | .arrive _ => inferInstanceAs (Decidable (_ ∧ _))
  | .begin .. | .enter _ | .write _ (.ok _) | .expire _ | .leave _ | .finish _ => .isTrue trivial

abbrev plainly : Machine Caller Act (List Effect) where
  begins caller := caller = {} ∨ caller = opened
  allows past _ act := Allowed past act
  step := step

abbrev Plain : List Deed → Caller → Prop := plainly.Runs

def Paused (caller : Caller) : Prop :=
  ∀ k, caller.step (.enter k) = none ∧ (∀ outcome, caller.step (.write k outcome) = none) ∧
    caller.step (.leave k) = none ∧ caller.step (.finish k) = none

-- Sent, not answered and not timed out; and both timed out and answered.
def inFlight (past : List Deed) : Nat :=
  ((written past).toFinset \ ((answered past).toFinset ∪ (timedOut past).toFinset)).card

def late (past : List Deed) : Nat := ((timedOut past).toFinset ∩ (answered past).toFinset).card

def Stands (past : List Deed) (n : UInt64) : Option Call → Prop
  | none => n ∈ asked past ∧ n ∈ written past
  | some call =>
    match call.place with
    | .numbered => n ∉ asked past ∧ n ∉ written past ∧ n ∉ timedOut past
    | .entered => n ∈ asked past ∧ n ∉ written past ∧ n ∉ timedOut past
    | .sent => n ∈ asked past ∧ n ∈ written past ∧ n ∉ timedOut past
    | .leaving fault counter => (n ∈ asked past ∧ n ∈ written past ∧ n ∉ timedOut past) ∧
      counter = .timeouts ∧ ∃ millis, fault = .replyTimeout n millis

structure Tally (past : List Deed) (caller : Caller) : Prop where
  live : caller.closed = false
  wants : ∀ k call, caller.calls.find? k = some call → call.frame.isOneWay = false
  stands : ∀ k < caller.nextCall, Stands past (number k) (caller.calls.find? k)
  given : ∀ n, n ∈ asked past ∨ n ∈ written past ∨ n ∈ timedOut past → ∃ k < caller.nextCall, n = number k
  once : (asked past).Nodup ∧ (written past).Nodup ∧ (answered past).Nodup ∧ (timedOut past).Nodup
  meant : ∀ n ∈ answered past, n ∈ asked past
  requests : caller.metrics.requestsSent = (asked past).length
  responses : caller.metrics.responsesReceived = (answered past).length
  timeouts : caller.metrics.timeouts = (timedOut past).length

variable {past : List Deed} {caller next : Caller} {act : Act} {k : Nat} {effects : List Effect} {call : Call}
  {before after : Option Call} {table : Table UInt64 Nat} {n m : UInt64}

def Adds (more old : List UInt64) (n : UInt64) : Prop := more = [] ∨ more = [n] ∧ n ∉ old

theorem Adds.nodup {more old : List UInt64} (adds : Adds more old n) (once : old.Nodup) : (more ++ old).Nodup := by
  rcases adds with rfl | ⟨rfl,new⟩
  · exact once
  · exact List.nodup_cons.mpr ⟨new,once⟩

theorem Adds.mem {more old : List UInt64} (adds : Adds more old n) (member : m ∈ more ++ old) :
    m = n ∨ m ∈ old := by
  rcases adds with rfl | ⟨rfl,new⟩
  · exact .inr member
  · exact List.mem_cons.mp member

theorem Adds.others {more old : List UInt64} (adds : Adds more old n) (differ : m ≠ n) :
    m ∈ more ++ old ↔ m ∈ old :=
  ⟨fun member => (adds.mem member).resolve_left differ,List.mem_append_right _⟩

theorem Stands.congr {past later : List Deed} (asks : n ∈ asked later ↔ n ∈ asked past)
    (sends : n ∈ written later ↔ n ∈ written past) (expires : n ∈ timedOut later ↔ n ∈ timedOut past)
    (stands : Stands past n after) : Stands later n after := by
  unfold Stands at stands ⊢
  simpa only [asks,sends,expires] using stands

structure Told (past : List Deed) (now : Deed) (k : Nat) (after : Option Call) : Prop where
  stands : Stands (now :: past) (number k) after
  asks : Adds now.asks (asked past) (number k)
  sends : Adds now.sends (written past) (number k)
  expires : Adds now.expires (timedOut past) (number k)

theorem turn_told (next : Caller) (turn : Turn caller k act before effects after table) (live : caller.closed = false)
    (allowed : Allowed past act) (named : ∀ call, before = some call → call.frame.request = number k)
    (wants : ∀ call, before = some call → call.frame.isOneWay = false)
    (old : before ≠ none → Stands past (number k) before)
    (new : before = none → number k ∉ asked past ∧ number k ∉ written past ∧ number k ∉ timedOut past) :
    Told past ⟨caller,act,effects,next⟩ k after := by
  cases turn with
  | begin =>
      obtain ⟨unasked,unsent,pending⟩ := new rfl
      exact ⟨⟨unasked,unsent,pending⟩,.inl rfl,.inl rfl,.inl rfl⟩
  | register place =>
      have stands := old (by simp)
      simp only [Stands,place] at stands
      obtain ⟨unasked,unsent,pending⟩ := stands
      exact ⟨⟨List.mem_cons_self,unsent,pending⟩,.inr ⟨rfl,unasked⟩,.inl rfl,.inl rfl⟩
  | send place =>
      have stands := old (by simp)
      simp only [Stands,place] at stands
      obtain ⟨asks,unsent,pending⟩ := stands
      have number := named _ rfl
      refine ⟨⟨asks,?_,pending⟩,.inl rfl,.inr ⟨?_,unsent⟩,.inl rfl⟩
      · exact number ▸ List.mem_cons_self
      · exact congrArg (fun n => [n]) number
  | expire place empty limit =>
      have stands := old (by simp)
      simp only [Stands,place] at stands
      exact ⟨⟨stands,rfl,_,congrArg (LinkFault.replyTimeout · _) (named _ rfl)⟩,.inl rfl,.inl rfl,.inl rfl⟩
  | leave place =>
      have stands := old (by simp)
      simp only [Stands,place] at stands
      obtain ⟨⟨asks,sends,pending⟩,-,millis,rfl⟩ := stands
      exact ⟨⟨asks,sends⟩,.inl rfl,.inl rfl,.inr ⟨rfl,pending⟩⟩
  | answered place | rejected place | cut place =>
      have stands := old (by simp)
      simp only [Stands,place] at stands
      exact ⟨⟨stands.1,stands.2.1⟩,.inl rfl,.inl rfl,.inl rfl⟩
  | deliver => exact ⟨old (by simp),.inl rfl,.inl rfl,.inl rfl⟩
  | beginOneWay => exact allowed.elim
  | announce _ oneWay | post _ oneWay | misplace _ oneWay => cases oneWay.symm.trans (wants _ rfl)
  | refuse _ _ shut => cases shut.symm.trans live
  | fail => exact allowed.elim

theorem turn_wants (turn : Turn caller k act before effects after table) (allowed : Allowed past act)
    (wants : ∀ call, before = some call → call.frame.isOneWay = false) :
    ∀ call, after = some call → call.frame.isOneWay = false := by
  rintro call made
  cases turn with
  | begin _ wanted =>
      cases made
      exact wanted
  | announce | register | send | fail | expire | deliver =>
      cases made
      have wanted := wants _ rfl
      exact wanted
  | beginOneWay => exact allowed.elim
  | refuse | post | misplace | leave | answered | rejected | cut => cases made

theorem Tally.answers (tally : Tally past caller) (now : Deed) (allowed : Allowed past now.act) :
    (answered (now :: past)).Nodup ∧ ∀ n ∈ answered (now :: past), n ∈ asked past := by
  have kept := And.intro tally.once.2.2.1 tally.meant
  obtain ⟨before,act,effects,after⟩ := now
  cases act with
  | arrive frame =>
      refine ⟨List.nodup_cons.mpr ⟨allowed.2,kept.1⟩,fun n member => ?_⟩
      rcases List.mem_cons.mp member with rfl | member
      · exact allowed.1
      · exact kept.2 n member
  | _ => exact kept

theorem arrive_metrics (caller : Caller) (frame : Frame) :
    (caller.arrive frame).metrics = caller.metrics.record .responsesReceived := by
  simp only [arrive]
  split
  · rfl
  · split <;> rfl

theorem Tally.counts (tally : Tally past caller) (kept : caller.Kept) (allowed : Allowed past act)
    (ran : caller.step act = some (next,effects)) :
    next.metrics.requestsSent = (asked (⟨caller,act,effects,next⟩ :: past)).length ∧
      next.metrics.responsesReceived = (answered (⟨caller,act,effects,next⟩ :: past)).length ∧
      next.metrics.timeouts = (timedOut (⟨caller,act,effects,next⟩ :: past)).length := by
  have same : caller.metrics.requestsSent = (asked past).length ∧
      caller.metrics.responsesReceived = (answered past).length ∧
      caller.metrics.timeouts = (timedOut past).length := ⟨tally.requests,tally.responses,tally.timeouts⟩
  cases act with
  | begin =>
      cases ran
      exact same
  | beginOneWay | sever => exact allowed.elim
  | enter k =>
      obtain ⟨call,found,ran⟩ := Option.bind_eq_some_iff.mp ran
      split at ran
      · simp only [enter,tally.wants k call found,tally.live,Bool.false_eq_true,if_false] at ran
        cases ran
        exact ⟨congrArg Nat.succ same.1,same.2⟩
      · cases ran
  | write k outcome =>
      obtain ⟨call,found,ran⟩ := Option.bind_eq_some_iff.mp ran
      rcases outcome with fault | ⟨⟨⟩⟩
      · exact allowed.elim
      · split at ran
        · simp only [write,tally.wants k call found,Bool.false_eq_true,if_false] at ran
          cases ran
          exact same
        · cases ran
  | expire k =>
      obtain ⟨call,found,ran⟩ := Option.bind_eq_some_iff.mp ran
      obtain ⟨millis,limit,ran⟩ := Option.bind_eq_some_iff.mp ran
      split at ran
      · cases ran
        exact same
      · cases ran
  | leave k =>
      obtain ⟨call,found,ran⟩ := Option.bind_eq_some_iff.mp ran
      split at ran
      · rename_i fault counter place
        have stands := tally.stands k (kept.below k call found)
        simp only [Stands,found,place] at stands
        obtain ⟨-,rfl,millis,rfl⟩ := stands
        cases ran
        exact ⟨same.1,same.2.1,congrArg Nat.succ same.2.2⟩
      · cases ran
  | finish k =>
      obtain ⟨call,found,ran⟩ := Option.bind_eq_some_iff.mp ran
      split at ran
      · cases came : call.inbox with
        | empty =>
            rw [came] at ran
            cases ran
        | severed =>
            rw [came] at ran
            cases ran
            exact same
        | frame frame =>
            rw [came] at ran
            simp only [finish] at ran
            split at ran
            · cases ran
              exact same
            · cases ran
              exact same
      · cases ran
  | arrive frame =>
      simp only [step,tally.live,Bool.false_eq_true,if_false] at ran
      cases ran
      rw [arrive_metrics]
      exact ⟨same.1,congrArg Nat.succ same.2.1,same.2.2⟩

theorem Tally.step (tally : Tally past caller) (kept : caller.Kept) (few : next.nextCall < 2 ^ 64)
    (allowed : Allowed past act) (ran : caller.step act = some (next,effects)) :
    Tally (⟨caller,act,effects,next⟩ :: past) next := by
  obtain ⟨requests,responses,timeouts⟩ := tally.counts kept allowed ran
  obtain ⟨once,meant⟩ := tally.answers ⟨caller,act,effects,next⟩ allowed
  cases step_did kept ran with
  | sever => exact allowed.elim
  | stray => exact { tally with
      once := ⟨tally.once.1,tally.once.2.1,once,tally.once.2.2.2⟩
      meant, requests, responses, timeouts }
  | @own _ k _ after _ does =>
      obtain ⟨used,grown,least,other⟩ := does.used kept
      have old : caller.calls.find? k ≠ none → Stands past (number k) (caller.calls.find? k) := by
        intro there
        obtain ⟨call,found⟩ := Option.ne_none_iff_exists'.mp there
        exact tally.stands k (kept.below k call found)
      have new : caller.calls.find? k = none →
          number k ∉ asked past ∧ number k ∉ written past ∧ number k ∉ timedOut past := by
        intro none
        have fresh : k = caller.nextCall := by
          rcases does.numbers with ⟨_,_,there⟩ | ⟨new,_⟩
          · exact absurd none there
          · exact new
        have unused : ¬ ∃ j < caller.nextCall, number k = number j := by
          rintro ⟨j,lower,same⟩
          have same := number_inj (by omega) (by omega) same
          omega
        exact ⟨fun member => unused (tally.given _ (.inl member)),
          fun member => unused (tally.given _ (.inr (.inl member))),
          fun member => unused (tally.given _ (.inr (.inr member)))⟩
      have told := turn_told next does.turn tally.live allowed (kept.named k) (tally.wants k) old new
      exact {
        live := does.closed.trans tally.live
        wants := does.each (turn_wants does.turn allowed (tally.wants k)) tally.wants
        stands := by
          intro j lower
          by_cases same : j = k
          · subst same
            exact does.call ▸ told.stands
          · have lower := other j same lower
            have differ : number j ≠ number k := by
              intro equal
              exact same (number_inj (by omega) (by omega) equal)
            rw [does.calls j same]
            exact (tally.stands j lower).congr (told.asks.others differ) (told.sends.others differ)
              (told.expires.others differ)
        given := by
          intro n member
          have mine : n = number k ∨ n ∈ asked past ∨ n ∈ written past ∨ n ∈ timedOut past := by
            rcases member with asks | sends | expires
            · exact (told.asks.mem asks).imp_right .inl
            · exact (told.sends.mem sends).imp_right (.inr ∘ .inl)
            · exact (told.expires.mem expires).imp_right (.inr ∘ .inr)
          rcases mine with rfl | member
          · exact ⟨k,used,rfl⟩
          · obtain ⟨j,lower,same⟩ := tally.given n member
            exact ⟨j,Nat.lt_of_lt_of_le lower grown,same⟩
        once := ⟨told.asks.nodup tally.once.1,told.sends.nodup tally.once.2.1,once,
          told.expires.nodup tally.once.2.2.2⟩
        meant := fun n member => List.mem_append_right _ (meant n member)
        requests, responses, timeouts }

theorem Plain.traffic (plain : Plain past caller) : Traffic past caller := by
  induction plain with
  | start begins =>
      rcases begins with rfl | rfl
      · exact .start ⟨{},rfl⟩
      · exact .start ⟨_,rfl⟩
  | @step _ _ _ _ act _ allowed ran ih =>
      refine ih.step ?_ ran
      cases act with
      | write k outcome =>
          rcases outcome with fault | ⟨⟨⟩⟩
          · exact allowed.elim
          · rfl
      | _ => rfl

theorem Plain.tallied (plain : Plain past caller) (few : caller.nextCall < 2 ^ 64) : Tally past caller := by
  induction plain with
  | start begins =>
      rcases begins with rfl | rfl
      · constructor <;> simp [Table.find?,asked,written,answered,timedOut]
      · constructor <;> simp [Table.find?,asked,written,answered,timedOut,opened,Metrics.record]
  | step plain allowed ran ih =>
      have fewer := Nat.lt_of_le_of_lt (step_grown ran) few
      exact (ih fewer).step ((Plain.traffic plain).kept fewer) few allowed ran

theorem Paused.sent (paused : caller.Paused) (found : caller.calls.find? k = some call) : call.place = .sent := by
  obtain ⟨enters,writes,leaves,_⟩ := paused k
  cases place : call.place with
  | sent => rfl
  | numbered => simp [step,found,place] at enters
  | entered => simpa [step,found,place] using writes (.ok ())
  | leaving => simp [step,found,place] at leaves

theorem Tally.written_of_paused (tally : Tally past caller) (paused : caller.Paused) :
    n ∈ written past ↔ n ∈ asked past := by
  have both (k : Nat) (lower : k < caller.nextCall) : number k ∈ asked past ∧ number k ∈ written past := by
    have stands := tally.stands k lower
    cases found : caller.calls.find? k with
    | none =>
        rw [found] at stands
        exact stands
    | some call =>
        simp only [found,Stands,paused.sent found] at stands
        exact ⟨stands.1,stands.2.1⟩
  constructor
  · intro sends
    obtain ⟨k,lower,rfl⟩ := tally.given n (.inr (.inl sends))
    exact (both k lower).1
  · intro asks
    obtain ⟨k,lower,rfl⟩ := tally.given n (.inl asks)
    exact (both k lower).2

theorem Tally.expired (tally : Tally past caller) (member : n ∈ timedOut past) : n ∈ asked past := by
  obtain ⟨k,lower,rfl⟩ := tally.given n (.inr (.inr member))
  have stands := tally.stands k lower
  cases found : caller.calls.find? k with
  | none =>
      rw [found] at stands
      exact stands.1
  | some call =>
      rw [found] at stands
      cases place : call.place <;> simp_all [Stands]

theorem Tally.ended (tally : Tally past caller) (paused : caller.Paused) :
    inFlight past + (answered past).length + (timedOut past).length = (asked past).length + late past := by
  have ⟨askedOnce,sentOnce,answeredOnce,expiredOnce⟩ := tally.once
  have sends : (written past).toFinset = (asked past).toFinset := by
    ext n
    simp [tally.written_of_paused paused]
  have covered : (answered past).toFinset ∪ (timedOut past).toFinset ⊆ (asked past).toFinset := by
    intro n member
    rcases Finset.mem_union.mp member with answer | expired
    · exact List.mem_toFinset.mpr (tally.meant n (List.mem_toFinset.mp answer))
    · exact List.mem_toFinset.mpr (tally.expired (List.mem_toFinset.mp expired))
  have remaining := Finset.card_sdiff_add_card_eq_card covered
  have ended := Finset.card_union_add_card_inter (answered past).toFinset (timedOut past).toFinset
  rw [List.toFinset_card_of_nodup askedOnce] at remaining
  rw [List.toFinset_card_of_nodup answeredOnce,List.toFinset_card_of_nodup expiredOnce] at ended
  rw [inFlight,late,sends,Finset.inter_comm]
  omega

theorem Tally.length_le (tally : Tally past caller) {requests : List UInt64} (once : requests.Nodup)
    (known : ∀ n ∈ requests, n ∈ asked past) : requests.length ≤ caller.nextCall := by
  have among : requests ⊆ (List.range caller.nextCall).map number := by
    intro n member
    obtain ⟨k,lower,rfl⟩ := tally.given n (.inl (known n member))
    exact List.mem_map.mpr ⟨k,List.mem_range.mpr lower,rfl⟩
  simpa using (List.subperm_of_subset once among).length_le

theorem word_toNat {n m : Nat} (same : n = m) (few : m < 2 ^ 64) : (UInt64.ofNat n).toNat = m := by
  rw [same]
  exact UInt64.toNat_ofNat_of_lt' few

theorem unanswered_eq (s : Metrics.Snapshot) (ends : s.responsesReceived.toNat + s.timeouts.toNat < 2 ^ 64) :
    s.unanswered = .ok (UInt64.ofNat (s.requestsSent.toNat - (s.responsesReceived.toNat + s.timeouts.toNat))) := by
  have added : checkedAdd s.responsesReceived s.timeouts = .ok (s.responsesReceived + s.timeouts) := if_pos ends
  have total : (s.responsesReceived + s.timeouts).toNat = s.responsesReceived.toNat + s.timeouts.toNat := by
    rw [UInt64.toNat_add,Nat.mod_eq_of_lt ends]
  have sends := s.requestsSent.toNat_lt
  simp only [Metrics.Snapshot.unanswered,added]
  refine congrArg Except.ok (UInt64.toNat.inj ?_)
  rw [word_toNat rfl (by omega),← total]
  split
  · rename_i less
    rw [UInt64.lt_iff_toNat_lt] at less
    exact (Nat.sub_eq_zero_of_le (Nat.le_of_lt less)).symm
  · rename_i enough
    rw [UInt64.lt_iff_toNat_lt,Nat.not_lt] at enough
    exact UInt64.toNat_sub_of_le _ _ (UInt64.le_iff_toNat_le.mpr enough)

theorem late_eq_zero : late past = 0 ↔ ∀ n ∈ timedOut past, n ∉ answered past := by
  simp [late,Finset.ext_iff]

-- The count of the unanswered is that of the requests under way, unless one of
-- them came to be answered after it had timed out. Each such answer hides one
-- request that is under way.
theorem Plain.unanswered_unless_late (plain : Plain past caller) (paused : caller.Paused)
    (few : caller.nextCall < 2 ^ 63) :
    caller.metrics.snapshot.unanswered = .ok (UInt64.ofNat (inFlight past - late past)) ∧
    (caller.metrics.snapshot.unanswered = .ok (UInt64.ofNat (inFlight past)) ↔
      (∀ n ∈ timedOut past, n ∉ answered past) ∨ inFlight past = 0) := by
  have tally := plain.tallied (by omega)
  have ended := tally.ended paused
  have ⟨askedOnce,sentOnce,answeredOnce,expiredOnce⟩ := tally.once
  have asks := tally.length_le askedOnce fun _ member => member
  have answers := tally.length_le answeredOnce tally.meant
  have expires := tally.length_le expiredOnce fun _ => tally.expired
  have remaining : inFlight past ≤ caller.nextCall := by
    apply Nat.le_trans (Finset.card_le_card Finset.sdiff_subset)
    apply Nat.le_trans (List.toFinset_card_le _)
    exact tally.length_le sentOnce fun _ => (tally.written_of_paused paused).mp
  have requests : caller.metrics.snapshot.requestsSent.toNat = (asked past).length :=
    word_toNat tally.requests (by omega)
  have responses : caller.metrics.snapshot.responsesReceived.toNat = (answered past).length :=
    word_toNat tally.responses (by omega)
  have timeouts : caller.metrics.snapshot.timeouts.toNat = (timedOut past).length :=
    word_toNat tally.timeouts (by omega)
  have counted := unanswered_eq caller.metrics.snapshot (by omega)
  have left : (asked past).length - ((answered past).length + (timedOut past).length) = inFlight past - late past := by
    omega
  rw [requests,responses,timeouts,left] at counted
  refine ⟨counted,?_⟩
  rw [counted,← late_eq_zero]
  constructor
  · intro same
    have same := congrArg UInt64.toNat (Except.ok.inj same)
    rw [word_toNat rfl (by omega),word_toNat rfl (by omega)] at same
    omega
  · rintro (none | none) <;> simp [none]

theorem paused_of_sent (all : ∀ pair ∈ caller.calls, pair.2.place = .sent ∧ pair.2.inbox = .empty) :
    caller.Paused := by
  intro k
  cases found : caller.calls.find? k with
  | none => simp [step,found]
  | some call =>
      obtain ⟨place,empty⟩ : call.place = .sent ∧ call.inbox = .empty := all _ (Table.mem_of_find? found)
      simp [step,found,place,empty,finish]

instance (past : List Deed) (caller : Caller) (act : Act) : Decidable (plainly.allows past caller act) :=
  inferInstanceAs (Decidable (Allowed past act))

def waited : List Deed × Caller := plainly.follow [] opened
  [.begin .stat [] (some 5),.enter 0,.write 0 (.ok ()),.begin .stat [] none,.begin .acquire [] none,.enter 2,.enter 1,
    .write 2 (.ok ()),.arrive (reply 3 .response),.write 1 (.ok ()),.expire 0,.finish 2,.leave 0]

theorem waited_plain : Plain waited.1 waited.2 := plainly.follow_runs (.start (.inr rfl)) _

theorem unanswered_unless_late_waited :
    (waited.2.Paused ∧ waited.2.nextCall < 2 ^ 63 ∧ inFlight waited.1 = 1 ∧ late waited.1 = 0) ∧
    waited.2.metrics.snapshot.unanswered = .ok (UInt64.ofNat (inFlight waited.1 - late waited.1)) ∧
    (waited.2.metrics.snapshot.unanswered = .ok (UInt64.ofNat (inFlight waited.1)) ↔
      (∀ n ∈ timedOut waited.1, n ∉ answered waited.1) ∨ inFlight waited.1 = 0) := by
  have paused : waited.2.Paused := paused_of_sent (by decide)
  exact ⟨⟨paused,by decide,by decide,by decide⟩,
    waited_plain.unanswered_unless_late paused (by decide)⟩

-- Then the first is answered after all, and nothing seems to be under way.
def overdue : List Deed × Caller := plainly.follow waited.1 waited.2 [.arrive (reply 1 .response)]

theorem overdue_uncounted : Plain overdue.1 overdue.2 ∧ overdue.2.Paused ∧ inFlight overdue.1 = 1 ∧
    overdue.2.metrics.snapshot.unanswered = .ok 0 :=
  ⟨plainly.follow_runs waited_plain _,paused_of_sent (by decide),by decide,by rfl⟩

end LockLender.Caller
