import Mathlib.Algebra.Group.Nat.Defs
import LockLender.Link.Caller
import LockLender.Proofs.Table

namespace LockLender

-- What a write reports that failed: the other end hung up, or the system's own
-- word for what is wrong.
def LinkFault.ofWriting : LinkFault → Bool
  | .reset | .io _ => true
  | _ => false

namespace Caller

-- The request number of each call: they are given out in order, from one on.
def number (k : Nat) : UInt64 := UInt64.ofNat (k + 1)

def Call.awaits (call : Call) : Bool :=
  !call.frame.isOneWay && call.place != .numbered && call.inbox == .empty

def Call.outside (call : Call) : Bool := call.place == .numbered && !call.frame.isOneWay

-- The call before and after, where none stands for one that is not there yet or
-- no longer, and the table after.
inductive Turn (caller : Caller) (k : Nat) :
    Act → Option Call → List Effect → Option Call → Table UInt64 Nat → Prop where
  | begin (own : frame.request = caller.nextNumber) (wants : frame.isOneWay = false) :
      Turn caller k (.begin opcode payload limit) none [] (some { frame, limit }) caller.waiting
  | beginOneWay (own : frame.request = caller.nextNumber) (oneWay : frame.isOneWay = true) :
      Turn caller k (.beginOneWay opcode payload) none [] (some { frame }) caller.waiting
  | announce (place : call.place = .numbered) (oneWay : call.frame.isOneWay = true) :
      Turn caller k (.enter k) (some call) [] (some { call with place := .entered }) caller.waiting
  | refuse (place : call.place = .numbered) (wants : call.frame.isOneWay = false) (shut : caller.closed = true) :
      Turn caller k (.enter k) (some call) [.done k (.error .reset)] none caller.waiting
  | register (place : call.place = .numbered) (wants : call.frame.isOneWay = false)
      (live : caller.closed = false) :
      Turn caller k (.enter k) (some call) [] (some { call with place := .entered })
        (caller.waiting.put call.frame.request k)
  | post (place : call.place = .entered) (oneWay : call.frame.isOneWay = true) :
      Turn caller k (.write k (.ok ())) (some call) [.send call.frame,.done k (.ok none)] none caller.waiting
  | send (place : call.place = .entered) (wants : call.frame.isOneWay = false) :
      Turn caller k (.write k (.ok ())) (some call) [.send call.frame] (some { call with place := .sent })
        caller.waiting
  | misplace (place : call.place = .entered) (oneWay : call.frame.isOneWay = true) :
      Turn caller k (.write k (.error fault)) (some call) [.done k (.error fault)] none caller.waiting
  | fail (place : call.place = .entered) (wants : call.frame.isOneWay = false) :
      Turn caller k (.write k (.error fault)) (some call) []
        (some { call with place := .leaving fault .errors }) caller.waiting
  | expire (place : call.place = .sent) (empty : call.inbox = .empty) (limit : call.limit = some millis) :
      Turn caller k (.expire k) (some call) []
        (some { call with place := .leaving (.replyTimeout call.frame.request millis) .timeouts }) caller.waiting
  | leave (place : call.place = .leaving fault counter) :
      Turn caller k (.leave k) (some call) [.done k (.error fault)] none
        (caller.waiting.remove call.frame.request)
  | answered (place : call.place = .sent) (came : call.inbox = .frame frame) (good : frame.isError = false) :
      Turn caller k (.finish k) (some call) [.done k (.ok (some frame))] none caller.waiting
  | rejected (place : call.place = .sent) (came : call.inbox = .frame frame) (bad : frame.isError = true) :
      Turn caller k (.finish k) (some call) [.done k (.error (.remote (Utf8.forgive frame.payload)))] none
        caller.waiting
  | cut (place : call.place = .sent) (came : call.inbox = .severed) :
      Turn caller k (.finish k) (some call) [.done k (.error .reset)] none caller.waiting
  | deliver (live : caller.closed = false) (claimed : caller.waiting.find? frame.request = some k) :
      Turn caller k (.arrive frame) (some call) [] (some { call with inbox := .frame frame })
        (caller.waiting.remove frame.request)

structure Does (caller : Caller) (act : Act) (k : Nat) (effects : List Effect) (after : Option Call)
    (next : Caller) : Prop where
  turn : Turn caller k act (caller.calls.find? k) effects after next.waiting
  call : next.calls.find? k = after
  calls : ∀ j, j ≠ k → next.calls.find? j = caller.calls.find? j
  closed : next.closed = caller.closed
  numbers : next.nextCall = caller.nextCall ∧ next.nextNumber = caller.nextNumber ∧ caller.calls.find? k ≠ none ∨
    k = caller.nextCall ∧ next.nextCall = caller.nextCall + 1 ∧ next.nextNumber = caller.nextNumber + 1

inductive Did (caller : Caller) : Act → List Effect → Caller → Prop where
  | own (does : caller.Does act k effects after next) : Did caller act effects next
  -- Nobody waits for the frame.
  | stray (live : caller.closed = false) (unclaimed : caller.waiting.find? frame.request = none) :
      Did caller (.arrive frame) [] (caller.count .responsesReceived)
  | sever (live : caller.closed = false) : Did caller .sever [] caller.sever

structure Kept (caller : Caller) : Prop where
  distinct : caller.waiting.Distinct
  below : caller.calls.Below caller.nextCall
  next : caller.nextNumber = number caller.nextCall
  named : ∀ k call, caller.calls.find? k = some call → call.frame.request = number k
  fresh : ∀ k call, caller.calls.find? k = some call → call.place = .numbered → call.inbox = .empty
  holder : ∀ n k, caller.waiting.find? n = some k → n = number k ∧ k < caller.nextCall
  -- A call that awaits its answer is in the table, and one that does not is not.
  place : ∀ k, k < caller.nextCall →
    caller.waiting.find? (number k) = if (caller.calls.find? k).any Call.awaits then some k else none
  shut : caller.closed = true → caller.waiting = []

variable {caller next : Caller} {act : Act} {k : Nat} {effects : List Effect} {call : Call} {after : Option Call}

theorem Call.awaits_iff : call.awaits = true ↔
    call.frame.isOneWay = false ∧ call.place ≠ .numbered ∧ call.inbox = .empty := by
  simp [Call.awaits,and_assoc]

theorem does_put {call' : Call} (found : caller.calls.find? k = some call)
    (turn : Turn caller k act (some call) effects (some call') next.waiting)
    (calls : next.calls = caller.calls.put k call') (closed : next.closed = caller.closed)
    (numbers : next.nextCall = caller.nextCall ∧ next.nextNumber = caller.nextNumber) :
    caller.Does act k effects (some call') next := by
  refine ⟨found ▸ turn,by simp [calls],?_,closed,.inl ⟨numbers.1,numbers.2,by simp [found]⟩⟩
  intro j differ
  rw [calls,Table.find?_put_ne _ _ differ]

theorem does_remove (found : caller.calls.find? k = some call)
    (turn : Turn caller k act (some call) effects none next.waiting)
    (calls : next.calls = caller.calls.remove k) (closed : next.closed = caller.closed)
    (numbers : next.nextCall = caller.nextCall ∧ next.nextNumber = caller.nextNumber) :
    caller.Does act k effects none next := by
  refine ⟨found ▸ turn,by simp [calls],?_,closed,.inl ⟨numbers.1,numbers.2,by simp [found]⟩⟩
  intro j differ
  rw [calls,Table.find?_remove_ne _ differ]

theorem does_start {frame : Frame} {limit : Option UInt64} (unused : caller.calls.find? caller.nextCall = none)
    (turn : Turn caller caller.nextCall act none [] (some { frame, limit }) next.waiting)
    (calls : next.calls = caller.calls.put caller.nextCall { frame, limit }) (closed : next.closed = caller.closed)
    (numbers : next.nextCall = caller.nextCall + 1 ∧ next.nextNumber = caller.nextNumber + 1) :
    caller.Does act caller.nextCall [] (some { frame, limit }) next := by
  refine ⟨unused ▸ turn,by simp [calls],?_,closed,.inr ⟨rfl,numbers⟩⟩
  intro j differ
  rw [calls,Table.find?_put_ne _ _ differ]

theorem enter_does (found : caller.calls.find? k = some call) (place : call.place = .numbered)
    (ran : caller.enter k call = (next,effects)) : ∃ after, caller.Does (.enter k) k effects after next := by
  unfold enter at ran
  split at ran
  · rename_i oneWay
    cases ran
    exact ⟨_,does_put found (.announce place oneWay) rfl rfl ⟨rfl,rfl⟩⟩
  · rename_i wants
    split at ran
    · rename_i shut
      cases ran
      exact ⟨_,does_remove found (.refuse place (by simpa using wants) shut) rfl rfl ⟨rfl,rfl⟩⟩
    · rename_i live
      cases ran
      exact ⟨_,does_put found (.register place (by simpa using wants) (by simpa using live)) rfl rfl ⟨rfl,rfl⟩⟩

theorem write_does {outcome : Except LinkFault Unit} (found : caller.calls.find? k = some call)
    (place : call.place = .entered) (ran : caller.write k call outcome = (next,effects)) :
    ∃ after, caller.Does (.write k outcome) k effects after next := by
  cases outcome with
  | ok done =>
      cases done
      simp only [write] at ran
      split at ran
      · rename_i oneWay
        cases ran
        exact ⟨_,does_remove found (.post place oneWay) rfl rfl ⟨rfl,rfl⟩⟩
      · rename_i wants
        cases ran
        exact ⟨_,does_put found (.send place (by simpa using wants)) rfl rfl ⟨rfl,rfl⟩⟩
  | error fault =>
      simp only [write] at ran
      split at ran
      · rename_i oneWay
        cases ran
        exact ⟨_,does_remove found (.misplace place oneWay) rfl rfl ⟨rfl,rfl⟩⟩
      · rename_i wants
        cases ran
        exact ⟨_,does_put found (.fail place (by simpa using wants)) rfl rfl ⟨rfl,rfl⟩⟩

theorem finish_does (found : caller.calls.find? k = some call) (place : call.place = .sent)
    (ran : caller.finish k call.inbox = some (next,effects)) :
    ∃ after, caller.Does (.finish k) k effects after next := by
  cases came : call.inbox with
  | empty => simp [came,finish] at ran
  | frame frame =>
      simp only [came,finish] at ran
      split at ran
      · rename_i bad
        cases ran
        exact ⟨_,does_remove found (.rejected place came bad) rfl rfl ⟨rfl,rfl⟩⟩
      · rename_i good
        cases ran
        exact ⟨_,does_remove found (.answered place came (by simpa using good)) rfl rfl ⟨rfl,rfl⟩⟩
  | severed =>
      simp only [came,finish] at ran
      cases ran
      exact ⟨_,does_remove found (.cut place came) rfl rfl ⟨rfl,rfl⟩⟩

theorem Kept.booked (kept : caller.Kept) {n : UInt64} (held : caller.waiting.find? n = some k) :
    ∃ call, caller.calls.find? k = some call ∧ call.frame.request = n ∧ call.awaits = true := by
  obtain ⟨rfl,lower⟩ := kept.holder n k held
  rw [kept.place k lower] at held
  split at held
  · rename_i waits
    obtain ⟨call,found,awaits⟩ := (Option.any_eq_true _ _).mp waits
    exact ⟨call,found,kept.named k call found,awaits⟩
  · cases held

theorem arrive_did {frame : Frame} (kept : caller.Kept) (live : caller.closed = false) :
    caller.Did (.arrive frame) [] (caller.arrive frame) := by
  unfold arrive
  cases claimed : caller.waiting.find? frame.request with
  | none =>
      simp only [count,claimed]
      exact .stray live claimed
  | some k =>
      obtain ⟨call,found,_⟩ := kept.booked claimed
      simp only [count,claimed,found]
      exact .own (does_put found (.deliver live claimed) rfl rfl ⟨rfl,rfl⟩)

theorem step_grown (ran : caller.step act = some (next,effects)) : caller.nextCall ≤ next.nextCall := by
  cases act with
  | begin | beginOneWay =>
      cases ran
      exact Nat.le_succ _
  | arrive frame =>
      simp only [step] at ran
      split at ran
      · cases ran
      · cases ran
        unfold arrive
        grind [count,put]
  | sever => grind [step,sever]
  | enter k | expire k | leave k =>
      obtain ⟨call,_,ran⟩ := Option.bind_eq_some_iff.mp ran
      grind [enter,finishWith,count,put,Option.bind_eq_some_iff]
  | write k outcome =>
      obtain ⟨call,_,ran⟩ := Option.bind_eq_some_iff.mp ran
      rcases outcome with fault | ⟨⟨⟩⟩ <;> grind [write,finishWith,put]
  | finish k =>
      obtain ⟨call,_,ran⟩ := Option.bind_eq_some_iff.mp ran
      cases came : call.inbox <;> grind [finish,finishWith,count]

theorem step_did (kept : caller.Kept) (ran : caller.step act = some (next,effects)) :
    caller.Did act effects next := by
  have unused := kept.below.unused
  cases act with
  | begin opcode payload limit =>
      cases ran
      have wants : ((Frame.make opcode caller.nextNumber payload).withFlags .none).isOneWay = false := by
        change Flags.none.contains .oneWay = false
        decide
      exact .own (does_start unused (.begin rfl wants) rfl rfl ⟨rfl,rfl⟩)
  | beginOneWay opcode payload =>
      cases ran
      have oneWay : ((Frame.make opcode caller.nextNumber payload).withFlags .oneWay).isOneWay = true := by
        change Flags.oneWay.contains .oneWay = true
        decide
      exact .own (does_start unused (.beginOneWay rfl oneWay) rfl rfl ⟨rfl,rfl⟩)
  | arrive frame =>
      simp only [step] at ran
      split at ran
      · cases ran
      · rename_i live
        cases ran
        exact arrive_did kept (by simpa using live)
  | sever =>
      simp only [step] at ran
      split at ran
      · cases ran
      · rename_i live
        cases ran
        exact .sever (by simpa using live)
  | enter k =>
      obtain ⟨call,found,ran⟩ := Option.bind_eq_some_iff.mp ran
      split at ran
      · rename_i place
        obtain ⟨after,does⟩ := enter_does found place (Option.some.inj ran)
        exact .own does
      · cases ran
  | write k outcome =>
      obtain ⟨call,found,ran⟩ := Option.bind_eq_some_iff.mp ran
      split at ran
      · rename_i place
        obtain ⟨after,does⟩ := write_does found place (Option.some.inj ran)
        exact .own does
      · cases ran
  | expire k =>
      obtain ⟨call,found,ran⟩ := Option.bind_eq_some_iff.mp ran
      obtain ⟨millis,limit,ran⟩ := Option.bind_eq_some_iff.mp ran
      split at ran
      · rename_i waits
        cases ran
        exact .own (does_put found (.expire waits.1 waits.2 limit) rfl rfl ⟨rfl,rfl⟩)
      · cases ran
  | leave k =>
      obtain ⟨call,found,ran⟩ := Option.bind_eq_some_iff.mp ran
      split at ran
      · rename_i fault counter place
        cases ran
        exact .own (does_remove found (.leave place) rfl rfl ⟨rfl,rfl⟩)
      · cases ran
  | finish k =>
      obtain ⟨call,found,ran⟩ := Option.bind_eq_some_iff.mp ran
      split at ran
      · rename_i place
        obtain ⟨after,does⟩ := finish_does found place ran
        exact .own does
      · cases ran

theorem number_inj {j : Nat} (left : j < 2 ^ 64) (right : k < 2 ^ 64) (same : number j = number k) : j = k := by
  have same : (j + 1) % 2 ^ 64 = (k + 1) % 2 ^ 64 := by simpa [number] using congrArg UInt64.toNat same
  omega

theorem number_succ (k : Nat) : number (k + 1) = number k + 1 := by
  simp [number,UInt64.ofNat_add]

theorem Kept.place_le (kept : caller.Kept) (few : caller.nextCall < 2 ^ 64) (used : k ≤ caller.nextCall) :
    caller.waiting.find? (number k) = if (caller.calls.find? k).any Call.awaits then some k else none := by
  rcases Nat.lt_or_eq_of_le used with lower | rfl
  · exact kept.place k lower
  · rw [kept.below.unused]
    cases held : caller.waiting.find? (number caller.nextCall) with
    | none => rfl
    | some j =>
        obtain ⟨same,lower⟩ := kept.holder _ j held
        have same := number_inj few (Nat.lt_trans lower few) same
        omega

section
variable {before : Option Call} {table : Table UInt64 Nat} (kept : caller.Kept)
  (turn : Turn caller k act before effects after table)
include kept turn

theorem Turn.shut (closed : caller.closed = true) : table = [] := by
  have shut := kept.shut closed
  cases turn with
  | register _ _ live | deliver live => simp [live] at closed
  | leave => simp [shut,Table.remove]
  | _ => exact shut

theorem Turn.distinct : table.Distinct := by
  cases turn with
  | register => exact kept.distinct.put _ _
  | leave | deliver => exact kept.distinct.remove _
  | _ => exact kept.distinct

variable (here : caller.calls.find? k = before)
include here

theorem Turn.elsewhere {n : UInt64} (differ : n ≠ number k) : table.find? n = caller.waiting.find? n := by
  cases turn with
  | register =>
      rw [kept.named k _ here]
      exact Table.find?_put_ne _ _ differ
  | leave =>
      rw [kept.named k _ here]
      exact Table.find?_remove_ne _ differ
  | deliver live claimed =>
      rw [(kept.holder _ _ claimed).1]
      exact Table.find?_remove_ne _ differ
  | _ => rfl

theorem Turn.place (few : caller.nextCall < 2 ^ 64) (used : k ≤ caller.nextCall) :
    table.find? (number k) = if after.any Call.awaits then some k else none := by
  have place := kept.place_le few used
  rw [here] at place
  cases turn with
  | register numbered wants live =>
      have empty := kept.fresh k _ here numbered
      rw [kept.named k _ here]
      simp [Call.awaits,wants,empty]
  | leave =>
      rw [kept.named k _ here]
      simp
  | deliver live claimed =>
      rw [(kept.holder _ _ claimed).1]
      simp [Call.awaits]
  | begin | beginOneWay | announce | refuse | post | send | misplace | fail | expire | answered | rejected | cut =>
      simp_all [Call.awaits]

theorem Turn.named (next : caller.nextNumber = number k ∨ before ≠ none) :
    ∀ call, after = some call → call.frame.request = number k := by
  have named (call) (was : before = some call) := kept.named k call (here.trans was)
  intro call made
  cases turn with
  | begin own | beginOneWay own =>
      cases made
      simpa [own] using next
  | announce | register | send | fail | expire | deliver =>
      cases made
      have kept := named _ rfl
      exact kept
  | refuse | post | misplace | leave | answered | rejected | cut => cases made

theorem Turn.fresh : ∀ call, after = some call → call.place = .numbered → call.inbox = .empty := by
  intro call made numbered
  cases turn with
  | begin | beginOneWay =>
      cases made
      rfl
  | deliver live claimed =>
      cases made
      obtain ⟨call,found,_,awaits⟩ := kept.booked claimed
      cases here.symm.trans found
      exact absurd numbered (Call.awaits_iff.mp awaits).2.1
  | announce | register | send | fail | expire =>
      cases made
      cases numbered
  | refuse | post | misplace | leave | answered | rejected | cut => cases made

end

section
variable (before : caller.Kept) (does : caller.Does act k effects after next)
include before does

theorem Does.used : k < next.nextCall ∧ caller.nextCall ≤ next.nextCall ∧ k ≤ caller.nextCall ∧
    ∀ j, j ≠ k → j < next.nextCall → j < caller.nextCall := by
  rcases does.numbers with ⟨same,_,there⟩ | ⟨new,more,_⟩
  · obtain ⟨call,found⟩ := Option.ne_none_iff_exists'.mp there
    have lower := before.below k call found
    exact ⟨by omega,by omega,by omega,fun j _ => by omega⟩
  · exact ⟨by omega,by omega,by omega,fun j _ => by omega⟩

omit before in
theorem Does.each {p : Nat → Call → Prop} (mine : ∀ call, after = some call → p k call)
    (others : ∀ j call, caller.calls.find? j = some call → p j call) :
    ∀ j call, next.calls.find? j = some call → p j call := by
  intro j call found
  by_cases same : j = k
  · subst same
    exact mine call (does.call.symm.trans found)
  · exact others j call (does.calls j same ▸ found)

theorem Does.kept (few : next.nextCall < 2 ^ 64) : next.Kept := by
  obtain ⟨used,grown,least,other⟩ := does.used before
  have place := does.turn.place before rfl (by omega) least
  have unlike {j : Nat} (differ : j ≠ k) (lower : j < next.nextCall) : number j ≠ number k := by
    intro same
    exact differ (number_inj (Nat.lt_trans lower few) (Nat.lt_trans used few) same)
  constructor
  case distinct => exact does.turn.distinct before
  case below => exact does.each (fun _ _ => used) fun j call found => Nat.lt_of_lt_of_le (before.below j call found) grown
  case next =>
    rcases does.numbers with ⟨same,number,_⟩ | ⟨_,more,number⟩
    · rw [number,same,before.next]
    · rw [number,more,before.next,number_succ]
  case named =>
    refine does.each (does.turn.named before rfl ?_) before.named
    rcases does.numbers with ⟨_,_,there⟩ | ⟨rfl,_⟩
    · exact .inr there
    · exact .inl before.next
  case fresh => exact does.each (does.turn.fresh before rfl) before.fresh
  case holder =>
    intro n j held
    by_cases own : n = number k
    · subst own
      rw [place] at held
      split at held
      · cases held
        exact ⟨rfl,used⟩
      · cases held
    · rw [does.turn.elsewhere before rfl own] at held
      obtain ⟨same,lower⟩ := before.holder n j held
      exact ⟨same,Nat.lt_of_lt_of_le lower grown⟩
  case place =>
    intro j lower
    by_cases same : j = k
    · subst same
      rw [place,does.call]
    · rw [does.turn.elsewhere before rfl (unlike same lower),does.calls j same]
      exact before.place j (other j same lower)
  case shut =>
    intro closed
    exact does.turn.shut before (does.closed ▸ closed)

end

theorem sever_marks (caller : Caller) (k : Nat) : caller.sever.calls.find? k = (caller.calls.find? k).map fun call =>
    if k ∈ caller.waiting.map (·.2) then { call with inbox := .severed } else call := by
  let mark (k : Nat) (call : Call) :=
    if k ∈ caller.waiting.map (·.2) then { call with inbox := .severed } else call
  have marked : caller.sever.calls = caller.calls.map fun pair => (pair.1,mark pair.1 pair.2) := by
    refine List.map_congr_left fun pair _ => ?_
    simp only [mark]
    split <;> rfl
  rw [marked,Table.find?_map mark]

theorem Kept.sever_find? (kept : caller.Kept) (k : Nat) : caller.sever.calls.find? k =
    (caller.calls.find? k).map fun call => if call.awaits then { call with inbox := .severed } else call := by
  have listed : k ∈ caller.waiting.map (·.2) ↔ (caller.calls.find? k).any Call.awaits := by
    constructor
    · intro member
      obtain ⟨⟨n,_⟩,there,rfl⟩ := List.mem_map.mp member
      obtain ⟨call,found,_,awaits⟩ := kept.booked (kept.distinct.find?_of_mem there)
      simp [found,awaits]
    · intro waits
      obtain ⟨call,found,awaits⟩ := (Option.any_eq_true _ _).mp waits
      have held := kept.place k (kept.below k call found)
      rw [if_pos waits] at held
      exact List.mem_map.mpr ⟨_,Table.mem_of_find? held,rfl⟩
  rw [sever_marks]
  cases found : caller.calls.find? k with
  | none => rfl
  | some call => simp only [listed,found,Option.map_some,Option.any_some]

theorem Kept.sever (kept : caller.Kept) : caller.sever.Kept := by
  have each (k : Nat) (call : Call) (found : caller.sever.calls.find? k = some call) :
      ∃ old, caller.calls.find? k = some old ∧ call.frame = old.frame ∧ call.place = old.place ∧
        call.awaits = false ∧ (old.awaits = false → call.inbox = old.inbox) := by
    rw [kept.sever_find?] at found
    obtain ⟨old,there,rfl⟩ := Option.map_eq_some_iff.mp found
    refine ⟨old,there,?_⟩
    by_cases awaits : old.awaits
    · rw [if_pos awaits]
      exact ⟨rfl,rfl,by simp [Call.awaits],by simp [awaits]⟩
    · rw [if_neg awaits]
      exact ⟨rfl,rfl,by simpa using awaits,fun _ => rfl⟩
  constructor
  case distinct => exact List.nodup_nil
  case below =>
    intro k call found
    obtain ⟨old,there,_⟩ := each k call found
    exact kept.below k old there
  case next => exact kept.next
  case named =>
    intro k call found
    obtain ⟨old,there,frame,_⟩ := each k call found
    rw [frame,kept.named k old there]
  case fresh =>
    intro k call found numbered
    obtain ⟨old,there,_,place,_,inbox⟩ := each k call found
    have idle : old.awaits = false := by simp [Call.awaits,← place,numbered]
    rw [inbox idle]
    exact kept.fresh k old there (place ▸ numbered)
  case holder =>
    intro n k held
    cases held
  case place =>
    intro k lower
    have idle : ¬ (caller.sever.calls.find? k).any Call.awaits := by
      intro waits
      obtain ⟨call,found,awaits⟩ := (Option.any_eq_true _ _).mp waits
      obtain ⟨_,_,_,_,idle,_⟩ := each k call found
      simp [idle] at awaits
    rw [if_neg idle]
    rfl
  case shut => exact fun _ => rfl

theorem Did.kept (did : caller.Did act effects next) (kept : caller.Kept) (few : next.nextCall < 2 ^ 64) :
    next.Kept := by
  cases did with
  | own does => exact does.kept kept few
  | stray => exact ⟨kept.distinct,kept.below,kept.next,kept.named,kept.fresh,kept.holder,kept.place,kept.shut⟩
  | sever => exact kept.sever

inductive Ground (k : Nat) (call : Call) : Act → Result → Prop where
  | posted : Ground k call (.write k (.ok ())) (.ok none)
  | misplaced : Ground k call (.write k (.error fault)) (.error fault)
  | left (place : call.place = .leaving fault counter) : Ground k call (.leave k) (.error fault)
  | answered (came : call.inbox = .frame frame) (good : frame.isError = false) :
      Ground k call (.finish k) (.ok (some frame))
  | rejected (came : call.inbox = .frame frame) (bad : frame.isError = true) :
      Ground k call (.finish k) (.error (.remote (Utf8.forgive frame.payload)))
  | cut (came : call.inbox = .severed) : Ground k call (.finish k) (.error .reset)
  | refused : Ground k call (.enter k) (.error .reset)

section
variable {before : Option Call} {table : Table UInt64 Nat} {j : Nat} {result : Result}
  (turn : Turn caller k act before effects after table)
include turn

theorem Turn.done (done : .done j result ∈ effects) :
    j = k ∧ after = none ∧ ∃ call, before = some call ∧ Ground k call act result := by
  cases turn with
  | refuse =>
      cases List.mem_singleton.mp done
      exact ⟨rfl,rfl,_,rfl,.refused⟩
  | post =>
      rcases List.mem_cons.mp done with other | done
      · cases other
      · cases List.mem_singleton.mp done
        exact ⟨rfl,rfl,_,rfl,.posted⟩
  | misplace =>
      cases List.mem_singleton.mp done
      exact ⟨rfl,rfl,_,rfl,.misplaced⟩
  | send => cases List.mem_singleton.mp done
  | leave place =>
      cases List.mem_singleton.mp done
      exact ⟨rfl,rfl,_,rfl,.left place⟩
  | answered _ came good =>
      cases List.mem_singleton.mp done
      exact ⟨rfl,rfl,_,rfl,.answered came good⟩
  | rejected _ came bad =>
      cases List.mem_singleton.mp done
      exact ⟨rfl,rfl,_,rfl,.rejected came bad⟩
  | cut _ came =>
      cases List.mem_singleton.mp done
      exact ⟨rfl,rfl,_,rfl,.cut came⟩
  | begin | beginOneWay | announce | register | fail | expire | deliver => cases done

theorem Turn.sent {frame : Frame} (sent : .send frame ∈ effects) :
    ∃ call, before = some call ∧ frame = call.frame ∧ call.place = .entered := by
  cases turn with
  | post place | send place =>
      simp only [List.mem_cons,Effect.send.injEq,reduceCtorEq,List.not_mem_nil,or_false] at sent
      exact ⟨_,rfl,sent,place⟩
  | refuse | misplace | leave | answered | rejected | cut => cases List.mem_singleton.mp sent
  | begin | beginOneWay | announce | register | fail | expire | deliver => cases sent

theorem Turn.numbered (made : after = some call) (numbered : call.place = .numbered) :
    ∀ old, before = some old → old.place = .numbered := by
  rintro old rfl
  cases turn with
  | deliver =>
      cases made
      exact numbered
  | announce | register | send | fail | expire =>
      cases made
      cases numbered
  | refuse | post | misplace | leave | answered | rejected | cut => cases made

theorem Turn.registered (made : after = some call) (moved : call.place ≠ .numbered) (wants : call.frame.isOneWay = false) :
    (∃ old, before = some old ∧ old.place ≠ .numbered ∧ old.frame = call.frame) ∨
      act = .enter k ∧ table.find? call.frame.request = some k := by
  cases turn with
  | register =>
      cases made
      exact .inr ⟨rfl,by simp⟩
  | send place | fail place | expire place =>
      cases made
      exact .inl ⟨_,rfl,by simp [place],rfl⟩
  | deliver =>
      cases made
      exact .inl ⟨_,rfl,moved,rfl⟩
  | announce _ oneWay =>
      cases made
      cases oneWay.symm.trans wants
  | begin | beginOneWay =>
      cases made
      cases moved rfl
  | refuse | post | misplace | leave | answered | rejected | cut => cases made

theorem Turn.came {frame : Frame} (made : after = some call) (came : call.inbox = .frame frame) :
    ∃ old, before = some old ∧ (old.inbox = .frame frame ∨
      act = .arrive frame ∧ caller.waiting.find? frame.request = some k ∧ call = { old with inbox := .frame frame }) := by
  cases turn with
  | deliver _ claimed =>
      cases made
      cases came
      exact ⟨_,rfl,.inr ⟨rfl,claimed,rfl⟩⟩
  | announce | register | send | fail | expire =>
      cases made
      exact ⟨_,rfl,.inl came⟩
  | begin | beginOneWay =>
      cases made
      cases came
  | refuse | post | misplace | leave | answered | rejected | cut => cases made

omit turn in
theorem Turn.delivered {frame : Frame} (turn : Turn caller k (.arrive frame) before effects after table) :
    ∃ call, before = some call ∧ caller.waiting.find? frame.request = some k ∧
      after = some { call with inbox := .frame frame } := by
  cases turn with
  | deliver _ claimed => exact ⟨_,rfl,claimed,rfl⟩

omit turn in
theorem Turn.begun {opcode : Opcode} {payload : Bytes} {limit : Option UInt64}
    (turn : Turn caller k (.begin opcode payload limit) before effects after table) :
    before = none ∧ ∃ call, after = some call ∧ call.outside = true := by
  cases turn with
  | begin _ wants => exact ⟨rfl,_,rfl,by simp [Call.outside,wants]⟩

theorem Turn.leaving {fault : LinkFault} {counter : Counter} (made : after = some call)
    (leaving : call.place = .leaving fault counter) :
    (∃ old, before = some old ∧ old.place = .leaving fault counter) ∨ act = .write k (.error fault) ∨
      ∃ n millis, fault = .replyTimeout n millis := by
  cases turn with
  | fail =>
      cases made
      cases leaving
      exact .inr (.inl rfl)
  | expire =>
      cases made
      cases leaving
      exact .inr (.inr ⟨_,_,rfl⟩)
  | deliver =>
      cases made
      exact .inl ⟨_,rfl,leaving⟩
  | announce | register | send | begin | beginOneWay =>
      cases made
      cases leaving
  | refuse | post | misplace | leave | answered | rejected | cut => cases made

end

theorem start_kept (metrics : Metrics) : Kept { metrics } := by
  constructor <;> simp [Table.Distinct,Table.Below,Table.find?,number]

end Caller
end LockLender
