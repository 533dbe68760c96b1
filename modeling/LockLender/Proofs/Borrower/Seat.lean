import LockLender.Proofs.Borrower.Sound
import LockLender.Proofs.Table

namespace LockLender

inductive Stage where
  | idle
  -- The request to have the lock has not been answered; it failed; the client
  -- stands in line; the lock is granted.
  | asking
  | refused
  | waiting
  | granted
  | held
  | free
  -- The request to take the lock back has not been answered; it was accepted;
  -- it failed.
  | returning
  | returned
  | unreturned
  deriving DecidableEq, Repr

def Stage.state : Stage → LockState
  | .idle => .idle
  | .asking | .refused | .waiting | .granted => .acquiring
  | .held => .held
  | .free => .cachedFree
  | .returning | .returned | .unreturned => .releasing

def Stage.holds (stage : Stage) : Nat := if stage = .held then 1 else 0

def LockState.stage : LockState → Stage
  | .cachedFree => .free
  | .held => .held
  | .idle | .acquiring | .releasing => .idle

namespace Borrower

abbrev Replies := Nat → Option (Except LockFault Reply)

def Place.stage? : Place → Option Stage
  | .arriving | .looking | .parked => none
  | .asking | .asked => some .asking
  | .queued | .watching | .dozing => some .waiting
  | .settling (.ok _) => some .granted
  | .settling (.error _) => some .refused
  | .returning | .returned => some .returning
  | .closing (.ok _) => some .returned
  | .closing (.error _) => some .unreturned

def askStage : Except LockFault Reply → Stage
  | .ok .granted => .granted
  | .ok .retry => .waiting
  | _ => .refused

def returnStage : Except LockFault Reply → Stage
  | .ok .released | .ok (.noSuchLock _) => .returned
  | _ => .unreturned

-- Where a call will stand when the reply that is under way has come.
def Call.due (call : Call) : Option (Except LockFault Reply) → Place
  | none => call.place
  | some reply =>
    match call.place with
    | .asked => afterAsk reply
    | .returned => afterReturn reply
    | place => place

def stageOf (b : Borrower) (replies : Replies) : LockId → Nat → Option Stage :=
  b.crew fun k call => (call.due (replies k)).stage?

def stage (b : Borrower) (replies : Replies) (lock : LockId) : Stage :=
  if (b.entry lock).state.engaged then
    (b.calls.findSome? fun pair => b.stageOf replies lock pair.1).getD .idle
  else (b.entry lock).state.stage

structure Seat where
  stage : Stage := .idle
  revoked : Bool := false
  signal : Bool := false
  waiting : Nat := 0
  deriving DecidableEq, Repr

def seat (b : Borrower) (replies : Replies) (lock : LockId) : Seat :=
  ⟨b.stage replies lock,(b.entry lock).revoked,(b.entry lock).signal,(b.entry lock).waiting⟩

def Effect.acquired : Effect → Option LockId
  | .done _ .acquire lock (.ok ()) => some lock
  | _ => none

@[simp] theorem acquired_error (k : Nat) (purpose : Purpose) (lock : LockId) (fault : LockFault) :
    (Effect.done k purpose lock (.error fault)).acquired = none := by
  cases purpose <;> rfl

@[simp] theorem acquired_wake (calls : List Nat) : (Effect.wake calls).acquired = none := rfl

-- What an act that is no reply can do, and whether an acquire returns with the
-- lock by it.
inductive Seat.Step : Input → Seat → Bool → Seat → Prop where
  | arrive : Step (.begin .acquire) s false { s with waiting := s.waiting + 1 }
  | misplaced (unheld : s.stage ≠ .held) : Step (.begin .release) s false s
  | giveBack (held : s.stage = .held) (wanted : s.revoked = true) :
      Step (.begin .release) s false { s with stage := .returning }
  | keep (held : s.stage = .held) (needed : s.revoked = true → 1 ≤ s.waiting) :
      Step (.begin .release) s false { s with stage := .free }
  | surrender (free : s.stage = .free) : Step (.begin .revoke) s false { s with stage := .returning }
  | recalled (away : s.stage.state = .releasing) : Step (.begin .revoke) s false s
  | remember (busy : s.stage ≠ .free) (here : s.stage.state ≠ .releasing) :
      Step (.begin .revoke) s false { s with revoked := true }
  | signal (asking : s.stage.state = .acquiring) : Step .retry s false { s with signal := true }
  | stale (known : s.stage.state = .acquiring → s.signal = true) : Step .retry s false s
  | rest : Step .advance s false s
  | hit (free : s.stage = .free) :
      Step .advance s true { s with stage := .held, waiting := s.waiting - 1 }
  | turnAsking (idle : s.stage = .idle) :
      Step .advance s false { s with stage := .asking, signal := false }
  | heed (waiting : s.stage = .waiting) (set : s.signal = true) :
      Step .advance s false { s with stage := .granted }
  | got (granted : s.stage = .granted) :
      Step .advance s true { s with stage := .held, waiting := s.waiting - 1 }
  | gaveUp (refused : s.stage = .refused) :
      Step .advance s false { s with stage := .idle, waiting := s.waiting - 1 }
  | closed (returned : s.stage = .returned) :
      Step .advance s false { s with stage := .idle, revoked := false }
  | reopened (unreturned : s.stage = .unreturned) :
      Step .advance s false { s with stage := .free, revoked := true }

variable {b next : Borrower} {input : Input} {k : Nat} {lock : LockId} {effects : List Effect}
  {e : Entry} {after : Option Call} {replies later : Replies} {s : Stage}

theorem Seat.Step.holds {input : Input} {s s' : Seat} {got : Bool} (step : Seat.Step input s got s')
    (stays : input ≠ .begin .release) : s'.stage.holds = s.stage.holds + if got then 1 else 0 := by
  cases step with
  | misplaced | giveBack | keep => exact absurd rfl stays
  | surrender free | hit free => rw [free]; rfl
  | turnAsking idle => rw [idle]; rfl
  | heed waiting => rw [waiting]; rfl
  | got granted => rw [granted]; rfl
  | gaveUp refused => rw [refused]; rfl
  | closed returned => rw [returned]; rfl
  | reopened unreturned => rw [unreturned]; rfl
  | _ => rfl

theorem Seat.Step.releases {s s' : Seat} (step : Seat.Step (.begin .release) s false s')
    (holding : 0 < s.stage.holds) : s.stage.holds = 1 ∧ s'.stage.holds = 0 := by
  cases step with
  | misplaced unheld =>
      rw [Stage.holds,if_neg unheld] at holding
      cases holding
  | giveBack held | keep held => exact ⟨by rw [held]; rfl,rfl⟩

theorem Place.duty_eq (place : Place) : place.duty = place.stage?.map Stage.state := by
  cases place with
  | settling outcome | closing outcome => cases outcome <;> rfl
  | _ => rfl

@[simp] theorem stage_afterAsk (reply : Except LockFault Reply) :
    (afterAsk reply).stage? = some (askStage reply) := by
  cases reply with
  | error => rfl
  | ok reply => cases reply <;> rfl

@[simp] theorem stage_afterReturn (reply : Except LockFault Reply) :
    (afterReturn reply).stage? = some (returnStage reply) := by
  cases reply with
  | error => rfl
  | ok reply => cases reply <;> rfl

theorem Call.due_duty (call : Call) (reply : Option (Except LockFault Reply)) :
    (call.due reply).duty = call.place.duty := by
  cases reply with
  | none => rfl
  | some reply =>
      cases place : call.place with
      | asked => simp only [due,place,duty_afterAsk]; rfl
      | returned => simp only [due,place,duty_afterReturn]; rfl
      | _ => simp only [due,place]

theorem askStage_state (reply : Except LockFault Reply) : (askStage reply).state = .acquiring := by
  cases reply with
  | error => rfl
  | ok reply => cases reply <;> rfl

theorem returnStage_ne (reply : Except LockFault Reply) : returnStage reply ≠ .returning := by
  cases reply with
  | error => nofun
  | ok reply => cases reply <;> nofun

theorem Call.due_returning {call : Call} {reply : Option (Except LockFault Reply)}
    (stands : (call.due reply).stage? = some .returning) :
    call.place = .returning ∨ call.place = .returned ∧ reply = none := by
  cases place : call.place with
  | returning => exact .inl rfl
  | asked =>
      cases reply with
      | none => simp [due,place,Place.stage?] at stands
      | some reply =>
          simp only [due,place,stage_afterAsk,Option.some.injEq] at stands
          have asking := askStage_state reply
          rw [stands] at asking
          cases asking
  | returned =>
      cases reply with
      | none => exact .inr ⟨rfl,rfl⟩
      | some reply =>
          simp only [due,place,stage_afterReturn,Option.some.injEq] at stands
          exact absurd stands (returnStage_ne reply)
  | settling outcome | closing outcome =>
      cases reply <;> cases outcome <;> simp [due,place,Place.stage?] at stands
  | _ => cases reply <;> simp [due,place,Place.stage?] at stands

theorem stage_at {call : Call} {place : Place} (stands : call.place = place) :
    ((some call).bind fun call => (call.due none).stage?) = place.stage? := by
  rw [← stands]
  rfl

theorem stageOf_duty (b : Borrower) (replies : Replies) (lock : LockId) (k : Nat) :
    (b.stageOf replies lock k).map Stage.state = b.duty lock k := by
  unfold stageOf duty crew
  cases b.calls.find? k with
  | none => rfl
  | some call =>
      by_cases own : call.lock = lock
      · simp [own,← Place.duty_eq,Call.due_duty]
      · simp [own]

theorem stageOf_of_duty {s : LockState} (seen : b.duty lock k = some s) (replies : Replies) :
    ∃ stage, b.stageOf replies lock k = some stage ∧ stage.state = s := by
  rw [← stageOf_duty b replies] at seen
  exact Option.map_eq_some_iff.mp seen

theorem Sound.stage_of_call (sound : b.Sound) (seen : b.stageOf replies lock k = some s) :
    b.stage replies lock = s := by
  have duty : b.duty lock k = some s.state := by
    rw [← stageOf_duty b replies,seen]
    rfl
  have engaged := duty_engaged duty
  rw [← sound.fits _ _ _ duty] at engaged
  unfold stage
  rw [if_pos engaged]
  cases first : b.calls.findSome? fun pair => b.stageOf replies lock pair.1 with
  | none =>
      obtain ⟨call,found,_⟩ := crew_eq_some.mp seen
      have missed := List.findSome?_eq_none_iff.mp first _ (Table.mem_of_find? found)
      rw [seen] at missed
      cases missed
  | some other =>
      obtain ⟨⟨j,call⟩,_,found⟩ := List.exists_of_findSome?_eq_some first
      have same : j = k := by
        apply sound.sole lock
        · rw [← stageOf_duty b replies,found]
          simp
        · simp [duty]
      subst same
      rw [seen] at found
      exact (Option.some.inj found).symm

theorem stage_of_rest {s : LockState} (state : (b.entry lock).state = s) (rest : s.engaged = false) :
    b.stage replies lock = s.stage := by
  subst state
  simp [stage,rest]

theorem Sound.stage_state (sound : b.Sound) (replies : Replies) (lock : LockId) :
    (b.stage replies lock).state = (b.entry lock).state := by
  cases engaged : (b.entry lock).state.engaged with
  | true =>
      obtain ⟨k,seen⟩ := sound.manned lock engaged
      obtain ⟨stage,found,state⟩ := stageOf_of_duty seen replies
      rw [sound.stage_of_call found,state]
  | false =>
      rw [stage_of_rest rfl engaged]
      cases state : (b.entry lock).state <;> simp [state,LockState.engaged] at engaged <;> rfl

theorem Sound.stage_holds (sound : b.Sound) (replies : Replies) (lock : LockId) :
    (b.stage replies lock).holds = if (b.entry lock).state = .held then 1 else 0 := by
  rw [← sound.stage_state replies lock]
  cases b.stage replies lock <;> rfl

theorem stage_congr {c : Borrower} (sound : b.Sound) (other : c.Sound)
    (state : (c.entry lock).state = (b.entry lock).state)
    (calls : ∀ k, c.stageOf later lock k = b.stageOf replies lock k) :
    c.stage later lock = b.stage replies lock := by
  cases engaged : (b.entry lock).state.engaged with
  | true =>
      obtain ⟨k,seen⟩ := sound.manned lock engaged
      obtain ⟨stage,found,_⟩ := stageOf_of_duty seen replies
      rw [sound.stage_of_call found,other.stage_of_call ((calls k).trans found)]
  | false => rw [stage_of_rest rfl engaged,stage_of_rest state engaged]

namespace Does

theorem stageOf_rest (done : Does b input k lock effects e after next)
    (mail : ∀ j, j ≠ k → later j = replies j) {j : Nat} (differ : j ≠ k) (other : LockId) :
    next.stageOf later other j = b.stageOf replies other j := by
  simp only [stageOf,crew,done.edit.calls j differ,mail j differ]

theorem stageOf_other (done : Does b input k lock effects e after next)
    (mail : ∀ j, j ≠ k → later j = replies j) {other : LockId} (differ : other ≠ lock) (j : Nat) :
    next.stageOf later other j = b.stageOf replies other j := by
  by_cases same : j = k
  · rw [same]
    exact (done.crew_absent differ _).2.trans (done.crew_absent differ _).1.symm
  · exact done.stageOf_rest mail same other

theorem stageOf_before (done : Does b input k lock effects e after next) (replies : Replies) :
    b.stageOf replies lock k = (b.calls.find? k).bind fun call => (call.due (replies k)).stage? :=
  done.crew_before _

theorem stageOf_after (done : Does b input k lock effects e after next) (later : Replies) :
    next.stageOf later lock k = after.bind fun call => (call.due (later k)).stage? :=
  done.crew_after _

theorem stage_same (done : Does b input k lock effects e after next) (sound : b.Sound)
    (mail : ∀ j, j ≠ k → later j = replies j) (state : e.state = (b.entry lock).state)
    (call : next.stageOf later lock k = b.stageOf replies lock k) :
    next.stage later lock = b.stage replies lock := by
  apply stage_congr sound (done.sound sound) (by rw [done.edit.entry,state])
  intro j
  by_cases same : j = k
  · rw [same,call]
  · exact done.stageOf_rest mail same lock

theorem seat_other (done : Does b input k lock effects e after next) (sound : b.Sound)
    (mail : ∀ j, j ≠ k → later j = replies j) {other : LockId} (differ : other ≠ lock) :
    next.seat later other = b.seat replies other := by
  have entry := done.edit.entries other differ
  simp only [seat,entry]
  rw [stage_congr sound (done.sound sound) (by rw [entry]) (done.stageOf_other mail differ)]

theorem stage_rest (done : Does b input k lock effects e after next) (rest : e.state.engaged = false) :
    next.stage later lock = e.state.stage := stage_of_rest (by rw [done.edit.entry]) rest

-- The whole table of acts seen from the seat. No reply is under way for the
-- acting call, for it would wait for it.
theorem seat_step (done : Does b input k lock effects e after next) (sound : b.Sound)
    (unasked : replies k = none) (own : ∀ reply, input ≠ .answer reply) :
    ∃ got, Seat.Step input (b.seat replies lock) got (next.seat replies lock) ∧
      effects.filterMap Effect.acquired = if got then [lock] else [] := by
  have before := done.stageOf_before replies
  have later := done.stageOf_after replies
  rw [unasked] at before later
  have state := sound.stage_state replies lock
  have entry := done.edit.entry
  have purposed := sound.purposed k
  have act := done.act
  generalize b.calls.find? k = was at act before purposed
  have same : e.state = (b.entry lock).state → next.stageOf replies lock k = b.stageOf replies lock k →
      next.stage replies lock = b.stage replies lock := done.stage_same sound fun _ _ => rfl
  unfold seat
  rw [entry]
  cases act with
  | acquire =>
      rw [same rfl (later.trans before.symm)]
      exact ⟨false,.arrive,rfl⟩
  | misplaced unheld =>
      rw [same rfl (later.trans before.symm)]
      exact ⟨false,.misplaced fun held => unheld (state.symm.trans (congrArg Stage.state held)),rfl⟩
  | giveBack held wanted =>
      rw [stage_of_rest held rfl,(done.sound sound).stage_of_call later]
      exact ⟨false,.giveBack rfl wanted,rfl⟩
  | keep held needed =>
      rw [stage_of_rest held rfl,done.stage_rest rfl]
      exact ⟨false,.keep rfl fun wanted => Nat.le_trans sound.patient (needed wanted),rfl⟩
  | surrender free =>
      rw [stage_of_rest free rfl,(done.sound sound).stage_of_call later]
      exact ⟨false,.surrender rfl,rfl⟩
  | recalled away =>
      rw [same rfl (later.trans before.symm)]
      exact ⟨false,.recalled (state.trans away),rfl⟩
  | remember busy here =>
      rw [same rfl (later.trans before.symm)]
      exact ⟨false,.remember (fun free => busy (state.symm.trans (congrArg Stage.state free)))
        (fun away => here (state.symm.trans away)),rfl⟩
  | signal asking =>
      rw [same rfl (later.trans before.symm)]
      exact ⟨false,.signal (state.trans asking),rfl⟩
  | stale known =>
      rw [same rfl (later.trans before.symm)]
      exact ⟨false,.stale fun asking => known (state.symm.trans asking),rfl⟩
  | watchLock place =>
      rw [same rfl (later.trans (before.trans (by rcases place with place | place <;> exact stage_at place)).symm)]
      exact ⟨false,.rest,rfl⟩
  | hit place _ free =>
      have purpose := (purposed _ rfl).mpr (by rw [place]; nofun)
      rw [stage_of_rest free rfl,done.stage_rest rfl]
      exact ⟨true,.hit rfl,by simp [Effect.acquired,purpose]⟩
  | turnAsking _ _ idle =>
      rw [stage_of_rest idle rfl,(done.sound sound).stage_of_call later]
      exact ⟨false,.turnAsking rfl,rfl⟩
  | park place =>
      rw [same rfl (later.trans (before.trans (stage_at place)).symm)]
      exact ⟨false,.rest,rfl⟩
  | ask place =>
      rw [same rfl (later.trans (before.trans (stage_at place)).symm)]
      exact ⟨false,.rest,rfl⟩
  | watchSignal place =>
      rw [same rfl (later.trans (before.trans (by rcases place with place | place <;> exact stage_at place)).symm)]
      exact ⟨false,.rest,rfl⟩
  | heed place _ set =>
      have waiting := before.trans (stage_at place)
      rw [sound.stage_of_call waiting,(done.sound sound).stage_of_call later]
      exact ⟨false,.heed rfl set,rfl⟩
  | doze place =>
      rw [same rfl (later.trans (before.trans (stage_at place)).symm)]
      exact ⟨false,.rest,rfl⟩
  | got place =>
      have purpose := (purposed _ rfl).mpr (by rw [place]; nofun)
      have granted := before.trans (stage_at place)
      rw [sound.stage_of_call granted,done.stage_rest rfl]
      exact ⟨true,.got rfl,by simp [Effect.acquired,purpose]⟩
  | gaveUp place =>
      have refused := before.trans (stage_at place)
      rw [sound.stage_of_call refused,done.stage_rest rfl]
      exact ⟨false,.gaveUp rfl,by simp⟩
  | send place _ hooks only =>
      rw [same rfl (later.trans (before.trans (stage_at place)).symm)]
      exact ⟨false,.rest,by rcases only with rfl | rfl <;> rfl⟩
  | @closed _ call place =>
      have purpose : call.purpose ≠ .acquire := fun acquire => (purposed _ rfl).mp acquire (by rw [place]; rfl)
      have returned := before.trans (stage_at place)
      rw [sound.stage_of_call returned,done.stage_rest rfl]
      exact ⟨false,.closed rfl,by simp [Effect.acquired,purpose]⟩
  | reopened place =>
      have unreturned := before.trans (stage_at place)
      rw [sound.stage_of_call unreturned,done.stage_rest rfl]
      exact ⟨false,.reopened rfl,by simp⟩
  | askAnswered => exact absurd rfl (own _)
  | returnAnswered => exact absurd rfl (own _)

theorem seat_answer {reply : Except LockFault Reply} (done : Does b (.answer reply) k lock effects e after next)
    (sound : b.Sound) (gone : later k = none) :
    ∃ call, b.calls.find? k = some call ∧ call.lock = lock ∧
      (call.place = .asked ∧ next.seat later lock = { b.seat replies lock with stage := askStage reply } ∨
        call.place = .returned ∧ next.seat later lock = { b.seat replies lock with stage := returnStage reply }) := by
  have stage := done.stageOf_after later
  rw [gone] at stage
  have entry := done.edit.entry
  have act := done.act
  unfold seat
  rw [entry]
  cases found : b.calls.find? k with
  | none =>
      rw [found] at act
      cases act
  | some call =>
      rw [found] at act
      cases act with
      | askAnswered place own =>
          have stage := (done.sound sound).stage_of_call (stage.trans (stage_afterAsk reply))
          exact ⟨call,rfl,own,.inl ⟨place,by rw [stage]⟩⟩
      | returnAnswered place own =>
          have stage := (done.sound sound).stage_of_call (stage.trans (stage_afterReturn reply))
          exact ⟨call,rfl,own,.inr ⟨place,by rw [stage]⟩⟩

end Does

section
variable {call : Call}

theorem Sound.stage_of_due (sound : b.Sound) (found : b.calls.find? k = some call)
    (seen : (call.due (replies k)).stage? = some s) : b.stage replies call.lock = s :=
  sound.stage_of_call (crew_eq_some.mpr ⟨call,found,rfl,seen⟩)

theorem Sound.seat_reply (sound : b.Sound) (found : b.calls.find? k = some call)
    (mail : ∀ j, j ≠ k → later j = replies j) (differ : lock ≠ call.lock) :
    b.seat later lock = b.seat replies lock := by
  unfold seat
  rw [stage_congr sound sound rfl fun j => ?_]
  by_cases same : j = k
  · have absent (letters : Replies) : b.stageOf letters lock k = none := by
      simp [stageOf,crew,found,Ne.symm differ]
    rw [same,absent,absent]
  · simp only [stageOf,crew,mail j same]

end

end Borrower
end LockLender
