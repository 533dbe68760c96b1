import LockLender.Borrower.Turns
import LockLender.Proofs.Borrower.Life
import LockLender.Proofs.Turns

namespace LockLender.Borrower

def Place.steps (watches : Bool) : Place → Nat
  | .arriving => 6
  | .looking => if watches then 5 else 7
  | .parked => if watches then 0 else 6
  | .asking => 4
  | .asked | .queued => 3
  | .watching => if watches then 2 else 4
  | .dozing => if watches then 0 else 3
  | .returning => 2
  | .settling _ | .returned | .closing _ => 1

-- More than a call can take without a word from elsewhere, replies laid ready included.
def steps (b : Borrower) (k : Nat) : Nat :=
  match b.calls.find? k with
  | none => 0
  | some call => call.place.steps (decide (k ∈ (b.entry call.lock).watchers))

def Effect.asker : Effect → Option Nat
  | .ask k _ | .giveBack k _ => some k
  | .hook _ | .wake _ | .done .. => none

def Lived (b : Borrower) : Prop := ∃ id threshold hooked past, Life id threshold hooked past b

variable {b next : Borrower} {k : Nat} {lock : LockId} {purpose : Purpose} {outcome : Outcome} {call : Call}
  {effects rest : List Effect} {effect : Effect} {reply : Except LockFault Reply}

theorem new_lived (id : ClientId) (threshold : Nat) (hooked : Bool) : (new id threshold hooked).Lived :=
  ⟨id,threshold,hooked,[],.start rfl⟩

theorem Lived.prompted {prompt : Prompt} (lived : b.Lived) (ran : b.prompted prompt = some (next,effects)) :
    next.Lived := by
  obtain ⟨id,threshold,hooked,past,life⟩ := lived
  exact ⟨id,threshold,hooked,_,life.step trivial ran⟩

theorem Lived.unused (lived : b.Lived) : b.calls.find? b.nextCall = none := by
  obtain ⟨_,_,_,_,life⟩ := lived
  exact life.sound.numbered.unused

theorem Lived.begin (lived : b.Lived) (purpose : Purpose) (lock : LockId) : (b.begin purpose lock).2.1.Lived :=
  lived.prompted (show b.prompted (.begin purpose lock) = _ from rfl)

theorem Lived.retry (lived : b.Lived) (lock : LockId) : (b.retry lock).1.Lived :=
  lived.prompted (show b.prompted (.retry lock) = _ from rfl)

theorem Lived.advance (lived : b.Lived) (ran : b.advance k = some (effects,next)) : next.Lived :=
  lived.prompted (show b.prompted (.advance k) = some (next,effects) by simp [Borrower.prompted,ran])

theorem Lived.answer (lived : b.Lived) (ran : b.answer k reply = some next) : next.Lived :=
  lived.prompted (show b.prompted (.answer k reply) = some (next,[]) by simp [Borrower.prompted,ran])

@[simp] theorem entry_write (b : Borrower) (lock : LockId) (e : Entry) : (b.write lock e).entry lock = e :=
  (entry_put rfl).1

@[simp] theorem entry_move (b : Borrower) (k : Nat) (call : Call) (place : Place) (lock : LockId) :
    (b.move k call place).entry lock = b.entry lock := rfl

@[simp] theorem calls_move (b : Borrower) (k : Nat) (call : Call) (place : Place) :
    (b.move k call place).calls.find? k = some { call with place } :=
  Table.find?_put_self _ _ _

theorem advance_over (gone : b.calls.find? k = none) : b.advance k = none := by
  simp [advance,gone]

-- Who sleeps goes on only when it is no longer among the watchers.
theorem advance_woken (found : b.calls.find? k = some call) (ran : b.advance k = some (effects,next))
    (sleeps : call.place = .parked ∨ call.place = .dozing) : k ∉ (b.entry call.lock).watchers := by
  intro watches
  rcases sleeps with place | place <;> simp [advance,found,place,watches] at ran

theorem release_keeps (held : (b.entry lock).state = .held) (unasked : (b.entry lock).revoked = false) : ∃ next,
    b.begin .release lock = (b.nextCall,next,[.wake (b.entry lock).watchers,.done b.nextCall .release lock (.ok ())]) ∧
      next.calls = b.calls := by
  cases found : b.entry? lock with
  | none => simp [entry,found] at held
  | some e =>
      have here : b.entry lock = e := by simp [entry,found]
      rw [here] at held unasked ⊢
      refine ⟨(b.release lock).2.1,?_,?_⟩ <;> simp [begin,release,found,held,unasked,change,brief,write]

structure At (b : Borrower) (k : Nat) (purpose : Purpose) (lock : LockId) (place : Place) (e : Entry) : Prop where
  call : b.calls.find? k = some ⟨purpose,lock,place⟩
  entry : b.entry lock = e

namespace At
variable {e : Entry}

theorem acquire (b : Borrower) (lock : LockId) : ∃ next, b.begin .acquire lock = (b.nextCall,next,[]) ∧
    next.At b.nextCall .acquire lock .arriving { b.entry lock with waiting := (b.entry lock).waiting + 1 } :=
  ⟨_,rfl,Table.find?_put_self _ _ _,(entry_put rfl).1⟩

theorem watch (here : b.At k purpose lock .arriving e) : ∃ next, b.advance k = some ([],next) ∧
    next.At k purpose lock .looking { e with watchers := e.watchers ++ [k] } := by
  refine ⟨b.watch k ⟨purpose,lock,.arriving⟩ .looking,by simp [advance,here.call],calls_move _ _ _ _,?_⟩
  simp [Borrower.watch,here.entry]

theorem turn (here : b.At k purpose lock .looking e) (idle : e.state = .idle) : ∃ next,
    b.advance k = some ([],next) ∧ next.At k purpose lock .asking
      { e with state := .acquiring, signal := false, watchers := e.watchers.erase k } := by
  refine ⟨(b.write lock { b.entry lock with
    state := .acquiring, signal := false, watchers := (b.entry lock).watchers.erase k }).move k
      ⟨purpose,lock,.looking⟩ .asking,by simp [advance,look,here.call,here.entry,idle],calls_move _ _ _ _,?_⟩
  simp [here.entry]

theorem ask (here : b.At k purpose lock .asking e) : ∃ next, b.advance k = some ([.ask k lock],next) ∧
    next.At k purpose lock .asked e :=
  ⟨{ b with stats := { b.stats with acquireRpcs := b.stats.acquireRpcs + 1 } }.move k ⟨purpose,lock,.asking⟩ .asked,
    by simp [advance,here.call],calls_move _ _ _ _,here.entry⟩

theorem asked (here : b.At k purpose lock .asked e) (reply : Except LockFault Reply) : ∃ next,
    b.answer k reply = some next ∧ next.At k purpose lock (afterAsk reply) e :=
  ⟨b.move k ⟨purpose,lock,.asked⟩ (afterAsk reply),by simp [answer,here.call],calls_move _ _ _ _,here.entry⟩

theorem queue (here : b.At k purpose lock .queued e) : ∃ next, b.advance k = some ([],next) ∧
    next.At k purpose lock .watching { e with watchers := e.watchers ++ [k] } := by
  refine ⟨b.watch k ⟨purpose,lock,.queued⟩ .watching,by simp [advance,here.call],calls_move _ _ _ _,?_⟩
  simp [Borrower.watch,here.entry]

theorem doze (here : b.At k purpose lock .watching e) (unset : e.signal = false) : ∃ next,
    b.advance k = some ([],next) ∧ next.At k purpose lock .dozing e :=
  ⟨b.move k ⟨purpose,lock,.watching⟩ .dozing,by simp [advance,here.call,here.entry,unset],calls_move _ _ _ _,here.entry⟩

theorem sleeps (here : b.At k purpose lock .dozing e) (watches : k ∈ e.watchers) : b.advance k = none := by
  simp [advance,here.call,here.entry,watches]

theorem got (here : b.At k purpose lock (.settling (.ok ())) e) : ∃ next,
    b.advance k = some ([.done k purpose lock (.ok ())],next) ∧ next.calls.find? k = none ∧
      next.entry lock = { e with state := .held, waiting := e.waiting - 1 } := by
  refine ⟨(b.settleAcquire k ⟨purpose,lock,.settling (.ok ())⟩ (.ok ())).2,?_,Table.find?_remove_self _ _,?_⟩
  · simp [advance,here.call,settleAcquire,finish]
  · exact (entry_put rfl).1.trans (by rw [here.entry])

theorem send (here : b.At k purpose lock .returning e) : ∃ next,
    b.advance k = some ((if b.hooked then [.hook lock] else []) ++ [.giveBack k lock],next) ∧
      next.At k purpose lock .returned e :=
  ⟨{ b with stats := { b.stats with releaseRpcs := b.stats.releaseRpcs + 1 } }.move k ⟨purpose,lock,.returning⟩ .returned,
    by simp [advance,here.call],calls_move _ _ _ _,here.entry⟩

theorem returned (here : b.At k purpose lock .returned e) (reply : Except LockFault Reply) : ∃ next,
    b.answer k reply = some next ∧ next.At k purpose lock (afterReturn reply) e :=
  ⟨b.move k ⟨purpose,lock,.returned⟩ (afterReturn reply),by simp [answer,here.call],calls_move _ _ _ _,here.entry⟩

theorem waits (here : b.At k purpose lock .returned e) : b.advance k = none := by
  simp [advance,here.call]

theorem close (here : b.At k purpose lock (.closing outcome) e) : ∃ next,
    b.advance k = some ([.wake e.watchers,.done k purpose lock outcome],next) ∧ next.calls.find? k = none := by
  refine ⟨(b.settleReturn k ⟨purpose,lock,.closing outcome⟩ outcome).2,?_,Table.find?_remove_self _ _⟩
  cases outcome <;> simp [advance,here.call,settleReturn,change,finish,here.entry]

end At

theorem Act.asker {threshold : Nat} {e entry : Entry} {before after : Option Call}
    (act : Act threshold k lock .advance e before effects entry after) (member : effect ∈ effects) :
    effect.asker = none ∨ effect.asker = some k := by
  cases act with
  | ask =>
      cases List.mem_singleton.mp member
      exact .inr rfl
  | send _ _ hooks only =>
      rcases List.mem_append.mp member with hook | sent
      · rcases only with rfl | rfl
        · cases hook
        · cases List.mem_singleton.mp hook
          exact .inl rfl
      · cases List.mem_singleton.mp sent
        exact .inr rfl
  | hit | got =>
      cases List.mem_singleton.mp member
      exact .inl rfl
  | gaveUp | closed | reopened =>
      rcases List.mem_cons.mp member with rfl | member
      · exact .inl rfl
      · cases List.mem_singleton.mp member
        exact .inl rfl
  | watchLock | turnAsking | park | watchSignal | heed | doze => cases member

theorem advance_steps (ran : b.advance k = some (effects,next)) : next.steps k < b.steps k := by
  obtain ⟨lock,e,after,act,edit⟩ := advance_does ran
  unfold steps
  rw [edit.call]
  cases found : b.calls.find? k with
  | none => simp [advance,found] at ran
  | some call =>
      have woken := advance_woken found ran
      rw [found] at act
      have here := edit.entry
      generalize old : b.entry lock = was at act
      cases act with
      | watchLock place own =>
          subst own
          rcases place with place | place
          · simp [here,place,Place.steps]
          · have asleep := woken (.inl place)
            rw [old] at asleep
            simp [here,old,place,asleep,Place.steps]
      | watchSignal place own =>
          subst own
          rcases place with place | place
          · simp [here,place,Place.steps]
          · have asleep := woken (.inr place)
            rw [old] at asleep
            simp [here,old,place,asleep,Place.steps]
      | park place own | doze place own =>
          subst own
          simp only [here,old,place,Place.steps]
          split <;> decide
      | hit place | turnAsking place | heed place =>
          simp only [place,Place.steps]
          split <;> decide
      | ask place | got place | gaveUp place | send place | closed place | reopened place =>
          simp [place,Place.steps]

theorem afterAsk_steps (watches : Bool) (reply : Except LockFault Reply) : (afterAsk reply).steps watches ≤ 3 := by
  cases reply with
  | error => exact Nat.le_of_ble_eq_true rfl
  | ok reply => cases reply <;> exact Nat.le_of_ble_eq_true rfl

theorem afterReturn_steps (watches : Bool) (reply : Except LockFault Reply) : (afterReturn reply).steps watches = 1 := by
  cases reply with
  | error => rfl
  | ok reply => cases reply <;> rfl

theorem answer_steps (ran : b.answer k reply = some next) : next.steps k ≤ b.steps k := by
  obtain ⟨lock,e,after,act,edit⟩ := answer_does ran
  unfold steps
  rw [edit.call]
  generalize b.calls.find? k = before at act
  cases act with
  | askAnswered place =>
      dsimp only
      rw [place]
      exact afterAsk_steps _ reply
  | returnAnswered place =>
      dsimp only
      rw [place]
      exact Nat.le_of_eq (afterReturn_steps _ reply)

namespace Turns
variable {turns last : Turns} {operation : Operation} {presets : List (Except LockFault Reply)}

@[simp] theorem effects_nil (turns : Turns) : turns.effects [] = turns := rfl

@[simp] theorem effects_cons (turns : Turns) : turns.effects (effect :: rest) = (turns.effect effect).effects rest := rfl

theorem request_waiting (none : turns.presets = []) : turns.request operation k lock =
    { turns with requests := turns.requests ++ [k], log := turns.log ++ [.requested operation lock] } := by
  simp only [request,note,none]

theorem request_answered (laid : turns.presets = reply :: presets) (answered : turns.borrower.answer k reply = some next) :
    turns.request operation k lock =
      { turns with presets, borrower := next, log := turns.log ++ [.requested operation lock] } := by
  simp only [request,note,laid,answered,Option.getD_some]

theorem request_steps : (turns.request operation k lock).borrower.steps k ≤ turns.borrower.steps k := by
  cases laid : turns.presets with
  | nil => rw [request_waiting laid]
  | cons reply presets =>
      cases answered : turns.borrower.answer k reply with
      | none => simp [request,note,laid,answered]
      | some next =>
          rw [request_answered laid answered]
          exact answer_steps answered

theorem effects_steps (own : ∀ effect ∈ effects, effect.asker = none ∨ effect.asker = some k) :
    (turns.effects effects).borrower.steps k ≤ turns.borrower.steps k := by
  induction effects generalizing turns with
  | nil => exact Nat.le_refl _
  | cons effect rest ih =>
      refine Nat.le_trans (ih fun other member => own other (List.mem_cons_of_mem _ member)) ?_
      have mine := own effect List.mem_cons_self
      cases effect with
      | ask j lock | giveBack j lock =>
          obtain rfl : j = k := by simpa [Effect.asker] using mine
          exact request_steps
      | hook | wake => exact Nat.le_refl _
      | done =>
          simp only [effect]
          split <;> exact Nat.le_refl _

theorem request_lived (lived : turns.borrower.Lived) : (turns.request operation k lock).borrower.Lived := by
  cases laid : turns.presets with
  | nil =>
      rw [request_waiting laid]
      exact lived
  | cons reply presets =>
      cases answered : turns.borrower.answer k reply with
      | none => simpa [request,note,laid,answered] using lived
      | some next =>
          rw [request_answered laid answered]
          exact lived.answer answered

theorem effects_lived (lived : turns.borrower.Lived) : (turns.effects effects).borrower.Lived := by
  induction effects generalizing turns with
  | nil => exact lived
  | cons effect rest ih =>
      apply ih
      cases effect with
      | ask | giveBack => exact request_lived lived
      | hook | wake => exact lived
      | done =>
          simp only [effect]
          split <;> exact lived

theorem stepCall_eq (ran : turns.borrower.advance k = some (effects,next)) :
    stepCall k turns = some (Turns.effects { turns with borrower := next } effects) := by
  simp [stepCall,ran]

theorem stepCall_none (waits : turns.borrower.advance k = none) : stepCall k turns = none := by
  simp [stepCall,waits]

theorem stepCall_some (ran : stepCall k turns = some last) : ∃ effects next,
    turns.borrower.advance k = some (effects,next) ∧ last = Turns.effects { turns with borrower := next } effects := by
  obtain ⟨⟨effects,next⟩,advanced,same⟩ := Option.bind_eq_some_iff.mp ran
  exact ⟨effects,next,advanced,(Option.some.inj same).symm⟩

-- A call that takes its turn comes to its end or to where it waits.
theorem resume_settles (turns : Turns) (k : Nat) : Settles (stepCall k) turns (turns.resume k) := by
  refine .of_rank (fun turns => turns.borrower.steps k) ?_ turns
  intro turns last ran
  obtain ⟨effects,next,advanced,rfl⟩ := stepCall_some ran
  obtain ⟨_,_,_,does⟩ := advance_does advanced
  exact Nat.lt_of_le_of_lt (effects_steps fun effect member => does.act.asker member) (advance_steps advanced)

theorem resume_waits (waits : turns.borrower.advance k = none) : turns.resume k = turns :=
  settle_none (stepCall_none waits)

theorem resume_advance (ran : turns.borrower.advance k = some (effects,next)) :
    turns.resume k = (Turns.effects { turns with borrower := next } effects).resume k :=
  settle_some (stepCall_eq ran)

theorem begin_eq {framed : Bool} (ran : turns.borrower.begin purpose lock = (k,next,effects)) :
    turns.begin framed purpose lock = (Turns.effects { turns with
      borrower := next, framed := if framed then k :: turns.framed else turns.framed } effects).resume k := by
  simp only [Turns.begin,ran]

theorem settled_begin (still : turns.ready = []) (quiet : (turns.begin false purpose lock).ready = []) :
    (turns.submit (.begin purpose lock)).settled = turns.begin false purpose lock := by
  have ran : turn (turns.submit (.begin purpose lock)) = some (turns.begin false purpose lock) := by
    cases turns
    cases still
    rfl
  exact (settle_some ran).trans (settle_none (by simp [turn,quiet]))

theorem begin_acquire (turns : Turns) (idle : (turns.borrower.entry lock).state = .idle)
    (laid : turns.presets = reply :: presets) :
    ∃ next, turns.begin false .acquire lock =
        Turns.resume { turns with borrower := next, presets, log := turns.log ++ [.requested .acquire lock] }
          turns.borrower.nextCall ∧
      next.At turns.borrower.nextCall .acquire lock (afterAsk reply) { turns.borrower.entry lock with
        state := .acquiring
        waiting := (turns.borrower.entry lock).waiting + 1
        signal := false
        watchers := ((turns.borrower.entry lock).watchers ++ [turns.borrower.nextCall]).erase turns.borrower.nextCall } := by
  obtain ⟨_,begun,arriving⟩ := At.acquire turns.borrower lock
  obtain ⟨_,watched,looking⟩ := arriving.watch
  obtain ⟨_,turned,asking⟩ := looking.turn idle
  obtain ⟨_,sent,asked⟩ := asking.ask
  obtain ⟨next,told,back⟩ := asked.asked reply
  refine ⟨next,?_,back⟩
  rw [begin_eq begun,effects_nil,resume_advance watched,effects_nil,resume_advance turned,effects_nil,
    resume_advance sent,effects_cons,effects_nil]
  exact congrArg (Turns.resume · _) (request_answered laid told)

theorem effect_done (unframed : k ∉ turns.framed) : turns.effect (.done k purpose lock outcome) =
    { turns with log := turns.log ++ [.done purpose lock outcome] } := by
  simp [effect,note,unframed]

theorem effect_framed (framed : k ∈ turns.framed) : turns.effect (.done k purpose lock outcome) = { turns with
    framed := turns.framed.erase k
    log := turns.log ++ [.handled (answerOf (outcome.map fun _ => CallbackReply.ack))] } := by
  simp [effect,note,framed]

theorem begin_acquire_retry (turns : Turns) (idle : (turns.borrower.entry lock).state = .idle)
    (laid : turns.presets = .ok .retry :: presets) : ∃ next, turns.begin false .acquire lock =
      { turns with borrower := next, presets, log := turns.log ++ [.requested .acquire lock] } := by
  obtain ⟨_,asked,queued⟩ := begin_acquire turns idle laid
  obtain ⟨_,watched,watching⟩ := queued.queue
  obtain ⟨next,unset,dozing⟩ := watching.doze rfl
  refine ⟨next,?_⟩
  rw [asked,resume_advance watched,effects_nil,resume_advance unset,effects_nil,resume_waits (dozing.sleeps (by simp))]

theorem begin_acquire_granted (turns : Turns) (idle : (turns.borrower.entry lock).state = .idle)
    (laid : turns.presets = .ok .granted :: presets) (unframed : turns.borrower.nextCall ∉ turns.framed) :
    ∃ next, turns.begin false .acquire lock = { turns with
        borrower := next
        presets
        log := turns.log ++ [.requested .acquire lock,.done .acquire lock (.ok ())] } ∧
      next.entry lock = { turns.borrower.entry lock with
        state := .held
        signal := false
        watchers := ((turns.borrower.entry lock).watchers ++ [turns.borrower.nextCall]).erase turns.borrower.nextCall } := by
  obtain ⟨_,asked,granted⟩ := begin_acquire turns idle laid
  obtain ⟨next,got,gone,entry⟩ := granted.got
  refine ⟨next,?_,by simp [entry]⟩
  rw [asked,resume_advance got,effects_cons,effects_nil,effect_done (by exact unframed),
    resume_waits (advance_over gone)]
  simp

theorem begin_release (turns : Turns) (lived : turns.borrower.Lived) (held : (turns.borrower.entry lock).state = .held)
    (unasked : (turns.borrower.entry lock).revoked = false) (unframed : turns.borrower.nextCall ∉ turns.framed) :
    ∃ next, turns.begin false .release lock = { turns with
        borrower := next
        ready := turns.ready ++ (turns.borrower.entry lock).watchers.map Job.resume
        log := turns.log ++ [.done .release lock (.ok ())] } := by
  obtain ⟨next,begun,calls⟩ := release_keeps held unasked
  have gone : next.calls.find? turns.borrower.nextCall = none := by rw [calls,lived.unused]
  refine ⟨next,?_⟩
  rw [begin_eq begun,effects_cons,effects_cons,effects_nil,effect_done (by exact unframed),resume_waits (advance_over gone)]
  rfl

section handle
variable {frame : Frame} {callback : Callback} {fault : LockFault}

theorem handle_ok (asked : frame.asCallback = .ok callback) : turns.handle frame =
    match heed callback turns with
    | (none,turns) => turns
    | (some reply,turns) => turns.note (.handled (answerOf reply)) := by
  unfold Frame.asCallback at asked
  simp only [handle,OptionT.run,Frame.handled,asked]
  rcases ran : heed callback turns with ⟨_ | reply,next⟩
  · rw [stuck_bind ran]
  · rw [done_bind ran]
    rfl

theorem handle_error (refused : frame.asCallback = .error fault) :
    turns.handle frame = turns.note (.handled (.error (.remote fault.message))) := by
  unfold Frame.asCallback at refused
  simp only [handle,Frame.handled,refused]
  rfl

theorem handle_gone (gone : turns.alive = false) (asked : frame.asCallback = .ok callback) :
    turns.handle frame = turns.note (.handled (.error (.remote "lock client shut down"))) := by
  simp [handle_ok asked,heed,gone]

theorem handle_revoke (alive : turns.alive = true) (asked : frame.asCallback = .ok (.revoke lock)) :
    turns.handle frame = turns.begin true .revoke lock := by
  simp [handle_ok asked,heed,alive]

theorem handle_retry (alive : turns.alive = true) (asked : frame.asCallback = .ok (.retry lock)) :
    turns.handle frame = (turns.retry lock).note (.handled (.ok (Coded.encode CallbackReply.ack))) := by
  simp [handle_ok asked,heed,alive,answerOf]

end handle

section lived
variable (lived : turns.borrower.Lived)
include lived

theorem resume_lived (k : Nat) : (turns.resume k).borrower.Lived := by
  refine (turns.resume_settles k).keeps (p := fun turns => turns.borrower.Lived) ?_ lived
  intro turns last ran lived
  obtain ⟨effects,next,advanced,rfl⟩ := stepCall_some ran
  exact effects_lived (lived.advance advanced)

theorem begin_lived (framed : Bool) (purpose : Purpose) (lock : LockId) :
    (turns.begin framed purpose lock).borrower.Lived := by
  rcases ran : turns.borrower.begin purpose lock with ⟨k,next,effects⟩
  have begun := lived.begin purpose lock
  rw [ran] at begun
  rw [begin_eq ran]
  exact resume_lived (effects_lived begun) k

theorem retry_lived (lock : LockId) : (turns.retry lock).borrower.Lived :=
  effects_lived (lived.retry lock)

theorem handle_lived (frame : Frame) : (turns.handle frame).borrower.Lived := by
  cases asked : frame.asCallback with
  | error fault =>
      rw [handle_error asked]
      exact lived
  | ok callback =>
      cases alive : turns.alive with
      | false =>
          rw [handle_gone alive asked]
          exact lived
      | true =>
          cases callback with
          | revoke lock =>
              rw [handle_revoke alive asked]
              exact begin_lived lived _ _ _
          | retry lock =>
              rw [handle_retry alive asked]
              exact retry_lived lived lock

-- Whatever comes at whatever moment, the client goes through a life.
theorem turn_lived (ran : turns.turn = some last) : last.borrower.Lived := by
  unfold turn at ran
  split at ran
  · cases ran
  · rename_i job ready _
    cases job with
    | begin purpose lock =>
        cases ran
        apply begin_lived
        exact lived
    | frame frame =>
        cases ran
        apply handle_lived
        exact lived
    | resume call =>
        cases ran
        apply resume_lived
        exact lived

end lived

end Turns
end LockLender.Borrower
