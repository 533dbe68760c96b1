import LockLender.Proofs.Borrower.Turns
import LockLender.Proofs.Link.Remote

namespace LockLender

namespace Frame

structure Bears {α : Type} [Coded α] (opcode : α → Opcode) (frame : Frame) (message : α) : Prop where
  read : Coded.decode frame.payload = .ok message
  label : opcode message = frame.opcode

inductive Misses {α : Type} [Coded α] (opcode : α → Opcode) (shown : α → String) (frame : Frame) :
    LockFault → Prop where
  | unreadable (unread : Coded.decode (α := α) frame.payload = .error flaw) :
      Misses opcode shown frame (.link (.badMessage flaw))
  | mislabelled {message : α} (read : Coded.decode frame.payload = .ok message)
      (differs : opcode message ≠ frame.opcode) :
      Misses opcode shown frame (.malformed (shown message ++ " under opcode " ++ frame.opcode.name))

variable {α β : Type} [Coded α] [Coded β] {opcode : α → Opcode} {shown : α → String} {frame : Frame} {message : α}
  {fault : LockFault} {request : Request} {callback : Callback}

theorem Bears.message_eq (bears : frame.Bears opcode message) : frame.message opcode shown = .ok message := by
  unfold Frame.message
  rw [bears.read]
  exact if_pos bears.label

theorem message_missed (none : ∀ message, ¬ frame.Bears opcode message) :
    ∃ fault, frame.Misses opcode shown fault ∧ frame.message opcode shown = .error fault := by
  unfold Frame.message
  cases read : Coded.decode (α := α) frame.payload with
  | error flaw => exact ⟨_,.unreadable read,rfl⟩
  | ok message =>
      have differs : opcode message ≠ frame.opcode := fun label => none message ⟨read,label⟩
      exact ⟨_,.mislabelled read differs,if_neg differs⟩

theorem bears_callback_iff : frame.Bears Callback.opcode callback ↔
    Coded.encode callback <+: frame.payload ∧ callback.opcode = frame.opcode := by
  constructor
  · rintro ⟨read,label⟩
    exact ⟨((Coded.decode_eq_ok Codec.callback_exact).mp read).2,label⟩
  · rintro ⟨stands,label⟩
    exact ⟨(Coded.decode_eq_ok Codec.callback_exact).mpr ⟨trivial,stands⟩,label⟩

theorem Bears.of_request (bears : frame.Bears Request.opcode request) : frame.opcode.isCallback = false := by
  rw [← bears.label]
  cases request <;> rfl

theorem Bears.of_callback (bears : frame.Bears Callback.opcode callback) : frame.opcode.isCallback = true := by
  rw [← bears.label]
  cases callback <;> rfl

end Frame

namespace Borrower
variable {b : Borrower} {k : Nat} {lock : LockId}

theorem surrender_opens (free : (b.entry lock).state = .cachedFree) : ∃ next,
    b.begin .revoke lock = (b.nextCall,next,[]) ∧ next.hooked = b.hooked ∧
      next.At b.nextCall .revoke lock .returning { b.entry lock with state := .releasing } := by
  simp only [begin,revoke,entry_counted,free]
  exact ⟨_,rfl,rfl,Table.find?_put_self _ _ _,(entry_put rfl).1⟩

theorem revoke_brief (used : (b.entry lock).state ≠ .cachedFree) : ∃ next,
    b.begin .revoke lock = (b.nextCall,next,[.done b.nextCall .revoke lock (.ok ())]) ∧ next.calls = b.calls := by
  simp only [begin,revoke,entry_counted]
  split
  · contradiction
  · exact ⟨_,rfl,rfl⟩
  · exact ⟨_,rfl,rfl⟩

def woken (b : Borrower) (lock : LockId) : List Nat :=
  if (b.entry lock).state = .acquiring ∧ (b.entry lock).signal = false then (b.entry lock).watchers else []

namespace Turns
variable {turns : Turns} {frame : Frame}

def acknowledged : Event := .handled (.ok (Coded.encode CallbackReply.ack))

def farewell (turns : Turns) (lock : LockId) : List Event :=
  (if turns.borrower.hooked then [.hook lock] else []) ++ [.requested .release lock]

-- The client when a frame has asked it to give a lock back. As long as the lock is
-- used the wish is remembered. Else one request goes out, after the hook, and the
-- frame is answered when the server has replied.
inductive Recalls (turns : Turns) (lock : LockId) : Turns → Prop where
  | remembered (used : (turns.borrower.entry lock).state ≠ .cachedFree) : Recalls turns lock { turns with
      borrower := (turns.borrower.revoke lock).2.1
      log := turns.log ++ [acknowledged] }
  | sent {made : List Effect} (free : (turns.borrower.entry lock).state = .cachedFree) (bare : turns.presets = [])
      (gone : (turns.borrower.revoke lock).2.1.advance turns.borrower.nextCall = some (made,away))
      (waits : away.At turns.borrower.nextCall .revoke lock .returned
        { turns.borrower.entry lock with state := .releasing }) :
      Recalls turns lock { turns with
        borrower := away
        requests := turns.requests ++ [turns.borrower.nextCall]
        framed := turns.borrower.nextCall :: turns.framed
        log := turns.log ++ turns.farewell lock }
  | returned {made last : List Effect} {said : Except LockFault Reply}
      (free : (turns.borrower.entry lock).state = .cachedFree)
      (laid : turns.presets = said :: left)
      (gone : (turns.borrower.revoke lock).2.1.advance turns.borrower.nextCall = some (made,away))
      (told : away.answer turns.borrower.nextCall said = some back) (means : afterReturn said = .closing outcome)
      (closed : back.advance turns.borrower.nextCall = some (last,next)) :
      Recalls turns lock { turns with
        borrower := next
        presets := left
        ready := turns.ready ++ (turns.borrower.entry lock).watchers.map Job.resume
        log := turns.log ++ turns.farewell lock ++ [.handled (answerOf (outcome.map fun _ => CallbackReply.ack))] }

theorem Recalls.away {later : Turns} (recalls : turns.Recalls lock later)
    (free : (turns.borrower.entry lock).state = .cachedFree) (bare : turns.presets = []) :
    ∃ e, later.borrower.At turns.borrower.nextCall .revoke lock .returned e ∧
      later.requests = turns.requests ++ [turns.borrower.nextCall] ∧
      later.framed = turns.borrower.nextCall :: turns.framed := by
  cases recalls with
  | remembered used => exact absurd free used
  | sent _ _ _ waits => exact ⟨_,waits,rfl,rfl⟩
  | returned _ laid => cases bare.symm.trans laid

-- The reply to a call that has sent a lock back reaches the call, which is to end by it.
def Hears (turns : Turns) (index k : Nat) (purpose : Purpose) (lock : LockId) (e : Entry)
    (said : Except LockFault Reply) : Prop :=
  ∃ outcome back, afterReturn said = .closing outcome ∧ turns.borrower.answer k said = some back ∧
    back.At k purpose lock (.closing outcome) e ∧ turns.reply index said = some { turns with
      borrower := back
      requests := turns.requests.eraseIdx index
      ready := turns.ready ++ [.resume k] }

def Closes (turns : Turns) (k : Nat) (lock : LockId) (outcome : Outcome) : Prop :=
  ∃ last next, turns.borrower.advance k = some (last,next) ∧ turns.resume k = { turns with
    borrower := next
    ready := turns.ready ++ (turns.borrower.entry lock).watchers.map Job.resume
    framed := turns.framed.erase k
    log := turns.log ++ [.handled (answerOf (outcome.map fun _ => CallbackReply.ack))] }

theorem resume_closing (turns : Turns) {purpose : Purpose} {outcome : Outcome} {e : Entry} (framed : k ∈ turns.framed)
    (here : turns.borrower.At k purpose lock (.closing outcome) e) : turns.Closes k lock outcome := by
  obtain ⟨next,closed,gone⟩ := here.close
  refine ⟨_,next,closed,?_⟩
  rw [resume_advance closed,effects_cons,effects_cons,effects_nil,effect_framed (by exact framed),← here.entry]
  exact resume_waits (advance_over gone)

theorem effects_farewell (turns : Turns) (k : Nat) (lock : LockId) (hooked : Bool) :
    turns.effects ((if hooked then [.hook lock] else []) ++ [.giveBack k lock]) =
      Turns.request { turns with log := turns.log ++ if hooked then [.hook lock] else [] } .release k lock := by
  cases hooked with
  | false => simp [effect]
  | true => rfl

theorem afterReturn_closes (reply : Except LockFault Reply) : ∃ outcome, afterReturn reply = .closing outcome := by
  unfold afterReturn
  split <;> exact ⟨_,rfl⟩

theorem reply_hears {purpose : Purpose} {e : Entry} (waits : turns.requests[index]? = some k)
    (here : turns.borrower.At k purpose lock .returned e) (said : Except LockFault Reply) :
    turns.Hears index k purpose lock e said := by
  obtain ⟨outcome,means⟩ := afterReturn_closes said
  obtain ⟨back,told,closing⟩ := here.returned said
  rw [means] at closing
  refine ⟨outcome,back,means,told,closing,?_⟩
  simp only [reply,waits,told,bind,Option.bind,pure]

theorem begin_recalls (lived : turns.borrower.Lived) (lock : LockId) :
    turns.Recalls lock (turns.begin true .revoke lock) := by
  by_cases free : (turns.borrower.entry lock).state = .cachedFree
  · obtain ⟨opened,begun,hooked,returning⟩ := surrender_opens free
    obtain ⟨away,sent,returned⟩ := returning.send
    have opened_eq : (turns.borrower.revoke lock).2.1 = opened := congrArg (·.2.1) begun
    have gone := opened_eq ▸ sent
    let out : Turns := { turns with
      borrower := away
      framed := turns.borrower.nextCall :: turns.framed
      log := turns.log ++ if turns.borrower.hooked then [.hook lock] else [] }
    have asked : turns.begin true .revoke lock =
        (out.request .release turns.borrower.nextCall lock).resume turns.borrower.nextCall := by
      rw [begin_eq begun,effects_nil,resume_advance sent,effects_farewell,hooked]
      rfl
    rw [asked]
    cases laid : turns.presets with
    | nil =>
        have bare : out.presets = [] := laid
        rw [request_waiting bare,resume_waits returned.waits]
        convert Recalls.sent free laid gone returned using 2
        simp [out,farewell]
    | cons said left =>
        have more : out.presets = said :: left := laid
        obtain ⟨outcome,means⟩ := afterReturn_closes said
        obtain ⟨back,told,closing⟩ := returned.returned said
        rw [means] at closing
        rw [request_answered more told]
        let answered : Turns := { out with
          presets := left
          borrower := back
          log := out.log ++ [.requested .release lock] }
        have framed : turns.borrower.nextCall ∈ answered.framed := List.mem_cons_self
        obtain ⟨last,next,closed,ended⟩ := answered.resume_closing framed closing
        rw [ended]
        convert Recalls.returned free laid gone told means closed using 2
        · simp [answered,out,closing.entry]
        · simp [answered,out]
        · simp [answered,out,farewell]
  · obtain ⟨next,begun,calls⟩ := revoke_brief free
    have gone : next.calls.find? turns.borrower.nextCall = none := by rw [calls,lived.unused]
    have next_eq : (turns.borrower.revoke lock).2.1 = next := congrArg (·.2.1) begun
    have ended : turns.begin true .revoke lock = { turns with borrower := next, log := turns.log ++ [acknowledged] } := by
      rw [begin_eq begun,effects_cons,effects_nil,effect_framed List.mem_cons_self,resume_waits (advance_over gone)]
      simp only [if_true,List.erase_cons_head]
      rfl
    rw [ended,← next_eq]
    exact .remembered free

structure Heeds (turns : Turns) (frame : Frame) : Prop where
  lived : (turns.handle frame).borrower.Lived
  revoked : ∀ lock, frame.Bears Callback.opcode (.revoke lock) → turns.Recalls lock (turns.handle frame)
  retried : ∀ lock, frame.Bears Callback.opcode (.retry lock) → turns.handle frame = { turns with
    borrower := (turns.borrower.retry lock).1
    ready := turns.ready ++ (turns.borrower.woken lock).map Job.resume
    log := turns.log ++ [acknowledged] }
  refused : (∀ callback, ¬ frame.Bears Callback.opcode callback) →
    ∃ fault, frame.Misses Callback.opcode Callback.shown fault ∧
      turns.handle frame = { turns with log := turns.log ++ [.handled (.error (.remote fault.message))] }

theorem retry_eq (turns : Turns) (lock : LockId) : turns.retry lock = { turns with
    borrower := (turns.borrower.retry lock).1
    ready := turns.ready ++ (turns.borrower.woken lock).map Job.resume } := by
  unfold Turns.retry Borrower.retry woken
  simp only [entry_counted,Bool.not_eq_true]
  split
  · rfl
  · simp

theorem heeds (alive : turns.alive = true) (lived : turns.borrower.Lived) (frame : Frame) : turns.Heeds frame := by
  refine ⟨handle_lived lived frame,?_,?_,?_⟩
  · intro lock bears
    rw [handle_revoke alive bears.message_eq]
    exact begin_recalls lived lock
  · intro lock bears
    rw [handle_retry alive bears.message_eq,retry_eq]
    rfl
  · intro none
    obtain ⟨fault,misses,missed⟩ := Frame.message_missed none
    exact ⟨fault,misses,handle_error missed⟩

end Turns
end Borrower

structure Service.Heeds {σ : Type} (service : Service σ) (frame : Frame) : Prop where
  asked : ∀ s request, frame.Bears Request.opcode request → service.noted.handle (s,[]) frame =
    (answerOf (service.perform s request).1,(service.perform s request).2,[request])
  refused : (∀ request, ¬ frame.Bears Request.opcode request) →
    ∃ fault, frame.Misses Request.opcode Request.shown fault ∧
      ∀ s, service.noted.handle (s,[]) frame = (.error (.remote fault.message),s,[])

theorem Service.heeds {σ : Type} (service : Service σ) (frame : Frame) : service.Heeds frame := by
  constructor
  · intro s request bears
    rw [Service.handle_ok bears.message_eq]
    simp only [perform_noted,List.nil_append]
  · intro none
    obtain ⟨fault,misses,missed⟩ := Frame.message_missed none
    refine ⟨fault,misses,fun s => ?_⟩
    rw [Service.handle_error missed]

-- An endpoint whose operations do as they like meanwhile: the one that the frame
-- asks for, from its beginning to its end, or nothing at all.
structure Frame.Serves {m : Type → Type} [Monad m] {α β : Type} [Coded α] [Coded β] (opcode : α → Opcode)
    (shown : α → String) (perform : α → m (Except LockFault β)) (frame : Frame) : Prop where
  asked : ∀ message, frame.Bears opcode message →
    frame.handled opcode shown perform = do return answerOf (← perform message)
  refused : (∀ message, ¬ frame.Bears opcode message) → ∃ fault, frame.Misses opcode shown fault ∧
    frame.handled opcode shown perform = return .error (.remote fault.message)

theorem Frame.serves {m : Type → Type} [Monad m] {α β : Type} [Coded α] [Coded β] (opcode : α → Opcode)
    (shown : α → String) (perform : α → m (Except LockFault β)) (frame : Frame) :
    frame.Serves opcode shown perform := by
  constructor
  · intro message bears
    simp only [Frame.handled,bears.message_eq]
  · intro none
    obtain ⟨fault,misses,missed⟩ := Frame.message_missed none
    exact ⟨fault,misses,by simp only [Frame.handled,missed]⟩

theorem Frame.refusal_heard {frame : Frame} (wants : frame.isOneWay = false) (fault : LockFault) :
    ∃ answer, frame.answered (.error (.remote fault.message)) = some answer ∧ answer.request = frame.request ∧
      Caller.resultOf answer = .error (.remote fault.words) :=
  ⟨_,Frame.answered_answer wants (.error fault),Frame.answer_request frame _,Caller.resultOf_refused frame fault⟩

-- A frame has its way only as the message that both its payload and its label
-- say it is. A callback is nothing to the lock service, and a request nothing to
-- a client.
theorem Frame.label_decides (frame : Frame) :
    (∀ {σ : Type} (service : Service σ), service.Heeds frame) ∧
    (∀ turns : Borrower.Turns, turns.alive = true → turns.borrower.Lived → turns.Heeds frame) ∧
    (∀ (turns : Borrower.Turns) k purpose lock e,
      (turns.borrower.At k purpose lock .returned e → ∀ index, turns.requests[index]? = some k →
        ∀ said, turns.Hears index k purpose lock e said) ∧
      ∀ outcome, k ∈ turns.framed → turns.borrower.At k purpose lock (.closing outcome) e →
        turns.Closes k lock outcome) ∧
    (∀ {m : Type → Type} [Monad m],
      (∀ perform : Request → m (Except LockFault Reply), frame.Serves Request.opcode Request.shown perform) ∧
      ∀ perform : Callback → m (Except LockFault CallbackReply),
        frame.Serves Callback.opcode Callback.shown perform) ∧
    ((∀ request, frame.Bears Request.opcode request → frame.opcode.isCallback = false) ∧
      ∀ callback, frame.Bears Callback.opcode callback → frame.opcode.isCallback = true) ∧
    (frame.isOneWay = false → ∀ fault : LockFault, ∃ answer,
      frame.answered (.error (.remote fault.message)) = some answer ∧ answer.request = frame.request ∧
      Caller.resultOf answer = .error (.remote fault.words)) :=
  ⟨fun service => service.heeds frame,fun _ alive lived => Borrower.Turns.heeds alive lived frame,
    fun turns _ _ _ _ => ⟨fun here _ waits => Borrower.Turns.reply_hears waits here,fun _ => turns.resume_closing⟩,
    ⟨frame.serves _ _,frame.serves _ _⟩,⟨fun _ => Bears.of_request,fun _ => Bears.of_callback⟩,refusal_heard⟩

def summons : Frame := .make .revoke 3 (Coded.encode (Callback.revoke ⟨7⟩))

-- The octets of a retry begin a release too, but there is no client in them.
def misnomer : Frame := .make .release 3 (Coded.encode (Callback.retry ⟨7⟩))

def keeper : Borrower.Turns := {
  borrower := (Borrower.led [.begin .acquire ⟨7⟩,.advance 0,.advance 0,.advance 0,.answer 0 (.ok .granted),.advance 0,
    .begin .release ⟨7⟩]).2 }

theorem Frame.label_decides_retry :
    (keeper.alive = true ∧ (keeper.borrower.entry ⟨7⟩).state = .cachedFree ∧
      summons.Bears Callback.opcode (.revoke ⟨7⟩) ∧
      (∀ request, ¬ misnomer.Bears Request.opcode request) ∧ misnomer.isOneWay = false) ∧
    (keeper.Recalls ⟨7⟩ (keeper.handle summons) ∧ keeper.Heeds misnomer) ∧
    ((∃ e, ∀ said, (keeper.handle summons).Hears 0 2 .revoke ⟨7⟩ e said) ∧
      ∃ later, (keeper.handle summons).reply 0 (.ok .released) = some later ∧ later.Closes 2 ⟨7⟩ (.ok ())) ∧
    ∀ fault : LockFault, ∃ answer,
      misnomer.answered (.error (.remote fault.message)) = some answer ∧ answer.request = 3 ∧
      Caller.resultOf answer = .error (.remote fault.words) := by
  have lived : keeper.borrower.Lived := ⟨_,_,_,_,Borrower.led_life _⟩
  have borne : summons.Bears Callback.opcode (.revoke ⟨7⟩) := bears_callback_iff.mpr ⟨List.prefix_refl _,rfl⟩
  have unborne : ∀ request, ¬ misnomer.Bears Request.opcode request := by
    intro request bears
    have unread : Coded.decode (α := Request) misnomer.payload = .error .numberCut := rfl
    cases unread.symm.trans bears.read
  obtain ⟨-,recalled,later,-⟩ := summons.label_decides
  obtain ⟨-,heeds,-,-,-,heard⟩ := misnomer.label_decides
  have recalls := (recalled keeper rfl lived).revoked _ borne
  obtain ⟨e,waits,requests,framed⟩ := recalls.away rfl rfl
  have first : (keeper.handle summons).requests[0]? = some 2 := by
    rw [requests]
    rfl
  have hears := (later _ 2 _ _ e).1 waits 0 first
  obtain ⟨_,back,means,-,closing,replied⟩ := hears (.ok .released)
  cases means
  have mine : 2 ∈ (keeper.handle summons).framed := framed ▸ List.mem_cons_self
  exact ⟨⟨rfl,rfl,borne,unborne,rfl⟩,⟨recalls,heeds keeper rfl lived⟩,
    ⟨⟨e,hears⟩,_,replied,(later _ 2 _ _ e).2 _ mine closing⟩,heard rfl⟩

end LockLender
