import LockLender.Proofs.Fleet.Exclusion

namespace LockLender
open Borrower
open Function (update)

structure Borrower.Seat.Flows (owns revoking queued : Prop) (revokes retries : Nat) (s : Seat) : Prop where
  told : owns → revoking → 0 < revokes ∨ s.revoked = true ∨ s.stage = .returning
  kept : s.stage = .free → s.revoked = true → 0 < s.waiting
  heard : s.stage = .waiting → s.signal = false → queued ∨ 0 < retries
  home : s.stage ≠ .unreturned

namespace Borrower.Seat
variable {owns revoking queued owns' revoking' queued' astray : Prop} {revokes retries revokes' retries' : Nat}
  {s s' : Seat} {got : Bool} {input : Input}

theorem Step.flows (step : Seat.Step input s got s')
    (here : input = .begin .acquire ∨ input = .begin .release ∨ input = .advance)
    (left : s.stage = .returned → ¬ owns) (flows : s.Flows owns revoking queued revokes retries) :
    s'.Flows owns revoking queued revokes retries := by
  obtain ⟨told,kept,heard,home⟩ := flows
  have off {stage : Stage} (there : s.stage = stage) (other : stage ≠ .returning) (own : owns) (wanted : revoking) :
      0 < revokes ∨ s.revoked = true := by
    rcases told own wanted with due | known | away
    · exact .inl due
    · exact .inr known
    · exact absurd (there.symm.trans away) other
  cases step with
  | surrender | recalled | remember => simp at here
  | signal | stale => simp at here
  | arrive => exact ⟨told,fun _ _ => Nat.succ_pos _,heard,home⟩
  | misplaced | rest => exact ⟨told,kept,heard,home⟩
  | giveBack => exact ⟨fun _ _ => .inr (.inr rfl),nofun,nofun,nofun⟩
  | keep held needed =>
      exact ⟨fun own wanted => (off held nofun own wanted).imp_right .inl,fun _ known => needed known,nofun,nofun⟩
  | hit free => exact ⟨fun own wanted => (off free nofun own wanted).imp_right .inl,nofun,nofun,nofun⟩
  | turnAsking idle => exact ⟨fun own wanted => (off idle nofun own wanted).imp_right .inl,nofun,nofun,nofun⟩
  | heed waiting => exact ⟨fun own wanted => (off waiting nofun own wanted).imp_right .inl,nofun,nofun,nofun⟩
  | got granted => exact ⟨fun own wanted => (off granted nofun own wanted).imp_right .inl,nofun,nofun,nofun⟩
  | gaveUp refused => exact ⟨fun own wanted => (off refused nofun own wanted).imp_right .inl,nofun,nofun,nofun⟩
  | closed returned => exact ⟨fun own => absurd own (left returned),nofun,nofun,nofun⟩
  | reopened unreturned => exact absurd unreturned home

theorem Step.flows_revoke (step : Seat.Step (.begin .revoke) s got s') (left : s.stage = .returned → ¬ owns)
    (flows : s.Flows owns revoking queued revokes retries) : s'.Flows owns revoking queued revokes' retries := by
  obtain ⟨told,kept,heard,home⟩ := flows
  cases step with
  | surrender => exact ⟨fun _ _ => .inr (.inr rfl),nofun,nofun,nofun⟩
  | recalled away =>
      refine ⟨fun own _ => ?_,kept,heard,home⟩
      cases stage : s.stage <;> simp only [stage,Stage.state,reduceCtorEq] at away
      case returning => exact .inr (.inr rfl)
      case returned => exact absurd own (left stage)
      case unreturned => exact absurd stage home
  | remember busy => exact ⟨fun _ _ => .inr (.inl rfl),fun free => absurd free busy,heard,home⟩

theorem Step.flows_retry (step : Seat.Step .retry s got s')
    (flows : s.Flows owns revoking queued revokes retries) : s'.Flows owns revoking queued revokes retries' := by
  obtain ⟨told,kept,heard,home⟩ := flows
  cases step with
  | signal => exact ⟨told,kept,nofun,home⟩
  | stale known =>
      refine ⟨told,kept,fun waiting deaf => ?_,home⟩
      rw [known (by rw [waiting]; rfl)] at deaf
      cases deaf

theorem Flows.mono (flows : s.Flows owns revoking queued revokes retries)
    (told : owns' → revoking' → owns ∧ revoking ∨ revokes < revokes') (more : revokes ≤ revokes')
    (heard : queued → queued' ∨ retries < retries') (also : retries ≤ retries') :
    s.Flows owns' revoking' queued' revokes' retries' := by
  refine ⟨fun own wanted => ?_,flows.kept,fun waiting deaf => ?_,flows.home⟩
  · rcases told own wanted with ⟨own,wanted⟩ | due
    · exact (flows.told own wanted).imp_left fun due => Nat.lt_of_lt_of_le due more
    · exact .inl (Nat.lt_of_le_of_lt (Nat.zero_le _) due)
  · rcases flows.heard waiting deaf with inLine | due
    · exact (heard inLine).imp_right fun due => Nat.lt_of_le_of_lt (Nat.zero_le _) due
    · exact .inr (Nat.lt_of_lt_of_le due also)

theorem Flows.enter (flows : s.Flows owns revoking queued revokes retries) {stage : Stage}
    (leaves : owns' → s.stage ≠ .returning) (enters : stage ≠ .free ∧ stage ≠ .unreturned)
    (told : owns' → revoking' → owns ∧ revoking ∨ revokes < revokes') (more : revokes ≤ revokes')
    (heard : stage = .waiting → queued') :
    Seat.Flows owns' revoking' queued' revokes' retries' { s with stage } := by
  refine ⟨fun own wanted => ?_,fun free => absurd free enters.1,fun waiting _ => .inl (heard waiting),enters.2⟩
  rcases told own wanted with ⟨before,revoking⟩ | due
  · rcases flows.told before revoking with due | known | away
    · exact .inl (Nat.lt_of_lt_of_le due more)
    · exact .inr (.inl known)
    · exact absurd away (leaves own)
  · exact .inl (Nat.lt_of_le_of_lt (Nat.zero_le _) due)

end Borrower.Seat

structure Fleet.Trouble.Slight (trouble : Fleet.Trouble) : Prop where
  asks : trouble.askLost = false
  returns : trouble.returnRefused = false ∧ trouble.returnLost = false
  notices : trouble.noticeLost = false

namespace Outlook
variable {trouble : Fleet.Trouble} {lock : LockId} {o next : Outlook} {forfeit : Option ClientId}
  {client other : ClientId}

def Flows (o : Outlook) (client : ClientId) : Prop :=
  (o.seat client).Flows (o.loan.owner = some client) (o.loan.revoking = true) (client ∈ o.loan.line)
    (o.revokes client) (o.retries client)

theorem flows_seat (flows : ∀ client, o.Flows client) {seat : Seat} {revokes retries holds : ClientId → Nat}
    (here : seat.Flows (o.loan.owner = some client) (o.loan.revoking = true) (client ∈ o.loan.line)
      (revokes client) (retries client))
    (others : ∀ other, other ≠ client → revokes other = o.revokes other ∧ retries other = o.retries other)
    (other : ClientId) : Flows ⟨o.loan,update o.seat client seat,retries,revokes,holds⟩ other := by
  unfold Flows
  dsimp only
  by_cases acting : other = client
  · subst acting
    rw [Function.update_self]
    exact here
  · obtain ⟨revokes,retries⟩ := others other acting
    rw [Function.update_of_ne acting,revokes,retries]
    exact flows other

theorem flows_asked (flows : ∀ client, o.Flows client) (orderly : o.loan.Orderly) {status : Status}
    {told : List Notice} {loan : Loan} (asking : (o.seat client).stage = .asking)
    (asked : Loan.Asked client lock o.loan status told loan)
    (changed : next = { o.enter client (askStage (.ok status.reply)) with loan }.tell lock told) (other : ClientId) :
    next.Flows other := by
  subst changed
  have wanted (own : loan.owner = some other) (revoking : loan.revoking = true) :
      (o.loan.owner = some other ∧ o.loan.revoking = true) ∨
        o.revokes other < o.revokes other + told.count (.revoke other lock) :=
    (asked.told orderly own revoking).imp_right Nat.lt_add_of_pos_right
  have before := flows other
  unfold Flows
  by_cases acting : other = client
  · subst acting
    rw [tell_seat,show Outlook.seat { o.enter other _ with loan } other = _ from enter_self o other _]
    refine before.enter (fun _ => by rw [asking]; nofun) ?_ wanted (Nat.le_add_right _ _) ?_
    · cases status <;> exact ⟨nofun,nofun⟩
    · intro waiting
      rcases asked.self with ⟨rfl,_⟩ | ⟨_,queued⟩
      · cases waiting
      · exact queued
  · rw [tell_seat,show Outlook.seat { o.enter client _ with loan } other = _ from enter_other o acting _]
    exact before.mono wanted (Nat.le_add_right _ _) (fun queued => .inl ((asked.others acting).2.mpr queued))
      (Nat.le_add_right _ _)

theorem flows_returned (flows : ∀ client, o.Flows client) (orderly : o.loan.Orderly) {told : List Notice}
    {loan : Loan} (returned : Loan.Returned client lock o.loan told loan)
    (changed : next = { o.enter client .returned with loan }.tell lock told) (other : ClientId) :
    next.Flows other := by
  subst changed
  have before := flows other
  unfold Flows
  by_cases acting : other = client
  · subst acting
    have left := (returned.self orderly).1
    rw [tell_seat,show Outlook.seat { o.enter other _ with loan } other = _ from enter_self o other _]
    exact before.enter (fun own => absurd own left) ⟨nofun,nofun⟩ (fun own => absurd own left)
      (Nat.le_add_right _ _) nofun
  · rw [tell_seat,show Outlook.seat { o.enter client _ with loan } other = _ from enter_other o acting _]
    refine before.mono (fun own revoking => ?_) (Nat.le_add_right _ _) (fun queued => ?_) (Nat.le_add_right _ _)
    · rcases returned.told own revoking with ⟨_,own,revoking⟩ | due
      · exact .inl ⟨own,revoking⟩
      · exact .inr (Nat.lt_add_of_pos_right due)
    · rcases returned.others acting with ⟨_,_,stays⟩ | ⟨signaled,_,_⟩
      · exact .inl (stays.mpr queued)
      · exact .inr (Nat.lt_add_of_pos_right (by rw [signaled]; exact Nat.one_pos))

theorem Step.flows (step : o.Step trouble lock forfeit next) (slight : trouble.Slight) (orderly : o.loan.Orderly)
    (left : ∀ client, (o.seat client).stage = .returned → o.loan.owner ≠ some client)
    (flows : ∀ client, o.Flows client) (other : ClientId) : next.Flows other := by
  cases step with
  | rest => exact flows other
  | act client input got seat kind step =>
      have here : input = .begin .acquire ∨ input = .begin .release ∨ input = .advance := kind.imp_right .inr
      exact flows_seat flows (step.flows here (left client) (flows client)) (fun _ _ => ⟨rfl,rfl⟩) other
  | release client seat _ step =>
      exact flows_seat flows (step.flows (.inr (.inl rfl)) (left client) (flows client)) (fun _ _ => ⟨rfl,rfl⟩) other
  | revoked client seat _ step =>
      exact flows_seat flows (step.flows_revoke (left client) (flows client))
        (fun _ differ => ⟨Function.update_of_ne differ ..,rfl⟩) other
  | signaled client seat _ _ step =>
      exact flows_seat flows (step.flows_retry (flows client))
        (fun _ differ => ⟨rfl,Function.update_of_ne differ ..⟩) other
  | asked client status told loan asking asked => exact flows_asked flows orderly asking asked rfl other
  | returned client told loan _ returned => exact flows_returned flows orderly returned rfl other
  | askRefused client _ asking =>
      have here : Seat.Flows (o.loan.owner = some client) (o.loan.revoking = true) (client ∈ o.loan.line)
          (o.revokes client) (o.retries client) { o.seat client with stage := .refused } :=
        (flows client).enter (fun _ => by rw [asking]; nofun) ⟨nofun,nofun⟩ (fun own wanted => .inl ⟨own,wanted⟩)
          (Nat.le_refl _) nofun
      exact flows_seat flows here (fun _ _ => ⟨rfl,rfl⟩) other
  | askLost _ allowed =>
      rw [slight.asks] at allowed
      cases allowed
  | returnRefused _ allowed =>
      rw [slight.returns.1] at allowed
      cases allowed
  | returnLost _ allowed =>
      rw [slight.returns.2] at allowed
      cases allowed
  | revokeLost _ allowed | retryLost _ allowed | revokeFailed _ allowed =>
      rw [slight.notices] at allowed
      cases allowed

theorem Step.pressed (step : o.Step trouble lock forfeit next) (slight : trouble.Slight) (pressed : o.loan.Pressed) :
    next.loan.Pressed := by
  cases step with
  | asked _ _ _ _ _ asked => exact asked.pressed pressed
  | returned _ _ _ _ returned => exact returned.pressed pressed
  | revokeFailed _ allowed =>
      rw [slight.notices] at allowed
      cases allowed
  | _ => exact pressed

end Outlook
namespace Fleet
variable {trouble : Trouble} {roll : Roll} {past : History} {fleet : Fleet} {client : ClientId} {lock : LockId}
  {k : Nat} {call : Call}

theorem Run.flows (run : Run trouble roll past fleet) (slight : trouble.Slight) (lock : LockId) :
    (∀ client, (fleet.outlook past lock).Flows client) ∧ (fleet.lender.loan lock).Pressed := by
  have all := run.always lock (fun o astray => o.Tidy ∧ (∀ client, o.Fits astray client) ∧
    (∀ client, o.Flows client) ∧ o.loan.Pressed)
    ⟨⟨Loan.new_orderly,fun _ => rfl⟩,fun _ => ⟨nofun,nofun,fun lost => lost,rfl⟩,
      fun _ => ⟨nofun,nofun,nofun,nofun⟩,fun more => absurd rfl more⟩ ?_
  · exact all.2.2
  · rintro o forfeit next astray step ⟨tidy,fits,flows,pressed⟩
    have left (client : ClientId) (returned : (o.seat client).stage = .returned) :
        o.loan.owner ≠ some client := by
      have fit := fits client
      simp only [Outlook.Fits,Seat.Fits,returned] at fit
      exact fit.1
    exact ⟨step.tidy tidy,fun client => step.fits slight.asks tidy.orderly (fits client),
      step.flows slight tidy.orderly left flows,step.pressed slight pressed⟩

structure Quiet (fleet : Fleet) : Prop where
  calls : ∀ client k, fleet.step (.advance client k) = none
  requests : fleet.requests = []
  replies : fleet.replies = []
  errands : fleet.errands = []
  notices : fleet.notices = []

theorem Quiet.pending (quiet : fleet.Quiet) (notice : Notice) : fleet.pending notice = 0 := by
  unfold Fleet.pending
  rw [quiet.notices,quiet.errands]
  rfl

theorem Quiet.unawaited (quiet : fleet.Quiet) (intact : fleet.Intact) (client : ClientId) (k : Nat) :
    awaited client (fleet.call? client k) = none := by
  have mail := intact.mailed client k
  rw [quiet.requests,quiet.replies] at mail
  cases mail with
  | quiet idle => exact idle

theorem Quiet.asleep (quiet : fleet.Quiet) (intact : fleet.Intact) (found : fleet.call? client k = some call) :
    (call.place = .parked ∨ call.place = .dozing) ∧ k ∈ (fleet.entry client call.lock).watchers := by
  have idle := quiet.unawaited intact client k
  have stuck := quiet.calls client k
  rw [found] at idle
  obtain ⟨b,member,calls⟩ := Option.bind_eq_some_iff.mp found
  rw [entry_of_member member]
  simp only [step,member,Option.bind_eq_bind,Option.bind_some,Option.pure_def,Option.bind_eq_none_iff,
    reduceCtorEq,imp_false] at stuck
  have still : b.advance k = none := by
    cases advanced : b.advance k with
    | none => rfl
    | some outcome => exact absurd advanced (stuck outcome)
  apply ((advance_eq_none calls).mp still).resolve_right
  rintro (place | place) <;> simp [awaited,Call.awaits,place] at idle

theorem Quiet.dozing (quiet : fleet.Quiet) (intact : fleet.Intact)
    (engaged : (fleet.state client lock).engaged = true) :
    fleet.state client lock = .acquiring ∧ ∃ k call, fleet.call? client k = some call ∧ call.lock = lock ∧
      call.place = .dozing ∧ k ∈ (fleet.entry client lock).watchers := by
  have seated : fleet.seat client lock ≠ {} := by
    intro new
    rw [← seat_state intact.staffed,new] at engaged
    cases engaged
  obtain ⟨b,member⟩ := member_of_seat seated
  have entry := entry_of_member member lock
  unfold state at engaged ⊢
  rw [entry] at engaged ⊢
  obtain ⟨k,duty⟩ := (intact.staffed _ _ member).1.manned lock engaged
  obtain ⟨call,calls,rfl,duty⟩ := crew_eq_some.mp duty
  have found : fleet.call? client k = some call := (call?_of_member member k).trans calls
  obtain ⟨parked | dozing,registered⟩ := quiet.asleep intact found
  · rw [parked] at duty
    cases duty
  · rw [dozing] at duty
    rw [entry] at registered
    exact ⟨(Option.some.inj duty).symm,k,call,found,rfl,dozing,registered⟩

theorem Quiet.acquiring (quiet : fleet.Quiet) (intact : fleet.Intact)
    (acquiring : fleet.state client lock = .acquiring) :
    (fleet.seat client lock).stage = .waiting ∧ (fleet.seat client lock).signal = false := by
  obtain ⟨_,k,call,found,rfl,dozing,registered⟩ := quiet.dozing intact (by rw [acquiring]; rfl)
  obtain ⟨b,member,calls⟩ := Option.bind_eq_some_iff.mp found
  obtain ⟨sound,_,awake⟩ := intact.staffed _ _ member
  rw [entry_of_member member] at registered
  rw [seat_of_member member]
  have silent : fleet.lettersTo client k = none := by
    unfold lettersTo
    rw [quiet.replies]
    rfl
  refine ⟨sound.stage_of_due calls ?_,awake.dozing k call calls dozing registered⟩
  rw [silent]
  simp only [Call.due,dozing,Place.stage?]

theorem Quiet.not_releasing (quiet : fleet.Quiet) (intact : fleet.Intact) :
    fleet.state client lock ≠ .releasing := by
  intro releasing
  have acquiring := (quiet.dozing intact (by rw [releasing]; rfl)).1
  rw [releasing] at acquiring
  cases acquiring

theorem Quiet.busy (quiet : fleet.Quiet) (intact : fleet.Intact) (found : fleet.call? client k = some call) :
    fleet.state client call.lock = .held ∨ fleet.state client call.lock = .acquiring := by
  have away : fleet.state client call.lock ≠ .releasing := quiet.not_releasing intact
  obtain ⟨b,member,calls⟩ := Option.bind_eq_some_iff.mp found
  obtain ⟨sound,_,awake⟩ := intact.staffed _ _ member
  have entry := entry_of_member member call.lock
  obtain ⟨parked | dozing,registered⟩ := quiet.asleep intact found
  · rw [entry] at registered
    have busy := awake.parked k call calls parked registered
    unfold state at away ⊢
    rw [entry] at away ⊢
    cases state : (b.entry call.lock).state <;> simp [state,LockState.busy] at busy away ⊢
  · right
    unfold state
    rw [entry]
    exact sound.fits call.lock k _ (crew_eq_some.mpr ⟨call,calls,rfl,by rw [dozing]; rfl⟩)

theorem caller_of_waiting (intact : fleet.Intact) (waits : 0 < (fleet.seat client lock).waiting) :
    ∃ k call, fleet.call? client k = some call ∧ call.lock = lock ∧ call.purpose = .acquire := by
  have seated : fleet.seat client lock ≠ {} := by
    intro new
    rw [new] at waits
    cases waits
  obtain ⟨b,member⟩ := member_of_seat seated
  obtain ⟨sound,counted,_⟩ := intact.staffed _ _ member
  rw [seat_of_member member] at waits
  change 0 < (b.entry lock).waiting at waits
  rw [counted lock,Finset.card_pos] at waits
  obtain ⟨k,caller⟩ := waits
  obtain ⟨call,found,own,purpose⟩ := (mem_callers sound.numbered).mp caller
  exact ⟨k,call,(call?_of_member member _).trans found,own,purpose⟩

theorem release_of_returning (intact : fleet.Intact) (returning : (fleet.seat client lock).stage = .returning) :
    ∃ k call, fleet.call? client k = some call ∧ call.lock = lock ∧
      (call.place = .returning ∨ fleet.requests.find? (client,k) = some (.release lock client)) := by
  have seated : fleet.seat client lock ≠ {} := by
    intro new
    rw [new] at returning
    cases returning
  obtain ⟨b,member⟩ := member_of_seat seated
  rw [seat_of_member member] at returning
  change b.stage (fleet.lettersTo client) lock = .returning at returning
  have sound := (intact.staffed _ _ member).1
  have state := sound.stage_state (fleet.lettersTo client) lock
  rw [returning] at state
  obtain ⟨k,duty⟩ := sound.manned lock (by rw [← state]; rfl)
  obtain ⟨stage,there,_⟩ := stageOf_of_duty duty (fleet.lettersTo client)
  have same := (sound.stage_of_call there).symm.trans returning
  subst same
  obtain ⟨call,calls,rfl,stands⟩ := crew_eq_some.mp there
  have found := (call?_of_member member k).trans calls
  refine ⟨k,call,found,rfl,?_⟩
  have mail := intact.mailed client k
  rw [found] at mail
  apply (Call.due_returning stands).imp_right
  intro out
  rw [show fleet.replies.find? (client,k) = none from out.2] at mail
  exact mail.of_awaited (by simp [awaited,Call.awaits,out.1])

theorem Run.owner_told (run : Run trouble roll past fleet) (slight : trouble.Slight)
    (sought : fleet.line lock ≠ []) : ∃ owner, fleet.owner lock = some owner ∧
      (0 < fleet.pending (.revoke owner lock) ∨ (fleet.entry owner lock).revoked = true ∨
        (fleet.seat owner lock).stage = .returning) := by
  obtain ⟨flows,pressed⟩ := run.flows slight lock
  have wanted := pressed sought
  cases owned : fleet.owner lock with
  | none =>
      have calm := ((run.tidy lock).orderly.unowned owned).1
      exact absurd calm sought
  | some owner =>
      have told := (flows owner).told owned wanted
      refine ⟨owner,rfl,?_⟩
      rw [← seat_revoked]
      exact told

theorem Run.caller_of_wanted (run : Run trouble roll past fleet) (slight : trouble.Slight)
    (free : fleet.state client lock = .cachedFree) (wanted : (fleet.entry client lock).revoked = true) :
    ∃ k call, fleet.call? client k = some call ∧ call.lock = lock ∧ call.purpose = .acquire := by
  rw [← seat_revoked] at wanted
  exact caller_of_waiting run.intact (((run.flows slight lock).1 client).kept (run.stage_free.mpr free) wanted)

theorem Run.owner_quiet (run : Run trouble roll past fleet) (slight : trouble.Slight) (quiet : fleet.Quiet)
    (own : fleet.owner lock = some client) (wanted : (fleet.entry client lock).revoked = true) :
    fleet.state client lock = .held := by
  have fits := run.fits slight.asks client lock
  have flows := (run.flows slight lock).1 client
  have state := run.seat_state client lock
  cases stage : (fleet.seat client lock).stage <;>
    simp only [Outlook.Fits,Seat.Fits,show ((fleet.outlook past lock).seat client).stage = _ from stage] at fits <;>
    rw [stage] at state
  case idle | asking | refused | returned => exact absurd own fits.1
  case held => exact state.symm
  case waiting =>
      have deaf := (quiet.acquiring run.intact state.symm).2
      rcases flows.heard stage deaf with queued | due
      · exact absurd queued ((run.tidy lock).orderly.apart client own)
      · rw [show (fleet.outlook past lock).retries client = 0 from quiet.pending _] at due
        cases due
  case granted =>
      rw [(quiet.acquiring run.intact state.symm).1] at stage
      cases stage
  case free =>
      obtain ⟨k,call,found,rfl,_⟩ := run.caller_of_wanted slight state.symm wanted
      rcases quiet.busy run.intact found with held | acquiring
      · exact held
      · rw [acquiring] at state
        cases state
  case returning | unreturned => exact absurd state.symm (quiet.not_releasing run.intact)

-- Nobody waits for a lock that nobody holds when nothing more can happen, for
-- whoever others wait for will be told, and is not told in vain.
theorem Run.no_stranded_caller (run : Run trouble roll past fleet) (slight : trouble.Slight) (lock : LockId) :
    (fleet.Quiet → (∀ client, (client,lock) ∉ holds past) →
      ∀ client k call, fleet.call? client k = some call → call.purpose = .acquire → call.lock ≠ lock) ∧
    (fleet.line lock ≠ [] → ∃ owner, fleet.owner lock = some owner ∧
      (0 < fleet.pending (.revoke owner lock) ∨ (fleet.entry owner lock).revoked = true ∨
        ∃ k call, fleet.call? owner k = some call ∧ call.lock = lock ∧
          (call.place = .returning ∨ fleet.requests.find? (owner,k) = some (.release lock owner)))) ∧
    ∀ client, fleet.state client lock = .cachedFree → (fleet.entry client lock).revoked = true →
      ∃ k call, fleet.call? client k = some call ∧ call.lock = lock ∧ call.purpose = .acquire := by
  refine ⟨?_,?_,fun client => run.caller_of_wanted slight⟩
  · intro quiet unheld client k call found _ here
    subst here
    have unheld (client : ClientId) : fleet.state client call.lock ≠ .held :=
      fun held => unheld client (run.mem_holds.mpr held)
    have acquiring := (quiet.busy run.intact found).resolve_left (unheld client)
    obtain ⟨waiting,deaf⟩ := quiet.acquiring run.intact acquiring
    have sought : fleet.line call.lock ≠ [] := by
      rcases ((run.flows slight call.lock).1 client).heard waiting deaf with queued | due
      · exact List.ne_nil_of_mem queued
      · rw [show (fleet.outlook past call.lock).retries client = 0 from quiet.pending _] at due
        cases due
    obtain ⟨owner,own,due | wanted | returning⟩ := run.owner_told slight sought
    · rw [quiet.pending] at due
      cases due
    · exact unheld owner (run.owner_quiet slight quiet own wanted)
    · have away := run.seat_state owner call.lock
      rw [returning] at away
      exact quiet.not_releasing run.intact away.symm
  · intro sought
    obtain ⟨owner,own,told⟩ := run.owner_told slight sought
    exact ⟨owner,own,told.imp_right (.imp_right (release_of_returning run.intact))⟩

theorem advance_without_calls (idle : ∀ pair ∈ fleet.members, pair.2.calls = []) (client : ClientId) (k : Nat) :
    fleet.step (.advance client k) = none := by
  cases member : fleet.members.find? client with
  | none => simp [step,member]
  | some b =>
      have none : b.calls = [] := idle _ (Table.mem_of_find? member)
      simp [step,member,advance,none,Table.find?]

-- Bob wants what Ada has; Ada has another caller, who comes first; Ada has given
-- it to Bob, who has let it go.
def sought : History × Fleet :=
  played { askRefused := true, retryLate := true } pair (asks ada 0 pen ++ asks bob 0 pen)

def spared : History × Fleet :=
  played { askRefused := true, retryLate := true } pair
    (asks ada 0 pen ++ [.begin ada .acquire pen] ++ asks bob 0 pen ++ tells 0 ++ [.begin ada .release pen])

def rested : History × Fleet :=
  played { askRefused := true, retryLate := true } pair
    (handover ++ [.deliver ada 2,.advance ada 2,.begin bob .release pen])

theorem rested_quiet : rested.2.Quiet where
  calls := by
    apply advance_without_calls
    have idle : (rested.2.members.all fun pair => pair.2.calls.isEmpty) = true := by decide
    simpa using idle
  requests := by rfl
  replies := by rfl
  errands := by rfl
  notices := by rfl

theorem no_stranded_caller_played :
    (∀ client k call, rested.2.call? client k = some call → call.purpose = .acquire → call.lock ≠ pen) ∧
    (∃ owner, sought.2.owner pen = some owner ∧
      (0 < sought.2.pending (.revoke owner pen) ∨ (sought.2.entry owner pen).revoked = true ∨
        ∃ k call, sought.2.call? owner k = some call ∧ call.lock = pen ∧
          (call.place = .returning ∨ sought.2.requests.find? (owner,k) = some (.release pen owner)))) ∧
    ∃ k call, spared.2.call? ada k = some call ∧ call.lock = pen ∧ call.purpose = .acquire := by
  have slight : Trouble.Slight { askRefused := true, retryLate := true } := ⟨rfl,⟨rfl,rfl⟩,rfl⟩
  have unheld (client : ClientId) : (client,pen) ∉ holds rested.1 := by
    rw [show holds rested.1 = [] by decide]
    nofun
  exact ⟨((played_run _ pair _).no_stranded_caller slight pen).1 rested_quiet unheld,
    ((played_run _ pair _).no_stranded_caller slight pen).2.1 (by decide : sought.2.line pen ≠ []),
    ((played_run _ pair _).no_stranded_caller slight pen).2.2 ada (by decide : spared.2.state ada pen = .cachedFree)
      (by decide)⟩

end Fleet
end LockLender
