import LockLender.Proofs.Fleet.Holding

namespace LockLender
open Borrower
open Function (update)

-- How a client's standing fits the lender's record and the retries on their
-- way to it. A retry is on its way only to a client that still waits and has
-- come to be owner.
def Borrower.Seat.Fits (owns queued astray : Prop) (retries : Nat) (s : Seat) : Prop :=
  match s.stage with
  | .idle | .refused => ¬ owns ∧ ¬ queued ∧ ¬ astray ∧ retries = 0
  | .asking => ¬ owns ∧ ¬ queued ∧ ¬ astray ∧ retries = 0 ∧ s.signal = false
  | .waiting => ¬ astray ∧ (queued ∧ retries = 0 ∧ s.signal = false ∨
      owns ∧ retries ≤ 1 ∧ (s.signal = true → retries = 0))
  | .granted => owns ∧ ¬ astray ∧ retries = 0
  | .returned => ¬ owns ∧ ¬ queued ∧ retries = 0
  | .held | .free | .returning | .unreturned => ¬ queued ∧ (owns ↔ ¬ astray) ∧ retries = 0

namespace Borrower.Seat
variable {owns queued astray : Prop} {retries : Nat} {s s' : Seat} {got : Bool} {input : Input}

theorem Fits.of_idle (fits : s.Fits owns queued astray retries) (idle : s.stage.state = .idle) : ¬ astray := by
  cases stage : s.stage <;> simp only [stage,Stage.state,reduceCtorEq] at idle
  simp only [Fits,stage] at fits
  exact fits.2.2.1

theorem Step.fits (step : Seat.Step input s got s') (other : input ≠ .retry) (apart : owns → ¬ queued)
    (fits : s.Fits owns queued astray retries) :
    s'.Fits owns queued (astray ∧ s'.stage.state ≠ .idle) retries := by
  have kept (same : s'.stage = s.stage) (deaf : s'.signal = s.signal) :
      s'.Fits owns queued (astray ∧ s'.stage.state ≠ .idle) retries := by
    have astray : (astray ∧ s'.stage.state ≠ .idle) = astray :=
      propext ⟨And.left,fun lost => ⟨lost,fun idle => fits.of_idle (same ▸ idle) lost⟩⟩
    rw [astray]
    unfold Fits
    rw [same,deaf]
    exact fits
  cases step with
  | signal | stale => exact absurd rfl other
  | arrive | misplaced | recalled | remember | rest => exact kept rfl rfl
  | giveBack held | keep held => simpa [Fits,held,Stage.state] using fits
  | surrender free | hit free => simpa [Fits,free,Stage.state] using fits
  | turnAsking idle =>
      simp only [Fits,idle] at fits
      simpa [Fits] using ⟨fits.1,fits.2.1,fun lost => absurd lost fits.2.2.1,fits.2.2.2⟩
  | heed waiting set =>
      simp only [Fits,waiting,set] at fits
      simp only [Fits]
      rcases fits with ⟨told,⟨_,_,⟨⟩⟩ | ⟨own,_,none⟩⟩
      exact ⟨own,fun lost => told lost.1,none trivial⟩
  | got granted =>
      simp only [Fits,granted] at fits
      exact ⟨apart fits.1,iff_of_true fits.1 fun lost => fits.2.1 lost.1,fits.2.2⟩
  | gaveUp refused =>
      simp only [Fits,refused] at fits
      exact ⟨fits.1,fits.2.1,fun lost => fits.2.2.1 lost.1,fits.2.2.2⟩
  | closed returned =>
      simp only [Fits,returned] at fits
      exact ⟨fits.1,fits.2.1,fun lost => lost.2 rfl,fits.2.2⟩
  | reopened unreturned => simpa [Fits,unreturned,Stage.state] using fits

theorem Fits.waits (fits : s.Fits owns queued astray retries) (due : 0 < retries) : s.stage = .waiting := by
  cases stage : s.stage
  case waiting => rfl
  all_goals
    simp only [Fits,stage] at fits
    simp [fits] at due

theorem Step.fits_retry (step : Seat.Step .retry s got s') (due : 0 < retries)
    (fits : s.Fits owns queued astray retries) :
    s'.Fits owns queued (astray ∧ s'.stage.state ≠ .idle) (retries - 1) := by
  have waits := fits.waits due
  simp only [Fits,waits] at fits
  rcases fits with ⟨told,⟨_,none,_⟩ | ⟨own,one,heard⟩⟩
  · omega
  cases step with
  | signal =>
      simp only [Fits,waits]
      exact ⟨fun lost => told lost.1,.inr ⟨own,by omega,fun _ => by omega⟩⟩
  | stale known =>
      have set := known (by rw [waits]; rfl)
      have none := heard set
      omega

theorem Fits.of_queued (fits : s.Fits owns queued astray retries) (apart : owns → ¬ queued) (inLine : queued) :
    s.stage = .waiting ∧ ¬ astray ∧ retries = 0 ∧ s.signal = false := by
  cases stage : s.stage <;> simp only [Fits,stage] at fits
  case waiting =>
      rcases fits with ⟨told,⟨_,none,deaf⟩ | ⟨own,_⟩⟩
      · exact ⟨rfl,told,none,deaf⟩
      · exact absurd inLine (apart own)
  case granted => exact absurd inLine (apart fits.1)
  all_goals simp [inLine] at fits

theorem Fits.lose_retry (fits : s.Fits owns queued astray retries) : s.Fits owns queued astray (retries - 1) := by
  cases stage : s.stage <;> simp only [Fits,stage] at fits ⊢
  case waiting =>
      rcases fits with ⟨told,⟨queued,none,deaf⟩ | ⟨own,one,heard⟩⟩
      · exact ⟨told,.inl ⟨queued,by omega,deaf⟩⟩
      · exact ⟨told,.inr ⟨own,by omega,fun set => by have none := heard set; omega⟩⟩
  all_goals simp only [fits,Nat.zero_sub,not_false_eq_true,and_self]

end Borrower.Seat
namespace Outlook
variable {trouble : Fleet.Trouble} {lock : LockId} {o next : Outlook} {astray : ClientId → Prop}
  {forfeit : Option ClientId} {client other : ClientId}

def Fits (o : Outlook) (astray : ClientId → Prop) (client : ClientId) : Prop :=
  (o.seat client).Fits (o.loan.owner = some client) (client ∈ o.loan.line) (astray client) (o.retries client)

theorem Fits.rest (fits : o.Fits astray other) (seat : next.seat other = o.seat other)
    (owns : next.loan.owner = some other ↔ o.loan.owner = some other)
    (queued : other ∈ next.loan.line ↔ other ∈ o.loan.line) (retries : next.retries other = o.retries other)
    (told : forfeit ≠ some other) : next.Fits (next.Strays forfeit astray) other := by
  have same : next.Strays forfeit astray other = astray other := by
    refine propext ⟨fun lost => lost.1.resolve_left told,fun lost => ⟨.inr lost,fun idle => ?_⟩⟩
    exact Seat.Fits.of_idle fits (seat ▸ idle) lost
  unfold Fits at fits ⊢
  rw [same,seat,propext owns,propext queued,retries]
  exact fits

theorem fits_actor (fits : (next.seat client).Fits (next.loan.owner = some client) (client ∈ next.loan.line)
      (astray client ∧ (next.seat client).stage.state ≠ .idle) (next.retries client)) :
    next.Fits (next.Strays none astray) client := by
  have same : next.Strays none astray client = (astray client ∧ (next.seat client).stage.state ≠ .idle) := by
    simp [Strays]
  unfold Fits
  rw [same]
  exact fits

theorem fits_seat (fits : o.Fits astray other) {seat : Seat} {revokes holds : ClientId → Nat}
    (here : other = client → seat.Fits (o.loan.owner = some client) (client ∈ o.loan.line)
      (astray client ∧ seat.stage.state ≠ .idle) (o.retries client))
    (changed : next = ⟨o.loan,update o.seat client seat,o.retries,revokes,holds⟩) :
    next.Fits (next.Strays none astray) other := by
  subst changed
  by_cases acting : other = client
  · subst acting
    apply fits_actor
    dsimp only
    rw [Function.update_self]
    exact here rfl
  · exact fits.rest (Function.update_of_ne acting ..) Iff.rfl Iff.rfl rfl nofun

section
variable {status : Status} {told : List Notice} {loan : Loan}

theorem Fits.asked_other (fits : o.Fits astray other) (asked : Loan.Asked client lock o.loan status told loan)
    (acting : other ≠ client) (seat : next.seat other = o.seat other) (record : next.loan = loan)
    (retries : next.retries other = o.retries other + told.count (.retry other lock)) :
    next.Fits (next.Strays none astray) other := by
  subst record
  obtain ⟨owns,queued⟩ := asked.others acting
  refine fits.rest seat owns queued ?_ nofun
  rw [retries,asked.unsignaled other,Nat.add_zero]

theorem Fits.returned_other (fits : o.Fits astray other) (returned : Loan.Returned client lock o.loan told loan)
    (orderly : o.loan.Orderly) (acting : other ≠ client) (seat : next.seat other = o.seat other)
    (record : next.loan = loan) (retries : next.retries other = o.retries other + told.count (.retry other lock)) :
    next.Fits (next.Strays none astray) other := by
  subst record
  rcases returned.others acting with ⟨quiet,owns,queued⟩ | ⟨told,queued,own⟩
  · refine fits.rest seat owns queued ?_ nofun
    rw [retries,quiet,Nat.add_zero]
  · obtain ⟨waiting,found,none,deaf⟩ := Seat.Fits.of_queued fits (orderly.apart other) queued
    apply fits_actor
    rw [seat,retries,told,none]
    simp only [Seat.Fits,waiting]
    exact ⟨fun lost => found lost.1,.inr ⟨own,Nat.le_refl 1,fun set => by rw [deaf] at set; cases set⟩⟩

end

theorem fits_asked (fits : o.Fits astray other) {status : Status} {told : List Notice} {loan : Loan}
    (asking : (o.seat client).stage = .asking) (asked : Loan.Asked client lock o.loan status told loan)
    (changed : next = { o.enter client (askStage (.ok status.reply)) with loan }.tell lock told) :
    next.Fits (next.Strays none astray) other := by
  subst changed
  by_cases acting : other = client
  · subst acting
    simp only [Fits,Seat.Fits,asking] at fits
    obtain ⟨_,_,told,none,deaf⟩ := fits
    apply fits_actor
    change Seat.Fits _ _ _ (o.retries other + _) ((o.enter other _).seat other)
    rw [enter_self,asked.unsignaled other,Nat.add_zero]
    rcases asked.self with ⟨rfl,own⟩ | ⟨rfl,queued⟩
    · exact ⟨own,fun lost => told lost.1,none⟩
    · exact ⟨fun lost => told lost.1,.inl ⟨queued,none,deaf⟩⟩
  · exact fits.asked_other asked acting (enter_other o acting _) rfl rfl

theorem fits_returned (fits : o.Fits astray other) (orderly : o.loan.Orderly) {told : List Notice}
    {loan : Loan} (returning : (o.seat client).stage = .returning)
    (returned : Loan.Returned client lock o.loan told loan)
    (changed : next = { o.enter client .returned with loan }.tell lock told) :
    next.Fits (next.Strays none astray) other := by
  subst changed
  by_cases acting : other = client
  · subst acting
    simp only [Fits,Seat.Fits,returning] at fits
    obtain ⟨unqueued,_,none⟩ := fits
    obtain ⟨left,line,quiet⟩ := returned.self orderly
    apply fits_actor
    change Seat.Fits _ _ _ (o.retries other + _) ((o.enter other _).seat other)
    rw [enter_self,quiet]
    exact ⟨left,fun queued => unqueued (line queued),none⟩
  · exact fits.returned_other returned orderly acting (enter_other o acting _) rfl rfl

theorem Step.fits (step : o.Step trouble lock forfeit next) (safe : trouble.askLost = false)
    (orderly : o.loan.Orderly) (fits : o.Fits astray other) : next.Fits (next.Strays forfeit astray) other := by
  have apart : o.loan.owner = some other → other ∉ o.loan.line := orderly.apart other
  have told : (none : Option ClientId) ≠ some other := nofun
  have began (purpose : Purpose) : Input.begin purpose ≠ .retry := nofun
  cases step with
  | rest => exact fits.rest rfl Iff.rfl Iff.rfl rfl told
  | act client input got seat kind step =>
      have own : input ≠ .retry := by rcases kind with rfl | rfl <;> nofun
      refine fits_seat fits ?_ rfl
      rintro rfl
      exact step.fits own apart fits
  | release client seat _ step =>
      refine fits_seat fits ?_ rfl
      rintro rfl
      exact step.fits (began _) apart fits
  | revoked client seat _ step =>
      refine fits_seat fits ?_ rfl
      rintro rfl
      exact step.fits (began _) apart fits
  | signaled client seat due _ step =>
      by_cases acting : other = client
      · subst acting
        apply fits_actor
        simp only [Function.update_self]
        exact step.fits_retry due fits
      · exact fits.rest (Function.update_of_ne acting ..) Iff.rfl Iff.rfl (Function.update_of_ne acting ..) told
  | asked client status told loan asking asked => exact fits_asked fits asking asked rfl
  | returned client told loan returning returned => exact fits_returned fits orderly returning returned rfl
  | askRefused client _ asking =>
      refine fits_seat fits ?_ rfl
      rintro rfl
      simp only [Fits,Seat.Fits,asking] at fits
      have here : Seat.Fits (o.loan.owner = some other) (other ∈ o.loan.line)
          (astray other ∧ Stage.refused.state ≠ .idle) (o.retries other) { o.seat other with stage := .refused } :=
        ⟨fits.1,fits.2.1,fun lost => fits.2.2.1 lost.1,fits.2.2.2.1⟩
      exact here
  | returnRefused client _ returning =>
      refine fits_seat fits ?_ rfl
      rintro rfl
      simp only [Fits,Seat.Fits,returning] at fits
      simpa [Seat.Fits,Stage.state] using fits
  | askLost client allowed =>
      rw [safe] at allowed
      cases allowed
  | returnLost client _ returned =>
      by_cases acting : other = client
      · subst acting
        simp only [Fits,Seat.Fits,returned] at fits
        have strays : (o.enter other .unreturned).Strays (some other) astray other :=
          ⟨.inl rfl,by rw [enter_self]; exact (by decide : Stage.unreturned.state ≠ .idle)⟩
        unfold Fits
        rw [enter_self]
        exact ⟨fits.2.1,iff_of_false fits.1 fun told => told strays,fits.2.2⟩
      · exact fits.rest (enter_other o acting _) Iff.rfl Iff.rfl rfl fun same => acting (Option.some.inj same).symm
  | revokeLost client => exact fits.rest rfl Iff.rfl Iff.rfl rfl told
  | retryLost client =>
      by_cases acting : other = client
      · subst acting
        apply fits_actor
        simp only [Function.update_self]
        have lost : (astray other ∧ (o.seat other).stage.state ≠ .idle) = astray other :=
          propext ⟨And.left,fun lost => ⟨lost,fun idle => Seat.Fits.of_idle fits idle lost⟩⟩
        rw [lost]
        exact Seat.Fits.lose_retry fits
      · exact fits.rest rfl Iff.rfl Iff.rfl (Function.update_of_ne acting ..) told
  | revokeFailed client _ own => exact fits.rest rfl Iff.rfl Iff.rfl rfl told

end Outlook

namespace Fleet
variable {trouble : Trouble} {roll : Roll} {past : History} {fleet : Fleet} {client : ClientId} {lock : LockId}

theorem Run.fits (run : Run trouble roll past fleet) (safe : trouble.askLost = false) (client : ClientId)
    (lock : LockId) : (fleet.outlook past lock).Fits (Astray · lock past) client := by
  have both := run.always lock (fun o astray => o.Tidy ∧ ∀ client, o.Fits astray client)
    ⟨⟨Loan.new_orderly,fun _ => rfl⟩,fun _ => ⟨nofun,nofun,fun lost => lost,rfl⟩⟩
    fun _ _ _ _ step kept => ⟨step.tidy kept.1,fun other => step.fits safe kept.1.orderly (kept.2 other)⟩
  exact both.2 client

theorem Run.owner_iff (run : Run trouble roll past fleet) (safe : trouble.askLost = false)
    (here : fleet.state client lock = .held ∨ fleet.state client lock = .cachedFree) :
    fleet.owner lock = some client ↔ ¬ Astray client lock past := by
  have fits := run.fits safe client lock
  rw [← run.stage_held,← run.stage_free] at here
  rcases here with stage | stage
  · simp only [Outlook.Fits,Seat.Fits,show ((fleet.outlook past lock).seat client).stage = _ from stage] at fits
    exact fits.2.1
  · simp only [Outlook.Fits,Seat.Fits,show ((fleet.outlook past lock).seat client).stage = _ from stage] at fits
    exact fits.2.1

theorem Run.not_astray (run : Run trouble roll past fleet) (safe : trouble.returnLost = false) (client : ClientId)
    (lock : LockId) : ¬ Astray client lock past := by
  have never := run.always lock (fun _ astray => ∀ client, ¬ astray client) (fun _ lost => lost) ?_
  · exact never client
  · intro o forfeit next astray step never client strays
    rcases strays.1 with told | before
    · cases step with
      | returnLost client allowed =>
          rw [safe] at allowed
          cases allowed
      | _ => cases told
    · exact never client before

theorem Run.owner_of_here (run : Run trouble roll past fleet)
    (safe : trouble.askLost = false ∧ trouble.returnLost = false)
    (here : fleet.state client lock = .held ∨ fleet.state client lock = .cachedFree) :
    fleet.owner lock = some client :=
  (run.owner_iff safe.1 here).mpr (run.not_astray safe.2 client lock)

-- Whatever else is delayed, overtaken, lost or refused, at most one client has
-- the lock in use and at most one local caller holds it, and who has it is its
-- owner.
theorem Run.mutual_exclusion (run : Run trouble roll past fleet)
    (safe : trouble.askLost = false ∧ trouble.returnLost = false) (lock : LockId) :
    (∀ one two, fleet.state one lock = .held → fleet.state two lock = .held → one = two) ∧
      ((holds past).filter (·.2 = lock)).length ≤ 1 ∧
      ∀ client, fleet.state client lock = .held ∨ fleet.state client lock = .cachedFree →
        fleet.owner lock = some client := by
  have single (one two : ClientId) (first : fleet.state one lock = .held) (second : fleet.state two lock = .held) :
      one = two := by
    have owner := run.owner_of_here safe (.inl first)
    rw [run.owner_of_here safe (.inl second)] at owner
    exact (Option.some.inj owner).symm
  refine ⟨single,?_,fun client => run.owner_of_here safe⟩
  have once : ((holds past).filter (·.2 = lock)).Nodup := run.holds_nodup.filter _
  rw [← List.toFinset_card_of_nodup once,Finset.card_le_one]
  rintro ⟨one,_⟩ first ⟨two,_⟩ second
  simp only [List.mem_toFinset,List.mem_filter,decide_eq_true_eq] at first second
  obtain ⟨first,rfl⟩ := first
  obtain ⟨second,rfl⟩ := second
  rw [single one two (run.mem_holds.mp first) (run.mem_holds.mp second)]

def handed : History × Fleet :=
  played { askRefused := true, returnRefused := true, noticeLost := true, retryLate := true } pair handover

theorem mutual_exclusion_handed :
    handed.2.state ada pen = .releasing ∧ handed.2.state bob pen = .held ∧
    (∀ one two, handed.2.state one pen = .held → handed.2.state two pen = .held → one = two) ∧
      ((holds handed.1).filter (·.2 = pen)).length ≤ 1 ∧
      ∀ client, handed.2.state client pen = .held ∨ handed.2.state client pen = .cachedFree →
        handed.2.owner pen = some client :=
  ⟨by decide,by decide,(played_run _ pair handover).mutual_exclusion ⟨rfl,rfl⟩ pen⟩

-- As long as no reply to an acquire is lost, a client that has a lock owns it
-- unless it was not told that the lender took it back.
theorem Run.owner_unless_astray (run : Run trouble roll past fleet) (safe : trouble.askLost = false) (lock : LockId) :
    (∀ client, fleet.state client lock = .held ∨ fleet.state client lock = .cachedFree →
      (fleet.owner lock = some client ↔ ¬ Astray client lock past)) ∧
    ∀ one two, one ≠ two → fleet.state one lock = .held → fleet.state two lock = .held →
      Astray one lock past ∨ Astray two lock past := by
  refine ⟨fun client => run.owner_iff safe,fun one two differ first second => ?_⟩
  by_contra neither
  obtain ⟨told,known⟩ := not_or.mp neither
  have owner := (run.owner_iff safe (.inl first)).mpr told
  rw [(run.owner_iff safe (.inl second)).mpr known] at owner
  exact differ (Option.some.inj owner).symm

-- The reply to Ada's return is lost after the lender has passed the lock on.
-- She keeps it for her next caller, and Bob has it too.
def forfeit : List Move :=
  handover ++ [.lose ada 2 (.link (.replyTimeout 2 5000)),.advance ada 2,.begin ada .acquire pen,
    .advance ada 3,.advance ada 3]

def forfeited : History × Fleet := played { returnRefused := true, returnLost := true, retryLate := true } pair forfeit

theorem owner_unless_astray_forfeited :
    forfeited.2.state ada pen = .held ∧ forfeited.2.state bob pen = .held ∧
    (∀ client, forfeited.2.state client pen = .held ∨ forfeited.2.state client pen = .cachedFree →
      (forfeited.2.owner pen = some client ↔ ¬ Astray client pen forfeited.1)) ∧
    ∀ one two, one ≠ two → forfeited.2.state one pen = .held → forfeited.2.state two pen = .held →
      Astray one pen forfeited.1 ∨ Astray two pen forfeited.1 :=
  ⟨by decide,by decide,(played_run _ pair forfeit).owner_unless_astray rfl pen⟩

theorem forfeited_shared : ∃ past fleet,
    Run { returnRefused := true, returnLost := true, retryLate := true } pair past fleet ∧ ada ≠ bob ∧
      fleet.state ada pen = .held ∧ fleet.state bob pen = .held ∧ fleet.owner pen ≠ some ada :=
  ⟨_,_,played_run _ pair forfeit,by decide,by decide,by decide,by decide⟩

end Fleet
end LockLender
