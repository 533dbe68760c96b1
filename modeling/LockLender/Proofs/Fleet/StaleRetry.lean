import LockLender.Proofs.Fleet.Holding

namespace LockLender
open Borrower
open Function (update)

-- What a client relies on, where a signal may come late or may not.
def Borrower.Seat.Claims (late owns queued : Prop) (s : Seat) : Prop :=
  match s.stage with
  | .idle | .refused | .returned => True
  | .asking => late ∨ (s.signal = true → owns)
  | .waiting => (owns ∨ queued) ∧ (late ∨ (s.signal = true → owns))
  | .granted | .held | .free | .returning => owns ∨ late ∧ queued
  | .unreturned => False

namespace Borrower.Seat
variable {late owns queued owns' queued' : Prop} {s s' : Seat} {got : Bool} {input : Input}

theorem Claims.mono (claims : s.Claims late owns queued) (keeps : owns → owns') (moves : queued → owns' ∨ queued') :
    s.Claims late owns' queued' := by
  have here (claim : owns ∨ late ∧ queued) : owns' ∨ late ∧ queued' := by
    rcases claim with own | ⟨old,inLine⟩
    · exact .inl (keeps own)
    · exact (moves inLine).imp_right fun inLine => ⟨old,inLine⟩
  have heard (signaled : late ∨ (s.signal = true → owns)) : late ∨ (s.signal = true → owns') :=
    signaled.imp_right fun own set => keeps (own set)
  cases stage : s.stage <;> simp only [Claims,stage] at claims ⊢
  case asking => exact heard claims
  case waiting => exact ⟨claims.1.elim (fun own => .inl (keeps own)) moves,heard claims.2⟩
  case granted | held | free | returning => exact here claims

theorem Step.claims (step : Seat.Step input s got s') (timely : input = .retry → late ∨ owns)
    (claims : s.Claims late owns queued) : s'.Claims late owns queued := by
  cases step with
  | arrive | misplaced | recalled | remember | stale | rest => exact claims
  | giveBack held | keep held => simpa [Claims,held] using claims
  | surrender free | hit free => simpa [Claims,free] using claims
  | signal asking =>
      have heard : late ∨ (True → owns) := (timely rfl).imp_right fun own _ => own
      cases stage : s.stage <;> simp only [Claims,stage] at claims ⊢
      case asking => exact heard
      case waiting => exact ⟨claims.1,heard⟩
      all_goals exact claims
  | turnAsking idle => exact .inr nofun
  | heed waiting set =>
      simp only [Claims,waiting,set] at claims
      obtain ⟨claim,old | own⟩ := claims
      · exact claim.imp_right fun inLine => ⟨old,inLine⟩
      · exact .inl (own trivial)
  | got granted => simpa [Claims,granted] using claims
  | gaveUp | closed => trivial
  | reopened unreturned => simp [Claims,unreturned] at claims

end Borrower.Seat

theorem Loan.Asked.keeps {client other : ClientId} {lock : LockId} {status : Status} {notices : List Notice}
    {loan after : Loan} (asked : Loan.Asked client lock loan status notices after)
    (own : loan.owner = some other) : after.owner = some other := by
  cases asked with
  | free free =>
      rw [free] at own
      cases own
  | own | again | queue => exact own

namespace Outlook
variable {trouble : Fleet.Trouble} {lock : LockId} {o next : Outlook} {forfeit : Option ClientId}
  {client other : ClientId}

def Claims (late : Prop) (o : Outlook) (client : ClientId) : Prop :=
  (o.seat client).Claims late (o.loan.owner = some client) (client ∈ o.loan.line)

theorem Claims.rest {late : Prop} (claims : o.Claims late other) (seat : next.seat other = o.seat other)
    (keeps : o.loan.owner = some other → next.loan.owner = some other)
    (moves : other ∈ o.loan.line → next.loan.owner = some other ∨ other ∈ next.loan.line) :
    next.Claims late other := by
  unfold Claims
  rw [seat]
  exact Seat.Claims.mono claims keeps moves

theorem claims_seat {late : Prop} (claims : ∀ client, o.Claims late client) {seat : Seat}
    {retries revokes holds : ClientId → Nat}
    (here : seat.Claims late (o.loan.owner = some client) (client ∈ o.loan.line)) (other : ClientId) :
    Claims late ⟨o.loan,update o.seat client seat,retries,revokes,holds⟩ other := by
  unfold Claims
  dsimp only
  by_cases acting : other = client
  · subst acting
    rw [Function.update_self]
    exact here
  · rw [Function.update_of_ne acting]
    exact claims other

theorem Step.claims (step : o.Step trouble lock forfeit next)
    (reliable : trouble.returnRefused = false ∧ trouble.returnLost = false)
    (claims : ∀ client, o.Claims (trouble.retryLate = true) client) (other : ClientId) :
    next.Claims (trouble.retryLate = true) other := by
  cases step with
  | rest | revokeLost | retryLost | revokeFailed => exact claims other
  | act client input got seat kind step =>
      have own : input ≠ .retry := by rcases kind with rfl | rfl <;> nofun
      exact claims_seat claims (step.claims (fun retry => absurd retry own) (claims client)) other
  | release client seat _ step | revoked client seat _ step =>
      exact claims_seat claims (step.claims nofun (claims client)) other
  | signaled client seat _ timely step =>
      exact claims_seat claims (step.claims (fun _ => timely) (claims client)) other
  | asked client status told loan asking asked =>
      by_cases acting : other = client
      · subst acting
        have before := claims other
        simp only [Claims,Seat.Claims,asking] at before
        change Seat.Claims _ _ _ ((o.enter other _).seat other)
        rw [enter_self]
        rcases asked.self with ⟨rfl,own⟩ | ⟨rfl,queued⟩
        · exact .inl own
        · exact ⟨.inr queued,before.imp_right fun own set => asked.keeps (own set)⟩
      · exact (claims other).rest (enter_other o acting _) asked.keeps
          fun queued => .inr ((asked.others acting).2.mpr queued)
  | returned client told loan returning returned =>
      by_cases acting : other = client
      · subst acting
        change Seat.Claims _ _ _ ((o.enter other _).seat other)
        rw [enter_self]
        trivial
      · rcases returned.others acting with ⟨_,owns,queued⟩ | ⟨_,_,own⟩
        · exact (claims other).rest (enter_other o acting _) owns.mpr fun inLine => .inr (queued.mpr inLine)
        · exact (claims other).rest (enter_other o acting _) (fun _ => own) fun _ => .inl own
  | askRefused client | askLost client =>
      have here : Seat.Claims (trouble.retryLate = true) (o.loan.owner = some client) (client ∈ o.loan.line)
          { o.seat client with stage := .refused } := trivial
      exact claims_seat claims here other
  | returnRefused client allowed =>
      rw [reliable.1] at allowed
      cases allowed
  | returnLost client allowed =>
      rw [reliable.2] at allowed
      cases allowed

end Outlook

namespace Fleet
variable {trouble : Trouble} {roll : Roll} {past : History} {fleet : Fleet} {client : ClientId} {lock : LockId}

theorem Run.claims (run : Run trouble roll past fleet)
    (reliable : trouble.returnRefused = false ∧ trouble.returnLost = false) (client : ClientId) (lock : LockId) :
    (fleet.outlook past lock).Claims (trouble.retryLate = true) client := by
  have all := run.always lock (fun o _ => ∀ client, o.Claims (trouble.retryLate = true) client)
    (fun _ => trivial) fun _ _ _ _ step claims => step.claims reliable claims
  exact all client

def gained : History → List Hold
  | [] => []
  | now :: _ => now.effects.filterMap Happening.gets

theorem Run.held_of_gained (run : Run trouble roll past fleet) (got : (client,lock) ∈ gained past) :
    fleet.state client lock = .held := by
  cases past with
  | nil => cases got
  | cons now past =>
      rw [← run.mem_holds,holds_cons]
      exact List.mem_append_right _ got

theorem Run.claims_held (run : Run trouble roll past fleet)
    (reliable : trouble.returnRefused = false ∧ trouble.returnLost = false) (held : fleet.state client lock = .held) :
    fleet.owner lock = some client ∨ trouble.retryLate = true ∧ client ∈ fleet.line lock := by
  have claims := run.claims reliable client lock
  have stage : ((fleet.outlook past lock).seat client).stage = .held := run.stage_held.mpr held
  simp only [Outlook.Claims,Seat.Claims,stage] at claims
  exact claims

theorem Run.owner_iff_unqueued (run : Run trouble roll past fleet)
    (reliable : trouble.returnRefused = false ∧ trouble.returnLost = false) (held : fleet.state client lock = .held) :
    fleet.owner lock = some client ↔ client ∉ fleet.line lock := by
  refine ⟨(run.tidy lock).orderly.apart client,fun left => ?_⟩
  exact (run.claims_held reliable held).resolve_right fun late => left late.2

-- With every return answered, an acquire that returns with the lock has made
-- its client owner unless it still stands in line, and it never does if no
-- retry comes late.
theorem Run.owner_unless_queued (run : Run trouble roll past fleet)
    (reliable : trouble.returnRefused = false ∧ trouble.returnLost = false) (lock : LockId) :
    (∀ client, (client,lock) ∈ gained past → fleet.state client lock = .held ∧
      (fleet.owner lock = some client ↔ client ∉ fleet.line lock)) ∧
    (∀ one two, one ≠ two → fleet.state one lock = .held → fleet.state two lock = .held →
      one ∈ fleet.line lock ∨ two ∈ fleet.line lock) ∧
    (trouble.retryLate = false → ∀ client, fleet.state client lock = .held → fleet.owner lock = some client) := by
  refine ⟨fun client got => ?_,fun one two differ first second => ?_,fun timely client held => ?_⟩
  · have held := run.held_of_gained got
    exact ⟨held,run.owner_iff_unqueued reliable held⟩
  · by_contra neither
    obtain ⟨left,gone⟩ := not_or.mp neither
    have owner := (run.owner_iff_unqueued reliable first).mpr left
    rw [(run.owner_iff_unqueued reliable second).mpr gone] at owner
    exact differ (Option.some.inj owner).symm
  · apply (run.claims_held reliable held).resolve_right
    intro late
    rw [timely] at late
    cases late.1

-- Ada's first acquire is served and she is not told. The retry for it comes when
-- she has had the lock, has given it to Bob and stands in line behind him.
def detour : List Move :=
  asks bob 0 pen ++ [.begin ada .acquire pen,.advance ada 0,.advance ada 0,.advance ada 0,.serve ada 0,
    .lose ada 0 (.link (.replyTimeout 1 5000)),.advance ada 0] ++ tells 0 ++
  returns bob 2 pen ++ [.deliver bob 2,.advance bob 2,.post 1] ++ asks ada 1 pen ++ asks bob 3 pen ++ tells 2 ++
  returns ada 3 pen ++ [.deliver ada 3,.advance ada 3] ++ tells 3 ++ [.advance bob 3,.advance bob 3] ++
  asks ada 4 pen ++ [.arrive 1,.advance ada 4,.advance ada 4]

def detoured : History × Fleet :=
  played { askRefused := true, askLost := true, noticeLost := true, retryLate := true } pair detour

def punctual : History × Fleet :=
  played { askRefused := true, askLost := true, noticeLost := true } pair handover

theorem owner_unless_queued_detoured :
    ((ada,pen) ∈ gained detoured.1 ∧ ada ∈ detoured.2.line pen ∧ punctual.2.state bob pen = .held) ∧
    (∀ client, (client,pen) ∈ gained detoured.1 → detoured.2.state client pen = .held ∧
      (detoured.2.owner pen = some client ↔ client ∉ detoured.2.line pen)) ∧
    (∀ one two, one ≠ two → detoured.2.state one pen = .held → detoured.2.state two pen = .held →
      one ∈ detoured.2.line pen ∨ two ∈ detoured.2.line pen) ∧
    ∀ client, punctual.2.state client pen = .held → punctual.2.owner pen = some client := by
  have late := (played_run { askRefused := true, askLost := true, noticeLost := true, retryLate := true }
    pair detour).owner_unless_queued ⟨rfl,rfl⟩ pen
  have timely := (played_run { askRefused := true, askLost := true, noticeLost := true }
    pair handover).owner_unless_queued ⟨rfl,rfl⟩ pen
  exact ⟨by decide,late.1,late.2.1,timely.2.2 rfl⟩

theorem detoured_shared : ∃ past fleet,
    Run { askRefused := true, askLost := true, noticeLost := true, retryLate := true } pair past fleet ∧
      ada ≠ bob ∧ (ada,pen) ∈ gained past ∧ fleet.state ada pen = .held ∧ fleet.state bob pen = .held ∧
      fleet.owner pen ≠ some ada :=
  ⟨_,_,played_run _ pair detour,by decide,by decide,by decide,by decide,by decide⟩

end Fleet
end LockLender
