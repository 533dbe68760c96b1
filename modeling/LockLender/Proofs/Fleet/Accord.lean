import LockLender.Proofs.Fleet.Exclusion
import LockLender.Proofs.Fleet.Succession

namespace LockLender
open Borrower

theorem Outlook.strays_none (next : Outlook) : next.Strays none (fun _ => False) = fun _ => False := by
  funext client
  simp [Strays]

namespace Fleet

def Move.poses (client : ClientId) : Move → Bool
  | .begin other .revoke _ | .retry other _ | .direct (.acquire _ other) | .direct (.release _ other) => other = client
  | _ => false

def Loses (fleet : Fleet) (client : ClientId) (lock : LockId) (move : Move) : Prop :=
  ∃ k fault call, move = .lose client k fault ∧ fleet.call? client k = some call ∧ call.lock = lock

def Agrees (fleet : Fleet) (client : ClientId) (lock : LockId) : Prop :=
  (fleet.seat client lock).Fits (fleet.owner lock = some client) (client ∈ fleet.line lock) False
    (fleet.pending (.retry client lock))

variable {past later : History} {fleet next : Fleet} {client other : ClientId} {input : Input} {k n : Nat}
  {lock third : LockId} {effects : List Effect} {move : Move} {happenings : List Happening} {trouble : Trouble}

theorem Agrees.rest (agrees : fleet.Agrees client lock) (seat : next.seat client lock = fleet.seat client lock)
    (loan : next.lender.loan lock = fleet.lender.loan lock)
    (pending : next.pending (.retry client lock) = fleet.pending (.retry client lock)) :
    next.Agrees client lock := by
  unfold Agrees owner line
  rw [seat,loan,pending]
  exact agrees

theorem start_agrees (roll : Roll) (client : ClientId) (lock : LockId) : (start roll).Agrees client lock := by
  change (outlook [] (start roll) lock).Fits (fun _ => False) client
  rw [outlook_start]
  exact ⟨nofun,nofun,id,rfl⟩

theorem Agrees.step (agrees : fleet.Agrees client lock)
    (step : (fleet.outlook past lock).Step trouble lock none (next.outlook later lock))
    (safe : trouble.askLost = false) (orderly : (fleet.lender.loan lock).Orderly) : next.Agrees client lock := by
  have fits : (fleet.outlook past lock).Fits (fun _ => False) client := agrees
  have kept := step.fits safe orderly fits
  rw [Outlook.strays_none] at kept
  exact kept

theorem Acts.agrees (acts : fleet.Acts client input k third effects next) (own : ∀ reply, input ≠ .answer reply)
    (calm : input ≠ .retry) (intact : fleet.Intact) (orderly : (fleet.lender.loan lock).Orderly)
    (agrees : fleet.Agrees client lock) : next.Agrees client lock := by
  obtain ⟨lender,_,notices,errands,_⟩ := acts.post
  have pending := pending_congr notices errands (.retry client lock)
  by_cases here : lock = third
  · subst here
    obtain ⟨got,step,_⟩ := acts.seat_step own intact.staffed intact.mailed
    have fits := step.fits calm (orderly.apart client) agrees
    rw [false_and] at fits
    unfold Agrees owner line
    rw [lender,pending]
    exact fits
  · exact agrees.rest (acts.seat_other intact.staffed (.inr here)) (by rw [lender]) pending

theorem Acts.agrees_other (acts : fleet.Acts other input k third effects next) (apart : client ≠ other)
    (intact : fleet.Intact) (agrees : fleet.Agrees client lock) : next.Agrees client lock := by
  obtain ⟨lender,_,notices,errands,_⟩ := acts.post
  exact agrees.rest (acts.seat_other intact.staffed (.inl apart)) (by rw [lender]) (pending_congr notices errands _)

theorem Agrees.direct {request : Request} {reply : Reply} {told : List Notice} {after : Lender}
    (agrees : fleet.Agrees client lock) (served : fleet.lender.serve request = (reply,told,after))
    (posted : fleet.Posted) (orderly : (fleet.lender.loan lock).Orderly)
    (apart : (Move.direct request).poses client = false) : (fleet.dispatch after told).Agrees client lock := by
  have fits : (fleet.outlook [] lock).Fits (fun _ => False) client := agrees
  change (outlook [] (fleet.dispatch after told) lock).Fits (fun _ => False) client
  rw [outlook_dispatch posted]
  let view : Outlook := { fleet.outlook [] lock with loan := after.loan lock }.tell lock told
  have elsewhere {place : LockId} (about : ∀ notice ∈ told, notice.callback.lock = place) (differ : lock ≠ place)
      (same : after.loan lock = fleet.lender.loan lock) : view.Fits (fun _ => False) client := by
    unfold view
    rw [tell_other about differ,same]
    exact fits
  cases request with
  | acquire place asker =>
      obtain ⟨status,loan,_,asked,here,rest⟩ := Lender.serve_acquire served
      by_cases same : lock = place
      · subst same
        have differ : client ≠ asker := fun same => by simp [Move.poses,same] at apart
        have kept : view.Fits (view.Strays none fun _ => False) client :=
          fits.asked_other asked differ rfl here rfl
        rwa [Outlook.strays_none] at kept
      · exact elsewhere asked.about same (rest lock same)
  | release place holder =>
      obtain ⟨loan,_,returned,here,rest⟩ := Lender.serve_release served
      by_cases same : lock = place
      · subst same
        have differ : client ≠ holder := fun same => by simp [Move.poses,same] at apart
        have kept : view.Fits (view.Strays none fun _ => False) client :=
          fits.returned_other returned orderly differ rfl here rfl
        rwa [Outlook.strays_none] at kept
      · exact elsewhere returned.about same (rest lock same)
  | stat place =>
      cases served
      exact fits

theorem Did.agrees (did : fleet.Did move happenings next) (intact : fleet.Intact)
    (orderly : (fleet.lender.loan lock).Orderly) (sole : move.poses client = false)
    (heard : ¬ fleet.Loses client lock move) (agrees : fleet.Agrees client lock) : next.Agrees client lock := by
  -- All that may happen on the way but the loss of a reply to an acquire.
  let troubled : Trouble :=
    { askRefused := true, returnRefused := true, noticeLost := true, retryLate := true }
  have step {next : Fleet} {later : History}
      (step : (fleet.outlook [] lock).Step troubled lock none (next.outlook later lock)) : next.Agrees client lock :=
    agrees.step step rfl orderly
  cases did with
  | @begin actor purpose k third effects next acts =>
      by_cases acting : client = actor
      · subst acting
        exact acts.agrees nofun nofun intact orderly agrees
      · exact acts.agrees_other acting intact agrees
  | retry acts =>
      exact acts.agrees_other (fun same => by simp [Move.poses,same] at sole) intact agrees
  | @advance actor k third effects next acts =>
      by_cases acting : client = actor
      · subst acting
        exact acts.agrees nofun nofun intact orderly agrees
      · exact acts.agrees_other acting intact agrees
  | serve later told out served => exact step (outlook_serve intact out served [] lock)
  | @refuse actor k request fault out =>
      have permitted : permits troubled (holds []) fleet (.refuse actor k fault) = true := by
        obtain ⟨call,_,⟨_,rfl,_⟩ | ⟨_,rfl,_⟩⟩ := request_on_way intact out <;> simp only [permits,out] <;> rfl
      exact step (outlook_refuse intact out permitted lock)
  | deliver back acts =>
      have same := outlook_deliver intact back acts [] lock
      change (next.outlook [] lock).Fits (fun _ => False) client
      rw [same]
      exact agrees
  | @lose actor k reply fault next third back acts =>
      obtain ⟨lender,_,notices,errands,_⟩ := acts.post
      obtain ⟨call,found,own,_⟩ := acts.seat_answer intact.staffed
      have apart : client ≠ actor ∨ lock ≠ third := by
        by_contra both
        obtain ⟨rfl,rfl⟩ : client = actor ∧ lock = third := by simpa using both
        exact heard ⟨k,fault,call,rfl,found,own⟩
      exact agrees.rest (acts.seat_answer_other intact.staffed apart) (by rw [lender])
        (pending_congr notices errands _)
  | post due => exact agrees.rest rfl rfl (post_pending intact.posted due _)
  | revoke due acts => exact step (acts.outlook_revoke intact due lock)
  | signal due acts => exact step (acts.outlook_signal intact due (.inl rfl) lock)
  | discard due => exact step (outlook_discard intact.posted rfl due [] lock)
  | settle due => exact step (outlook_settle intact.posted (Bool.or_true _) due [] lock)
  | direct after told served => exact agrees.direct served intact.posted orderly sole

end Fleet
end LockLender
