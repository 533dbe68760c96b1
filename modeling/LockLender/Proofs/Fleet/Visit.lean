import LockLender.Proofs.Borrower.Visit
import LockLender.Proofs.Fleet.Accord

namespace LockLender.Fleet
open Borrower

def Move.begins (client : ClientId) (lock : LockId) : Move → Purpose → Bool
  | .begin other purpose third,wanted => other = client ∧ third = lock ∧ purpose = wanted
  | _,_ => false

def Moment.ended (now : Moment) (client : ClientId) (lock : LockId) (purpose : Purpose) : Option Outcome :=
  now.effects.findSome? fun (other,effect) => if other = client then effect.outcome? purpose lock else none

def leg (client : ClientId) (lock : LockId) : History → Leg
  | [] => .outside
  | now :: past => (leg client lock past).onward (now.act.begins client lock) (now.ended client lock)

def Moment.hears (now : Moment) (client : ClientId) (lock : LockId) : Bool :=
  match now.act with
  | .arrive n => now.before.notices.find? n = some (.revoke client lock)
  | _ => false

def heard (client : ClientId) (lock : LockId) (past : History) : Bool := past.any (·.hears client lock)

-- The client does what its caller does and nothing else, nobody speaks in its
-- name, and nothing arrives when its caller is done.
def allows (client : ClientId) (lock : LockId) (leg : Leg) (fleet : Fleet) : Move → Bool
  | .begin other purpose third => other ≠ client || third = lock && leg.turn purpose
  | .retry other _ | .direct (.acquire _ other) | .direct (.release _ other) => other ≠ client
  | .arrive n => (fleet.notices.find? n).all fun notice => notice.client ≠ client || leg.present
  | _ => true

def visits (client : ClientId) (lock : LockId) : History → Bool
  | [] => true
  | now :: past => allows client lock (leg client lock past) now.before now.act && visits client lock past

def on (fleet : Fleet) (client : ClientId) (lock : LockId) : Nat → Option Call :=
  match fleet.members.find? client with
  | none => fun _ => none
  | some b => b.on lock

def Visiting (past : History) (fleet : Fleet) (client : ClientId) (lock : LockId) : Prop :=
  Stand (fleet.Agrees client lock) (heard client lock past = true) (fleet.entry client lock) (fleet.on client lock)
    (leg client lock past)

variable {past : History} {fleet next before : Fleet} {client actor : ClientId} {input : Input} {k n : Nat}
  {lock third : LockId} {effects : List Effect} {move : Move} {happenings : List Happening} {leg : Leg}
  {begins : Purpose → Bool} {accord accord' recalled recalled' : Prop} {b : Borrower} {now : Moment}

theorem on_of_member (member : fleet.members.find? client = some b) (lock : LockId) :
    fleet.on client lock = b.on lock := by
  simp [on,member]

theorem rest_of_members (members : next.members = fleet.members) (client : ClientId) (lock : LockId) :
    next.entry client lock = fleet.entry client lock ∧ next.on client lock = fleet.on client lock := by
  simp only [entry,on,members,and_self]

theorem Acts.stand (acts : fleet.Acts client input k lock effects next) (staffed : fleet.Staffed)
    (passage : Passage input leg begins accord accord' recalled recalled')
    (stand : Stand accord recalled (fleet.entry client lock) (fleet.on client lock) leg) :
    Stand accord' recalled' (next.entry client lock) (next.on client lock) (leg.onward begins (ends lock effects)) := by
  cases acts with
  | intro b later e after member does =>
      have became : (fleet.record client later effects).1.members.find? client = some later := by
        rw [members_record,if_pos rfl]
      rw [entry_of_member member,on_of_member member] at stand
      rw [entry_of_member became,on_of_member became]
      obtain ⟨sound,counted,_⟩ := staffed _ _ member
      exact does.stand passage sound counted stand

theorem Acts.rest (acts : fleet.Acts actor input k third effects next) (apart : client ≠ actor ∨ lock ≠ third) :
    next.entry client lock = fleet.entry client lock ∧ next.on client lock = fleet.on client lock := by
  cases acts with
  | intro b later e after member does =>
      by_cases acting : client = actor
      · subst acting
        have differ := apart.resolve_left (by simp)
        have became : (fleet.record client later effects).1.members.find? client = some later := by
          rw [members_record,if_pos rfl]
        rw [entry_of_member member,on_of_member member,entry_of_member became,on_of_member became]
        exact ⟨does.edit.entries lock differ,funext fun j => does.crew_other _ differ j⟩
      · have same : (fleet.record actor later effects).1.members.find? client = fleet.members.find? client := by
          rw [members_record,if_neg acting]
        simp only [entry,on,same,and_self]

theorem not_loses (calm : move.loses = false) : ¬ fleet.Loses client lock move := by
  rintro ⟨k,fault,_,rfl,_⟩
  cases calm

theorem ended_own (move : Move) (purpose : Purpose) :
    Moment.ended ⟨fleet,move,effects.map (client,·),next⟩ client lock purpose = ends lock effects purpose := by
  simp [Moment.ended,ends,List.findSome?_map,Function.comp_def]

theorem Acts.ended_rest (acts : before.Acts actor input k third effects next)
    (apart : client ≠ actor ∨ lock ≠ third) (fleet later : Fleet) (move : Move) (purpose : Purpose) :
    Moment.ended ⟨fleet,move,effects.map (actor,·),later⟩ client lock purpose = none := by
  by_cases acting : client = actor
  · subst acting
    cases acts with
    | intro b next e after member does =>
        rw [ended_own]
        exact does.ends_other (apart.resolve_left (by simp)) purpose
  · simp [Moment.ended,List.findSome?_map,Function.comp_def,Ne.symm acting]

theorem allows_poses (allowed : allows client lock leg fleet move = true) : move.poses client = false := by
  cases move with
  | begin other purpose third =>
      cases purpose with
      | revoke => cases leg <;> simpa [allows,Move.poses,Leg.turn] using allowed
      | _ => rfl
  | retry => simpa [allows,Move.poses] using allowed
  | direct request =>
      cases request with
      | stat => rfl
      | _ => simpa [allows,Move.poses] using allowed
  | _ => rfl

theorem Visiting.rest (visiting : Visiting past fleet client lock)
    (kept : fleet.Agrees client lock → next.Agrees client lock)
    (same : next.entry client lock = fleet.entry client lock ∧ next.on client lock = fleet.on client lock)
    (begun : ∀ purpose, move.begins client lock purpose = false)
    (unended : ∀ purpose, Moment.ended ⟨fleet,move,happenings,next⟩ client lock purpose = none)
    (unheard : Moment.hears ⟨fleet,move,happenings,next⟩ client lock = false) :
    Visiting (⟨fleet,move,happenings,next⟩ :: past) next client lock := by
  have onward : Fleet.leg client lock (⟨fleet,move,happenings,next⟩ :: past) = Fleet.leg client lock past :=
    Leg.onward_rest _ begun unended
  unfold Visiting
  rw [onward,same.1,same.2]
  exact Stand.mono visiting kept (by simp [heard,unheard])

theorem Acts.visiting (acts : before.Acts actor input k third effects next)
    (members : before.members = fleet.members) (staffed : before.Staffed) (visiting : Visiting past fleet client lock)
    (here : client = actor → lock = third → Passage input (Fleet.leg client lock past) (move.begins client lock)
      (fleet.Agrees client lock) (next.Agrees client lock) (heard client lock past = true)
      (heard client lock (⟨fleet,move,effects.map (actor,·),next⟩ :: past) = true))
    (elsewhere : client ≠ actor ∨ lock ≠ third → (fleet.Agrees client lock → next.Agrees client lock) ∧
      (∀ purpose, move.begins client lock purpose = false) ∧
      Moment.hears ⟨fleet,move,effects.map (actor,·),next⟩ client lock = false) :
    Visiting (⟨fleet,move,effects.map (actor,·),next⟩ :: past) next client lock := by
  obtain ⟨entry,on⟩ := rest_of_members members client lock
  by_cases apart : client ≠ actor ∨ lock ≠ third
  · obtain ⟨kept,begun,unheard⟩ := elsewhere apart
    obtain ⟨one,two⟩ := acts.rest apart
    exact visiting.rest kept ⟨one.trans entry,two.trans on⟩ begun (acts.ended_rest apart _ _ _) unheard
  · obtain ⟨rfl,rfl⟩ : client = actor ∧ lock = third := by simpa using apart
    unfold Visiting at visiting
    rw [← entry,← on] at visiting
    have stand := acts.stand staffed (here rfl rfl) visiting
    unfold Visiting
    rw [Fleet.leg,show Moment.ended _ client lock = ends lock effects from funext (ended_own move)]
    exact stand

theorem Did.visiting (did : fleet.Did move happenings next) (intact : fleet.Intact)
    (orderly : (fleet.lender.loan lock).Orderly)
    (allowed : allows client lock (Fleet.leg client lock past) fleet move = true)
    (visiting : Visiting past fleet client lock) : Visiting (⟨fleet,move,happenings,next⟩ :: past) next client lock := by
  have kept (heard : ¬ fleet.Loses client lock move) : fleet.Agrees client lock → next.Agrees client lock :=
    did.agrees intact orderly (allows_poses allowed) heard
  cases did with
  | @begin actor purpose k third effects next acts =>
      refine acts.visiting rfl intact.staffed visiting ?_ ?_
      · rintro rfl rfl
        have turn : (Fleet.leg client lock past).turn purpose = true := by simpa [allows] using allowed
        have own : purpose ≠ .revoke := by
          rintro rfl
          cases leg : Fleet.leg client lock past <;> rw [leg] at turn <;> cases turn
        refine ⟨?_,by simp [Move.begins],by simp [own],.inl (kept (not_loses rfl)),by simp [heard,Moment.hears,own]⟩
        rintro _ ⟨⟩ _
        exact turn
      · intro apart
        refine ⟨kept (not_loses rfl),fun wanted => ?_,rfl⟩
        simp only [Move.begins,decide_eq_false_iff_not]
        rintro ⟨rfl,rfl,_⟩
        simp at apart
  | retry acts =>
      refine acts.visiting rfl intact.staffed visiting ?_ fun _ => ⟨kept (not_loses rfl),fun _ => rfl,rfl⟩
      rintro rfl
      simp [allows] at allowed
  | advance acts =>
      refine acts.visiting rfl intact.staffed visiting ?_ fun _ => ⟨kept (not_loses rfl),fun _ => rfl,rfl⟩
      rintro rfl rfl
      exact ⟨(by intro _ same; cases same),by simp [Move.begins],by simp,.inl (kept (not_loses rfl)),
        by simp [heard,Moment.hears]⟩
  | deliver back acts =>
      refine acts.visiting rfl intact.staffed visiting ?_ fun _ => ⟨kept (not_loses rfl),fun _ => rfl,rfl⟩
      rintro rfl rfl
      exact ⟨(by intro _ same; cases same),by simp [Move.begins],by simp,.inl (kept (not_loses rfl)),
        by simp [heard,Moment.hears]⟩
  | @lose actor k reply fault next third back acts =>
      refine acts.visiting rfl intact.staffed visiting ?_ fun apart => ⟨kept ?_,fun _ => rfl,rfl⟩
      · rintro rfl rfl
        exact ⟨(by intro _ same; cases same),by simp [Move.begins],by simp,.inr ⟨fault,rfl⟩,by simp [heard,Moment.hears]⟩
      · obtain ⟨call,found,own,_⟩ := acts.seat_answer intact.staffed
        rintro ⟨_,_,other,⟨⟩,there,here⟩
        rw [found] at there
        cases there
        exact apart.elim (fun differ => differ rfl) fun differ => differ (here.symm.trans own)
  | @revoke n actor third _ k effects due acts =>
      refine acts.visiting rfl intact.staffed visiting ?_ fun apart => ⟨kept (not_loses rfl),fun _ => rfl,?_⟩
      · rintro rfl rfl
        have present : (Fleet.leg client lock past).present = true := by simpa [allows,due,Notice.revoke] using allowed
        refine ⟨?_,?_,fun _ => present,.inl (kept (not_loses rfl)),by simp [heard,Moment.hears,due]⟩
        · rintro purpose ⟨⟩ own
          exact absurd rfl own
        · intro purpose own
          simp [Move.begins,own.symm]
      · simp only [Moment.hears,due,Option.some.injEq,Notice.revoke,decide_eq_false_iff_not]
        rintro ⟨⟩
        simp at apart
  | @signal n actor third _ k effects due acts =>
      have unheard : Moment.hears ⟨fleet,.arrive n,effects.map (actor,·),next⟩ client lock = false := by
        simp [Moment.hears,due,Notice.revoke,Notice.retry]
      refine acts.visiting rfl intact.staffed visiting ?_ fun _ => ⟨kept (not_loses rfl),fun _ => rfl,unheard⟩
      rintro rfl rfl
      have present : (Fleet.leg client lock past).present = true := by simpa [allows,due,Notice.retry] using allowed
      exact ⟨(by intro _ same; cases same),by simp [Move.begins],fun _ => present,.inl (kept (not_loses rfl)),
        by simp [heard,unheard]⟩
  | serve later told out served =>
      exact visiting.rest (kept (not_loses rfl)) (rest_of_members (dispatch_frame _ _ _).1 _ _) (fun _ => rfl)
        (fun _ => rfl) rfl
  | direct later told served =>
      exact visiting.rest (kept (not_loses rfl)) (rest_of_members (dispatch_frame _ _ _).1 _ _) (fun _ => rfl)
        (fun _ => rfl) rfl
  | refuse | post | discard | settle =>
      exact visiting.rest (kept (not_loses rfl)) ⟨rfl,rfl⟩ (fun _ => rfl) (fun _ => rfl) rfl

theorem start_visiting (roll : Roll) (client : ClientId) (lock : LockId) :
    Visiting [] (start roll) client lock := by
  have fresh : (start roll).entry client lock = {} ∧ (start roll).on client lock = fun _ => none := by
    unfold entry on
    rw [start_member]
    cases roll.find? client <;> exact ⟨rfl,rfl⟩
  unfold Visiting
  rw [fresh.1,fresh.2]
  exact .outside (fun _ => rfl) rfl (by simp [heard]) (start_agrees roll client lock)

theorem Course.visiting (course : Course past fleet) (visits : visits client lock past = true) :
    Visiting past fleet client lock := by
  induction course with
  | start begins =>
      obtain ⟨roll,rfl⟩ := begins
      exact start_visiting roll client lock
  | step course _ ran ih =>
      obtain ⟨allowed,earlier⟩ := Bool.and_eq_true_iff.mp visits
      have intact := Course.intact course
      exact (step_did intact.staffed ran).visiting intact (Course.orderly course lock) allowed (ih earlier)

theorem Agrees.owner_of_free (agrees : fleet.Agrees client lock) (staffed : fleet.Staffed)
    (free : fleet.state client lock = .cachedFree) : fleet.owner lock = some client := by
  rw [← seat_state staffed] at free
  cases stage : (fleet.seat client lock).stage <;> simp only [stage,Stage.state,reduceCtorEq] at free
  simp only [Agrees,Seat.Fits,stage] at agrees
  exact agrees.2.1.mpr id

theorem Agrees.not_owner_of_idle (agrees : fleet.Agrees client lock) (staffed : fleet.Staffed)
    (idle : fleet.state client lock = .idle) : fleet.owner lock ≠ some client := by
  rw [← seat_state staffed] at idle
  cases stage : (fleet.seat client lock).stage <;> simp only [stage,Stage.state,reduceCtorEq] at idle
  simp only [Agrees,Seat.Fits,stage] at agrees
  exact agrees.1

-- When the caller's release has returned well, its client still is the owner
-- unless it was told in time to give the lock back, and whoever asks for the lock
-- stands in line for a client that is gone.
theorem Course.kept_unless_recalled (course : Course past fleet) (visited : visits client lock past = true)
    (finished : Fleet.leg client lock past = .finished) :
    (fleet.owner lock = some client ↔ heard client lock past = false) ∧
      (heard client lock past = false → ∀ other status told next, other ≠ client →
        fleet.lender.acquire lock other = (status,told,next) → status = .retry ∧ other ∈ (next.loan lock).line) := by
  have visiting := course.visiting visited
  unfold Visiting at visiting
  rw [finished] at visiting
  have staffed := course.intact.staffed
  cases visiting with
  | finished alone lies agreed =>
      rcases lies with ⟨free,unheard⟩ | ⟨idle,recalled⟩
      · have own := agreed.owner_of_free staffed free
        refine ⟨iff_of_true own (by simpa using unheard),fun _ other status told next differ ran => ?_⟩
        obtain ⟨after,asked,here,_⟩ := Lender.acquire_asked ran
        rw [here]
        exact asked.behind own differ
      · have left := agreed.not_owner_of_idle staffed idle
        exact ⟨iff_of_false left (by simp [recalled]),fun unheard => by simp [recalled] at unheard⟩

def stranded : History × Fleet := followed pair
  (asks ada 0 pen ++ [.begin ada .release pen] ++ asks bob 0 pen ++ [.post 0,.discard 0,.settle 0 false])

def asked : History × Fleet := followed pair
  (asks ada 0 pen ++ asks bob 0 pen ++ tells 0 ++ returns ada 2 pen ++ [.deliver ada 2,.advance ada 2])

theorem kept_unless_recalled_stranded :
    (stranded.2.owner pen = some ada ∧ stranded.2.line pen = [bob] ∧ heard ada pen stranded.1 = false ∧
      ∀ other status told next, other ≠ ada → stranded.2.lender.acquire pen other = (status,told,next) →
        status = .retry ∧ other ∈ (next.loan pen).line) ∧
    asked.2.owner pen ≠ some ada ∧ heard ada pen asked.1 = true := by
  have first : Course stranded.1 stranded.2 := followed_course pair _
  have second : Course asked.1 asked.2 := followed_course pair _
  have kept := first.kept_unless_recalled (show visits ada pen stranded.1 = true by decide) (by decide)
  have left := second.kept_unless_recalled (show visits ada pen asked.1 = true by decide) (by decide)
  have unheard : heard ada pen stranded.1 = false := by decide
  have told : heard ada pen asked.1 = true := by decide
  refine ⟨⟨kept.1.mpr unheard,by decide,unheard,kept.2 unheard⟩,fun own => ?_,told⟩
  rw [left.1.mp own] at told
  cases told

end LockLender.Fleet
