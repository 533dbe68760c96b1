import LockLender.Proofs.Fleet.Course
import LockLender.Proofs.Lock

namespace LockLender

namespace Loan

def successor (loan after : Loan) : List ClientId :=
  if after.owner = loan.owner then [] else after.owner.toList

def Passes (loan after : Loan) (client : ClientId) : Prop :=
  loan.owner ≠ none ∧ loan.owner ≠ some client ∧ after.owner = some client

instance (loan after : Loan) (client : ClientId) : Decidable (loan.Passes after client) :=
  inferInstanceAs (Decidable (_ ∧ _ ∧ _))

variable {client other : ClientId} {lock : LockId} {status : Status} {notices : List Notice} {loan after : Loan}

theorem successor_same (same : after.owner = loan.owner) : loan.successor after = [] := if_pos same

theorem not_passes_same (same : after.owner = loan.owner) : ¬ loan.Passes after other := by
  rintro ⟨_,differ,own⟩
  exact differ (same ▸ own)

theorem Asked.succession (asked : Asked client lock loan status notices after) (orderly : loan.Orderly) :
    loan.line ++ (if loan.owner ≠ some client ∧ client ∉ loan.line then [client] else []) =
      loan.successor after ++ after.line := by
  cases asked with
  | free free =>
      have alone := (orderly.unowned free).1
      simp [successor,free,alone]
  | own own => simp [successor_same,own]
  | again keeper lent differ queued => simp [successor_same,queued]
  | queue keeper lent differ new => simp [successor,lent,differ,new]

theorem Returned.succession (returned : Returned client lock loan notices after) (orderly : loan.Orderly) :
    loan.line = loan.successor after ++ after.line := by
  cases returned with
  | stranger => simp [successor_same]
  | freed own alone => simp [successor,own,alone]
  | passed own heir line next =>
      have apart := orderly.apart client own
      rw [next] at apart
      have differ : heir ≠ client := fun same => apart (same ▸ List.mem_cons_self)
      simp [successor,own,differ,next]

theorem Asked.successor_length (asked : Asked client lock loan status notices after) :
    (loan.successor after).length = if loan.owner = none then 1 else 0 := by
  cases asked with
  | free free => simp [successor,free]
  | own own => simp [successor_same,own]
  | again keeper lent => simp [successor_same,lent]
  | queue keeper lent => simp [successor,lent]

theorem Returned.successor_length (returned : Returned client lock loan notices after) (orderly : loan.Orderly) :
    (loan.successor after).length = if loan.owner = some client ∧ loan.line ≠ [] then 1 else 0 := by
  have passed := returned.succession orderly
  cases returned with
  | stranger other => simp [successor_same,other]
  | freed own alone => simp [successor,own,alone]
  | passed own heir line next =>
      rw [next] at passed
      have one := congrArg List.length passed
      simp only [List.length_append,List.length_cons] at one
      rw [if_pos ⟨own,by simp [next]⟩]
      omega

theorem Asked.signaled (asked : Asked client lock loan status notices after) (other : ClientId) :
    notices.count (.retry other lock) = if loan.Passes after other then 1 else 0 := by
  have kept : ¬ loan.Passes after other := by
    cases asked with
    | free free => exact fun passes => passes.1 free
    | own | again | queue => exact not_passes_same rfl
  rw [asked.unsignaled other,if_neg kept]

theorem Returned.signaled (returned : Returned client lock loan notices after) (orderly : loan.Orderly)
    (other : ClientId) : notices.count (.retry other lock) = if loan.Passes after other then 1 else 0 := by
  by_cases own : other = client
  · subst own
    obtain ⟨left,_,quiet⟩ := returned.self orderly
    rw [quiet,if_neg fun passes => left passes.2.2]
  · rcases returned.others own with ⟨quiet,owns,_⟩ | ⟨told,queued,heir⟩
    · rw [quiet,if_neg fun passes => passes.2.1 (owns.mp passes.2.2)]
    · rw [told,if_pos]
      refine ⟨?_,fun owner => orderly.apart other owner queued,heir⟩
      intro free
      rw [(orderly.unowned free).1] at queued
      cases queued

end Loan

namespace Lender
variable {lender next : Lender} {client : ClientId} {lock : LockId} {request : Request} {reply : Reply}
  {status : Status} {notices : List Notice} {result : Except LockFault (List Notice)}

theorem acquire_grants (ran : lender.acquire lock client = (status,notices,next)) :
    next.grants = lender.grants + if (lender.loan lock).owner = none then 1 else 0 := by
  unfold acquire at ran
  dsimp only at ran
  rw [show (lender.loan? lock).getD {} = lender.loan lock from rfl] at ran
  cases lent : (lender.loan lock).owner with
  | none =>
      simp only [lent,Prod.mk.injEq] at ran
      rw [← ran.2.2,if_pos rfl]
  | some owner =>
      simp only [lent] at ran
      split at ran
      · cases ran
        rfl
      split at ran <;> cases ran <;> rfl

theorem release_grants (ran : lender.release lock client = (result,next)) :
    next.grants = lender.grants +
      if (lender.loan lock).owner = some client ∧ (lender.loan lock).line ≠ [] then 1 else 0 := by
  unfold release at ran
  cases found : lender.loan? lock with
  | none =>
      simp only [found] at ran
      cases ran
      simp [loan,found]
  | some loan =>
      have here : lender.loan lock = loan := by simp [Lender.loan,found]
      simp only [found] at ran
      rw [here]
      split at ran
      · rename_i stranger
        cases ran
        rw [if_neg fun own => stranger own.1]
        rfl
      rename_i own
      split at ran
      · rename_i alone
        cases ran
        rw [if_neg fun more => more.2 alone]
        rfl
      · rename_i heir line more
        cases ran
        rw [if_pos ⟨not_not.mp own,by simp [more]⟩]

theorem serve_grants (served : lender.serve request = (reply,notices,next))
    (orderly : ∀ lock, (lender.loan lock).Orderly) : ∃ lock,
      next.grants = lender.grants + ((lender.loan lock).successor (next.loan lock)).length ∧
        ∀ other, other ≠ lock → next.loan other = lender.loan other := by
  cases request with
  | acquire lock client =>
      rcases ran : lender.acquire lock client with ⟨status,told,later⟩
      simp only [serve,ran,Prod.mk.injEq] at served
      obtain ⟨_,_,rfl⟩ := served
      obtain ⟨after,asked,here,rest⟩ := acquire_asked ran
      refine ⟨lock,?_,rest⟩
      rw [here,asked.successor_length,acquire_grants ran]
  | release lock client =>
      obtain ⟨after,_,returned,here,rest⟩ := serve_release served
      refine ⟨lock,?_,rest⟩
      rw [here,returned.successor_length (orderly lock)]
      rcases ran : lender.release lock client with ⟨result,later⟩
      rw [← release_grants ran]
      cases result <;> simp only [serve,ran,Prod.mk.injEq] at served <;> rw [served.2.2]
  | stat lock =>
      cases served
      exact ⟨lock,by simp [Loan.successor],fun _ _ => rfl⟩

theorem noticed_grants (lender : Lender) (notice : Notice) (ok : Bool) :
    (lender.noticed notice ok).grants = lender.grants := by
  obtain ⟨client,callback⟩ := notice
  cases callback with
  | retry => rfl
  | revoke lock =>
      cases ok with
      | true => rfl
      | false =>
          simp only [noticed,revokeFailed,Bool.false_eq_true,if_false]
          cases lender.loan? lock with
          | none => rfl
          | some loan =>
              dsimp only
              split <;> rfl

theorem noticed_owner (lender : Lender) (notice : Notice) (ok : Bool) (lock : LockId) :
    ((lender.noticed notice ok).loan lock).owner = (lender.loan lock).owner := by
  obtain ⟨after,⟨here,rest⟩,change⟩ := noticed_changes lender notice ok
  by_cases same : lock = notice.callback.lock
  · subst same
    rw [here]
    rcases change with rfl | ⟨_,_,rfl⟩ <;> rfl
  · rw [rest lock same]

end Lender
namespace Fleet
variable {past : History} {fleet next : Fleet} {move : Move} {happenings : List Happening} {now : Moment}
  {lock : LockId}

def Moment.succeeds (now : Moment) (lock : LockId) : List ClientId :=
  (now.before.lender.loan lock).successor (now.after.lender.loan lock)

def Moment.comes (now : Moment) (lock : LockId) : List ClientId :=
  match now.request with
  | some (.acquire other client) =>
    if other = lock ∧ now.before.owner lock ≠ some client ∧ client ∉ now.before.line lock then [client] else []
  | _ => []

def comers (lock : LockId) : History → List ClientId
  | [] => []
  | now :: past => comers lock past ++ now.comes lock

def owners (lock : LockId) : History → List ClientId
  | [] => []
  | now :: past => owners lock past ++ now.succeeds lock

theorem Moment.Deals.orderly (deals : now.Deals lock) (orderly : (now.before.lender.loan lock).Orderly) :
    (now.after.lender.loan lock).Orderly := by
  cases deals with
  | rest same => rwa [same]
  | asked client status _ asked => exact asked.orderly orderly
  | returned client _ returned => exact returned.orderly orderly
  | failed n client _ _ _ lender =>
      rw [lender,(Lender.failed_changes _ _ _).1]
      exact orderly.forget client

theorem Moment.comes_none (unasked : ∀ client, now.request ≠ some (.acquire lock client)) : now.comes lock = [] := by
  unfold comes
  split
  · rename_i other client request
    have differ : other ≠ lock := fun same => unasked client (same ▸ request)
    simp [differ]
  · rfl

theorem Moment.Deals.succession (deals : now.Deals lock) (orderly : (now.before.lender.loan lock).Orderly) :
    now.before.line lock ++ now.comes lock = now.succeeds lock ++ now.after.line lock := by
  have still (unasked : ∀ client, now.request ≠ some (.acquire lock client))
      (owner : now.after.owner lock = now.before.owner lock) (line : now.after.line lock = now.before.line lock) :
      now.before.line lock ++ now.comes lock = now.succeeds lock ++ now.after.line lock := by
    rw [comes_none unasked,line,List.append_nil]
    exact congrArg (· ++ _) (Loan.successor_same owner).symm
  cases deals with
  | rest same unasked => exact still unasked (congrArg Loan.owner same) (congrArg Loan.line same)
  | asked client status request asked =>
      rw [show now.comes lock = _ by simp only [comes,request,true_and]; rfl]
      exact asked.succession orderly
  | returned client request returned =>
      rw [comes_none (by simp [request]),List.append_nil]
      exact returned.succession orderly
  | failed n client _ unasked _ lender =>
      have loan := (Lender.failed_changes now.before.lender lock client).1
      rw [← lender] at loan
      refine still (by simp [unasked]) ?_ ?_
      · exact (congrArg Loan.owner loan).trans (Loan.forget_owner _ _)
      · exact (congrArg Loan.line loan).trans (Loan.forget_line _ _)

theorem Moment.Deals.signaled (deals : now.Deals lock) (orderly : (now.before.lender.loan lock).Orderly)
    (client : ClientId) : now.told.count (.retry client lock) =
      if (now.before.lender.loan lock).Passes (now.after.lender.loan lock) client then 1 else 0 := by
  cases deals with
  | rest same _ untold =>
      rw [if_neg (Loan.not_passes_same (congrArg Loan.owner same))]
      exact List.count_eq_zero.mpr fun told => untold _ told rfl
  | asked other status _ asked => exact asked.signaled client
  | returned other _ returned => exact returned.signaled orderly client
  | failed n other _ _ untold lender =>
      have loan := (Lender.failed_changes now.before.lender lock other).1
      rw [← lender] at loan
      rw [untold,if_neg (Loan.not_passes_same ((congrArg Loan.owner loan).trans (Loan.forget_owner _ _)))]
      rfl

theorem Course.orderly (course : Course past fleet) (lock : LockId) : (fleet.lender.loan lock).Orderly := by
  induction course with
  | start begins =>
      obtain ⟨roll,rfl⟩ := begins
      exact Loan.new_orderly
  | step course allowed ran ih => exact (Course.deals (course.step allowed ran) lock).orderly ih

theorem Course.succession (course : Course past fleet) (lock : LockId) :
    comers lock past = owners lock past ++ fleet.line lock := by
  induction course with
  | start begins =>
      obtain ⟨roll,rfl⟩ := begins
      rfl
  | @step past fleet next happenings move course allowed ran ih =>
      have deals := (Course.deals (course.step allowed ran) lock).succession (Course.orderly course lock)
      calc comers lock past ++ Moment.comes _ lock
          = owners lock past ++ (fleet.line lock ++ Moment.comes _ lock) := by rw [ih,List.append_assoc]
        _ = owners lock past ++ (Moment.succeeds _ lock ++ next.line lock) := by rw [deals]
        _ = (owners lock past ++ Moment.succeeds _ lock) ++ next.line lock := (List.append_assoc ..).symm

theorem Did.grants (did : fleet.Did move happenings next) (orderly : ∀ lock, (fleet.lender.loan lock).Orderly) :
    ∃ lock, next.lender.grants = fleet.lender.grants +
        ((fleet.lender.loan lock).successor (next.lender.loan lock)).length ∧
      ∀ other, other ≠ lock → (next.lender.loan other).owner = (fleet.lender.loan other).owner := by
  have still {later : Lender} (grants : later.grants = fleet.lender.grants)
      (owners : ∀ lock, (later.loan lock).owner = (fleet.lender.loan lock).owner) :
      ∃ lock, later.grants = fleet.lender.grants + ((fleet.lender.loan lock).successor (later.loan lock)).length ∧
        ∀ other, other ≠ lock → (later.loan other).owner = (fleet.lender.loan other).owner := by
    refine ⟨.blockBitmap,?_,fun other _ => owners other⟩
    rw [Loan.successor_same (owners _)]
    exact grants
  have served {request : Request} {reply : Reply} {told : List Notice} {later : Lender}
      (served : fleet.lender.serve request = (reply,told,later)) :
      ∃ lock, later.grants = fleet.lender.grants + ((fleet.lender.loan lock).successor (later.loan lock)).length ∧
        ∀ other, other ≠ lock → (later.loan other).owner = (fleet.lender.loan other).owner := by
    obtain ⟨lock,grants,rest⟩ := Lender.serve_grants served orderly
    exact ⟨lock,grants,fun other differ => congrArg Loan.owner (rest other differ)⟩
  cases did with
  | begin acts | retry acts | advance acts | deliver _ acts | lose _ acts | revoke _ acts | signal _ acts =>
      rw [acts.post.1]
      exact still rfl fun _ => rfl
  | serve later told out ran =>
      rw [(dispatch_frame _ _ _).2.2.2]
      exact served ran
  | direct later told ran =>
      rw [(dispatch_frame _ _ _).2.2.2]
      exact served ran
  | refuse | post | discard => exact still rfl fun _ => rfl
  | settle => exact still (Lender.noticed_grants _ _ _) (Lender.noticed_owner _ _ _)

theorem Course.grants (course : Course past fleet) :
    fleet.lender.grants = ∑ᶠ lock, (owners lock past).length := by
  have finite (f : LockId → Nat) : f.support.Finite := Set.toFinite _
  induction course with
  | start begins =>
      obtain ⟨roll,rfl⟩ := begins
      simp only [owners,List.length_nil,finsum_zero]
      rfl
  | @step past fleet next happenings move course allowed ran ih =>
      obtain ⟨lock,grants,others⟩ := (step_did (Course.intact course).staffed ran).grants (Course.orderly course)
      have one : ∑ᶠ other, (Moment.succeeds ⟨fleet,move,happenings,next⟩ other).length =
          ((fleet.lender.loan lock).successor (next.lender.loan lock)).length := by
        apply finsum_eq_single
        intro other differ
        exact congrArg List.length (Loan.successor_same (others other differ))
      simp only [owners,List.length_append]
      rw [finsum_add_distrib (finite _) (finite _),one,← ih,grants]

-- Clients get a lock in the order in which they came for it, none is left out or
-- comes in twice, each is told once when the lock is passed on to it and at no
-- other time, and the lender counts them all.
theorem Course.first_come_first_served (course : Course past fleet) :
    (∀ lock, comers lock past = owners lock past ++ fleet.line lock ∧ (fleet.line lock).Nodup ∧
      (∀ client, fleet.owner lock = some client → client ∉ fleet.line lock) ∧
      (fleet.owner lock = none → fleet.line lock = [] ∧ (fleet.lender.loan lock).revoking = false)) ∧
    (∀ now ∈ past, (∀ n, n ≠ now.before.nextErrand → now.after.due n <:+ now.before.due n) ∧
      ∀ lock client, now.told.count (.retry client lock) =
        if (now.before.lender.loan lock).Passes (now.after.lender.loan lock) client then 1 else 0) ∧
    fleet.lender.stat = UInt64.ofNat (∑ᶠ lock, (owners lock past).length) := by
  refine ⟨fun lock => ?_,fun now member => ?_,?_⟩
  · have orderly := course.orderly lock
    exact ⟨course.succession lock,orderly.once,orderly.apart,orderly.unowned⟩
  · obtain ⟨earlier,before,allowed,ran⟩ := course.of_mem member
    have course : Course (now :: earlier) now.after := before.step allowed ran
    have orderly := Course.orderly before
    refine ⟨fun n differ => ?_,fun lock client => (course.deals lock).signaled (orderly lock) client⟩
    exact course.files.due_suffix differ
  · rw [← course.grants]
    rfl

def handedOn : History × Fleet := followed []
  [.direct (.acquire pen dan),.direct (.acquire pen ada),.direct (.acquire pen bob),.direct (.acquire pen bob),
    .direct (.acquire pen cleo),.direct (.release pen cleo),.post 0,.settle 0 false,.direct (.release pen dan)]

theorem first_come_first_served_handed_on :
    (owners pen handedOn.1 = [dan,ada] ∧ handedOn.2.line pen = [bob,cleo]) ∧
    (∀ lock, comers lock handedOn.1 = owners lock handedOn.1 ++ handedOn.2.line lock ∧
      (handedOn.2.line lock).Nodup ∧
      (∀ client, handedOn.2.owner lock = some client → client ∉ handedOn.2.line lock) ∧
      (handedOn.2.owner lock = none → handedOn.2.line lock = [] ∧ (handedOn.2.lender.loan lock).revoking = false)) ∧
    (∀ now ∈ handedOn.1, (∀ n, n ≠ now.before.nextErrand → now.after.due n <:+ now.before.due n) ∧
      ∀ lock client, now.told.count (.retry client lock) =
        if (now.before.lender.loan lock).Passes (now.after.lender.loan lock) client then 1 else 0) ∧
    handedOn.2.lender.stat = UInt64.ofNat (∑ᶠ lock, (owners lock handedOn.1).length) :=
  ⟨by decide,(followed_course [] _).first_come_first_served⟩

end Fleet
end LockLender
