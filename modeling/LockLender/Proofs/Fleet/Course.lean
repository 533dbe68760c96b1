import LockLender.Proofs.Fleet.History

namespace LockLender.Fleet
open Borrower

-- Requests in anyone's name at any time, and any outcome of any notice after any delay.
abbrev unlimited : Machine Fleet Move (List Happening) where
  begins fleet := ∃ roll, fleet = start roll
  step := step

abbrev Course : History → Fleet → Prop := unlimited.Runs

def due (fleet : Fleet) (errand : Nat) : List Notice :=
  match fleet.errands.find? errand with
  | none => []
  | some errand => errand.notices

namespace Moment

def request (now : Moment) : Option Request :=
  match now.act with
  | .serve client k => now.before.requests.find? (client,k)
  | .direct request => some request
  | _ => none

-- Notices go out as the errand of the next number.
def told (now : Moment) : List Notice := now.after.due now.before.nextErrand

def failure (now : Moment) : Option (Nat × Notice) :=
  match now.act with
  | .settle n false => (now.before.due n).head?.map (n,·)
  | _ => none

inductive Deals (now : Moment) (lock : LockId) : Prop where
  | rest (same : now.after.lender.loan lock = now.before.lender.loan lock)
      (unasked : ∀ client, now.request ≠ some (.acquire lock client))
      (untold : ∀ notice ∈ now.told, notice.callback.lock ≠ lock)
      (well : ∀ n client, now.failure ≠ some (n,.revoke client lock))
  | asked (client : ClientId) (status : Status) (request : now.request = some (.acquire lock client))
      (asked : Loan.Asked client lock (now.before.lender.loan lock) status now.told (now.after.lender.loan lock))
      (well : now.failure = none)
  | returned (client : ClientId) (request : now.request = some (.release lock client))
      (returned : Loan.Returned client lock (now.before.lender.loan lock) now.told (now.after.lender.loan lock))
      (well : now.failure = none)
  | failed (n : Nat) (client : ClientId) (failure : now.failure = some (n,.revoke client lock))
      (unasked : now.request = none) (untold : now.told = [])
      (lender : now.after.lender = now.before.lender.revokeFailed lock client)

inductive Files (now : Moment) : Prop where
  | opened (others : ∀ n, n ≠ now.before.nextErrand → now.after.due n = now.before.due n)
      (number : now.after.nextErrand = now.before.nextErrand + if now.told = [] then 0 else 1)
      (well : now.failure = none)
  | settled (n : Nat) (notice : Notice) (ok : Bool) (head : now.before.due n = notice :: now.after.due n)
      (others : ∀ j, j ≠ n → now.after.due j = now.before.due j)
      (number : now.after.nextErrand = now.before.nextErrand)
      (failure : now.failure = if ok then none else some (n,notice))

end Moment

variable {past earlier : History} {fleet next : Fleet} {move : Move} {happenings : List Happening} {client : ClientId}
  {input : Input} {k n : Nat} {lock : LockId} {effects : List Effect} {now : Moment}

theorem Course.intact (course : Course past fleet) : fleet.Intact := by
  induction course with
  | start begins =>
      obtain ⟨roll,rfl⟩ := begins
      exact start_intact roll
  | step _ _ ran ih => exact (step_did ih.staffed ran).intact ih

theorem due_congr (errands : next.errands = fleet.errands) (n : Nat) : next.due n = fleet.due n := by
  simp only [due,errands]

theorem Posted.due_next (posted : fleet.Posted) : fleet.due fleet.nextErrand = [] := by
  simp [due,posted.errandsBelow.unused]

theorem Posted.lt_of_due (posted : fleet.Posted) {notice : Notice} (pending : notice ∈ fleet.due n) :
    n < fleet.nextErrand := by
  cases found : fleet.errands.find? n with
  | none => simp [due,found] at pending
  | some errand => exact posted.errandsBelow n errand found

theorem due_put (notices : next.errands = fleet.errands.put n ⟨told,sent⟩) :
    next.due n = told ∧ ∀ j, j ≠ n → next.due j = fleet.due j := by
  refine ⟨by simp [due,notices],?_⟩
  intro j differ
  simp [due,notices,Table.find?_put_ne _ _ differ]

theorem due_settle {rest : List Notice}
    (errands : next.errands = if rest = [] then fleet.errands.remove n else fleet.errands.put n ⟨rest,false⟩) :
    next.due n = rest ∧ ∀ j, j ≠ n → next.due j = fleet.due j := by
  split at errands
  · rename_i last
    refine ⟨by simp [due,errands,last],?_⟩
    intro j differ
    simp [due,errands,Table.find?_remove_ne _ differ]
  · exact due_put errands

theorem due_dispatch (posted : fleet.Posted) (later : Lender) (told : List Notice) :
    (fleet.dispatch later told).due fleet.nextErrand = told ∧
      ∀ n, n ≠ fleet.nextErrand → (fleet.dispatch later told).due n = fleet.due n := by
  unfold dispatch
  cases told with
  | nil => exact ⟨posted.due_next,fun _ _ => rfl⟩
  | cons first rest => exact due_put rfl

theorem dispatch_number (fleet : Fleet) (later : Lender) (told : List Notice) :
    (fleet.dispatch later told).nextErrand = fleet.nextErrand + if told = [] then 0 else 1 := by
  cases told <;> rfl

theorem deals_served {request : Request} {reply : Reply} {told : List Notice} {later : Lender}
    (served : now.before.lender.serve request = (reply,told,later)) (asked : now.request = some request)
    (loans : now.after.lender = later) (notices : now.told = told) (well : now.failure = none) : now.Deals lock := by
  have elsewhere {other : LockId} (about : ∀ notice ∈ told, notice.callback.lock = other) (differ : lock ≠ other)
      (same : later.loan lock = now.before.lender.loan lock)
      (unasked : ∀ client, now.request ≠ some (.acquire lock client)) : now.Deals lock := by
    refine .rest (by rw [loans,same]) unasked ?_ (by simp [well])
    intro notice member there
    rw [notices] at member
    exact differ (there.symm.trans (about notice member))
  cases request with
  | acquire other client =>
      obtain ⟨status,after,_,change,here,rest⟩ := Lender.serve_acquire served
      by_cases same : lock = other
      · subst same
        rw [← here,← loans,← notices] at change
        exact .asked client status asked change well
      · exact elsewhere change.about same (rest lock same) (by simp [asked,Ne.symm same])
  | release other client =>
      obtain ⟨after,_,change,here,rest⟩ := Lender.serve_release served
      by_cases same : lock = other
      · subst same
        rw [← here,← loans,← notices] at change
        exact .returned client asked change well
      · exact elsewhere change.about same (rest lock same) (by simp [asked])
  | stat other =>
      cases served
      exact .rest (by rw [loans]) (by simp [asked]) (by simp [notices]) (by simp [well])

theorem deals_rest (lender : now.after.lender = now.before.lender) (unasked : now.request = none)
    (untold : now.told = []) (well : now.failure = none) : now.Deals lock :=
  .rest (by rw [lender]) (by simp [unasked]) (by simp [untold]) (by simp [well])

theorem deals_settled {notice : Notice} {ok : Bool} (move : now.act = .settle n ok)
    (failure : now.failure = if ok then none else some (n,notice))
    (lender : now.after.lender = now.before.lender.noticed notice ok) (untold : now.told = []) : now.Deals lock := by
  have unasked : now.request = none := by simp [Moment.request,move]
  obtain ⟨client,callback⟩ := notice
  cases ok with
  | true =>
      refine deals_rest ?_ unasked untold failure
      rw [lender]
      cases callback <;> rfl
  | false =>
      cases callback with
      | retry other =>
          refine .rest (by rw [lender]; rfl) (by simp [unasked]) (by simp [untold]) ?_
          intro j third
          rw [failure]
          nofun
      | revoke other =>
          by_cases same : lock = other
          · subst same
            exact .failed n client failure unasked untold lender
          · have rest := (Lender.failed_changes now.before.lender other client).2 lock same
            refine .rest (by rw [lender]; exact rest) (by simp [unasked]) (by simp [untold]) ?_
            intro j third
            rw [failure]
            rintro ⟨⟩
            exact same rfl

theorem Did.deals (did : fleet.Did move happenings next) (posted : fleet.Posted) (lock : LockId) :
    Moment.Deals ⟨fleet,move,happenings,next⟩ lock := by
  have quiet {later : Fleet} (errands : later.errands = fleet.errands) : later.due fleet.nextErrand = [] :=
    (due_congr errands _).trans posted.due_next
  cases did with
  | begin acts | retry acts | advance acts | deliver _ acts | lose _ acts | revoke _ acts | signal _ acts =>
      obtain ⟨lender,_,_,errands,_⟩ := acts.post
      exact deals_rest lender rfl (quiet errands) rfl
  | @serve client k request reply later told out served =>
      have same : Posted { fleet with
          requests := fleet.requests.remove (client,k), replies := fleet.replies.put (client,k) (.ok reply) } :=
        ⟨posted.errands,posted.notices,posted.errandsBelow,posted.noticesBelow⟩
      exact deals_served served out (dispatch_frame _ _ _).2.2.2 (due_dispatch same later told).1 rfl
  | direct later told served =>
      exact deals_served served rfl (dispatch_frame _ _ _).2.2.2 (due_dispatch posted later told).1 rfl
  | refuse | discard => exact deals_rest rfl rfl (quiet rfl) rfl
  | @post n notice rest found =>
      have differ : fleet.nextErrand ≠ n := Nat.ne_of_gt (posted.errandsBelow _ _ found)
      exact deals_rest rfl rfl (((due_put rfl).2 _ differ).trans posted.due_next) rfl
  | @settle n notice rest ok found =>
      have head : fleet.due n = notice :: rest := by simp [due,found]
      have differ : fleet.nextErrand ≠ n := Nat.ne_of_gt (posted.errandsBelow _ _ found)
      refine deals_settled rfl ?_ rfl (((due_settle rfl).2 _ differ).trans posted.due_next)
      cases ok <;> simp [Moment.failure,head]

theorem files_told {told : List Notice} (notices : now.told = told)
    (others : ∀ n, n ≠ now.before.nextErrand → now.after.due n = now.before.due n)
    (number : now.after.nextErrand = now.before.nextErrand + if told = [] then 0 else 1)
    (well : now.failure = none) : now.Files := .opened others (notices ▸ number) well

theorem Did.files (did : fleet.Did move happenings next) (posted : fleet.Posted) :
    Moment.Files ⟨fleet,move,happenings,next⟩ := by
  have quiet {later : Fleet} (errands : later.errands = fleet.errands) : later.due fleet.nextErrand = [] :=
    (due_congr errands _).trans posted.due_next
  cases did with
  | begin acts | retry acts | advance acts | deliver _ acts | lose _ acts | revoke _ acts | signal _ acts =>
      obtain ⟨_,_,_,errands,number,_⟩ := acts.post
      exact files_told (quiet errands) (fun n _ => due_congr errands n) number rfl
  | @serve client k request reply later told =>
      have same : Posted { fleet with
          requests := fleet.requests.remove (client,k), replies := fleet.replies.put (client,k) (.ok reply) } :=
        ⟨posted.errands,posted.notices,posted.errandsBelow,posted.noticesBelow⟩
      obtain ⟨here,others⟩ := due_dispatch same later told
      exact files_told here others (dispatch_number _ later told) rfl
  | direct later told =>
      obtain ⟨here,others⟩ := due_dispatch posted later told
      exact files_told here others (dispatch_number _ later told) rfl
  | refuse | discard => exact files_told (quiet rfl) (fun _ _ => rfl) rfl rfl
  | @post n notice rest found =>
      have differ : fleet.nextErrand ≠ n := Nat.ne_of_gt (posted.errandsBelow _ _ found)
      refine files_told (((due_put rfl).2 _ differ).trans posted.due_next) (fun j _ => ?_) rfl rfl
      by_cases same : j = n
      · rw [same,(due_put rfl).1]
        simp [due,found]
      · exact (due_put rfl).2 j same
  | @settle n notice rest ok found =>
      have head : fleet.due n = notice :: rest := by simp [due,found]
      refine .settled n notice ok ?_ (due_settle rfl).2 rfl ?_
      · exact head.trans (congrArg _ (due_settle rfl).1.symm)
      · cases ok <;> simp [Moment.failure,head]

theorem Course.deals (course : Course (now :: past) fleet) (lock : LockId) : now.Deals lock := by
  cases course with
  | step course _ ran =>
      have intact := Course.intact course
      exact (step_did intact.staffed ran).deals intact.posted lock

theorem Course.files (course : Course (now :: past) fleet) : now.Files := by
  cases course with
  | step course _ ran =>
      have intact := Course.intact course
      exact (step_did intact.staffed ran).files intact.posted

theorem Moment.Files.due_suffix (files : now.Files) (differ : n ≠ now.before.nextErrand) :
    now.after.due n <:+ now.before.due n := by
  cases files with
  | opened others => exact others n differ ▸ List.suffix_refl _
  | settled j notice ok head others =>
      by_cases same : n = j
      · subst same
        exact head ▸ List.suffix_cons notice _
      · exact others n same ▸ List.suffix_refl _

def cleo : ClientId := ⟨"cleo"⟩
def dan : ClientId := ⟨"dan"⟩

def followed (roll : Roll) (moves : List Move) : History × Fleet := unlimited.follow [] (start roll) moves

theorem followed_course (roll : Roll) (moves : List Move) : Course (followed roll moves).1 (followed roll moves).2 :=
  unlimited.follow_runs (.start ⟨roll,rfl⟩) moves

end LockLender.Fleet
