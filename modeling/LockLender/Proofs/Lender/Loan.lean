import LockLender.Lender

namespace LockLender

inductive Loan.Asked (client : ClientId) (lock : LockId) (loan : Loan) : Status → List Notice → Loan → Prop where
  | free (free : loan.owner = none) :
      Asked client lock loan .granted [] { loan with owner := some client }
  | own (own : loan.owner = some client) : Asked client lock loan .granted [] loan
  | again (keeper : ClientId) (lent : loan.owner = some keeper) (other : keeper ≠ client)
      (queued : client ∈ loan.line) : Asked client lock loan .retry [] loan
  | queue (keeper : ClientId) (lent : loan.owner = some keeper) (other : keeper ≠ client)
      (new : client ∉ loan.line) :
      Asked client lock loan .retry (if loan.revoking then [] else [.revoke keeper lock])
        { loan with line := loan.line ++ [client], revoking := true }

inductive Loan.Returned (client : ClientId) (lock : LockId) (loan : Loan) : List Notice → Loan → Prop where
  | stranger (other : loan.owner ≠ some client) : Returned client lock loan [] loan
  | freed (own : loan.owner = some client) (alone : loan.line = []) :
      Returned client lock loan [] { loan with owner := none, revoking := false }
  | passed (own : loan.owner = some client) (heir : ClientId) (line : List ClientId)
      (next : loan.line = heir :: line) :
      Returned client lock loan (.retry heir lock :: if line = [] then [] else [.revoke heir lock])
        ⟨some heir,line,!line.isEmpty⟩

structure Loan.Orderly (loan : Loan) : Prop where
  apart : ∀ client, loan.owner = some client → client ∉ loan.line
  once : loan.line.Nodup
  unowned : loan.owner = none → loan.line = [] ∧ loan.revoking = false

def Loan.forget (loan : Loan) (client : ClientId) : Loan :=
  if loan.owner = some client then { loan with revoking := false } else loan

@[simp] theorem Loan.forget_owner (loan : Loan) (client : ClientId) : (loan.forget client).owner = loan.owner := by
  unfold forget
  split <;> rfl

@[simp] theorem Loan.forget_line (loan : Loan) (client : ClientId) : (loan.forget client).line = loan.line := by
  unfold forget
  split <;> rfl

theorem Loan.forget_own {loan : Loan} {client : ClientId} (own : loan.owner = some client) :
    loan.forget client = { loan with revoking := false } := if_pos own

theorem Loan.forget_ne {loan : Loan} {client : ClientId} :
    loan.forget client ≠ loan ↔ loan.owner = some client ∧ loan.revoking = true := by
  constructor
  · intro changed
    by_cases own : loan.owner = some client
    · refine ⟨own,?_⟩
      cases calm : loan.revoking with
      | true => rfl
      | false =>
          refine absurd ?_ changed
          rw [forget_own own,← calm]
    · exact absurd (if_neg own) changed
  · rintro ⟨own,revoking⟩ same
    rw [forget_own own] at same
    have calm := congrArg Loan.revoking same
    rw [revoking] at calm
    cases calm

theorem Loan.Orderly.forget {loan : Loan} (orderly : loan.Orderly) (client : ClientId) :
    (loan.forget client).Orderly := by
  unfold Loan.forget
  split
  · rename_i own
    refine ⟨orderly.apart,orderly.once,fun free => ?_⟩
    rw [show loan.owner = none from free] at own
    cases own
  · exact orderly

namespace Lender

def loan (lender : Lender) (lock : LockId) : Loan := (lender.loan? lock).getD {}

variable {lender next : Lender} {client : ClientId} {lock : LockId} {status : Status} {reply : Reply}
  {notices : List Notice} {loan after : Loan}

def Changes (lender : Lender) (lock : LockId) (loan : Loan) (next : Lender) : Prop :=
  next.loan lock = loan ∧ ∀ other, other ≠ lock → next.loan other = lender.loan other

theorem changes_write (loans : next.loans = lender.loans.put lock loan) : lender.Changes lock loan next := by
  refine ⟨by simp [Lender.loan,loan?,loans],?_⟩
  intro other differ
  simp [Lender.loan,loan?,loans,Table.find?_put_ne _ _ differ]

theorem changes_same (lender : Lender) (lock : LockId) : lender.Changes lock (lender.loan lock) lender :=
  ⟨rfl,fun _ _ => rfl⟩

theorem acquire_asked (ran : lender.acquire lock client = (status,notices,next)) :
    ∃ after, Loan.Asked client lock (lender.loan lock) status notices after ∧ lender.Changes lock after next := by
  unfold acquire at ran
  dsimp only at ran
  rw [show (lender.loan? lock).getD {} = lender.loan lock from rfl] at ran
  cases lent : (lender.loan lock).owner with
  | none =>
      simp only [lent,Prod.mk.injEq] at ran
      obtain ⟨rfl,rfl,rfl⟩ := ran
      exact ⟨_,.free lent,changes_write rfl⟩
  | some owner =>
      simp only [lent] at ran
      split at ran
      · rename_i own
        simp only [Prod.mk.injEq] at ran
        obtain ⟨rfl,rfl,rfl⟩ := ran
        exact ⟨_,.own (own ▸ lent),changes_same _ _⟩
      rename_i other
      split at ran
      · rename_i queued
        simp only [Prod.mk.injEq] at ran
        obtain ⟨rfl,rfl,rfl⟩ := ran
        exact ⟨_,.again _ lent other queued,changes_same _ _⟩
      · rename_i new
        simp only [Prod.mk.injEq] at ran
        obtain ⟨rfl,rfl,rfl⟩ := ran
        exact ⟨_,.queue _ lent other new,changes_write (by rw [lent]; rfl)⟩

theorem release_returned (ran : lender.release lock client = (.ok notices,next)) :
    ∃ after, Loan.Returned client lock (lender.loan lock) notices after ∧ lender.Changes lock after next := by
  unfold release at ran
  cases found : lender.loan? lock with
  | none => simp [found] at ran
  | some loan =>
      have here : lender.loan lock = loan := by simp [Lender.loan,found]
      simp only [found] at ran
      rw [here]
      split at ran
      · rename_i other
        simp only [Prod.mk.injEq,Except.ok.injEq] at ran
        obtain ⟨rfl,rfl⟩ := ran
        exact ⟨_,.stranger other,here ▸ changes_same _ _⟩
      rename_i own
      have own : loan.owner = some client := by simpa using own
      split at ran
      · rename_i alone
        simp only [Prod.mk.injEq,Except.ok.injEq] at ran
        obtain ⟨rfl,rfl⟩ := ran
        exact ⟨_,.freed own alone,changes_write rfl⟩
      · rename_i heir line more
        simp only [Prod.mk.injEq,Except.ok.injEq] at ran
        obtain ⟨rfl,rfl⟩ := ran
        have told : (if !line.isEmpty then [Notice.revoke heir lock] else []) =
            if line = [] then [] else [Notice.revoke heir lock] := by cases line <;> rfl
        rw [told]
        exact ⟨_,.passed own heir line more,changes_write rfl⟩

-- A lock that the lender has never seen is nobody's, so a release of it is one
-- by a stranger.
theorem release_unknown {fault : LockFault} (ran : lender.release lock client = (.error fault,next)) :
    next = lender ∧ Loan.Returned client lock (lender.loan lock) [] (lender.loan lock) := by
  unfold release at ran
  cases found : lender.loan? lock with
  | none =>
      simp only [found,Prod.mk.injEq] at ran
      exact ⟨ran.2.symm,.stranger (by simp [Lender.loan,found])⟩
  | some loan =>
      simp only [found] at ran
      split at ran
      · simp at ran
      · split at ran <;> simp at ran

theorem serve_acquire (ran : lender.serve (.acquire lock client) = (reply,notices,next)) :
    ∃ status after, reply = status.reply ∧ Loan.Asked client lock (lender.loan lock) status notices after ∧
      lender.Changes lock after next := by
  rcases served : lender.acquire lock client with ⟨status,told,later⟩
  simp only [serve,served,Prod.mk.injEq] at ran
  obtain ⟨rfl,rfl,rfl⟩ := ran
  obtain ⟨after,asked,changes⟩ := acquire_asked served
  exact ⟨status,after,rfl,asked,changes⟩

theorem serve_release (ran : lender.serve (.release lock client) = (reply,notices,next)) :
    ∃ after, (reply = .released ∨ reply = .noSuchLock lock) ∧
      Loan.Returned client lock (lender.loan lock) notices after ∧ lender.Changes lock after next := by
  simp only [serve] at ran
  cases served : lender.release lock client with
  | mk result later =>
      cases result with
      | ok told =>
          simp only [served,Prod.mk.injEq] at ran
          obtain ⟨rfl,rfl,rfl⟩ := ran
          obtain ⟨after,returned,changes⟩ := release_returned served
          exact ⟨after,.inl rfl,returned,changes⟩
      | error fault =>
          simp only [served,Prod.mk.injEq] at ran
          obtain ⟨rfl,rfl,rfl⟩ := ran
          obtain ⟨rfl,returned⟩ := release_unknown served
          exact ⟨_,.inr rfl,returned,changes_same _ _⟩

theorem failed_changes (lender : Lender) (lock : LockId) (client : ClientId) :
    lender.Changes lock ((lender.loan lock).forget client) (lender.revokeFailed lock client) := by
  unfold revokeFailed Loan.forget
  cases found : lender.loan? lock with
  | none =>
      have here : lender.loan lock = {} := by simp [Lender.loan,found]
      have unowned : (lender.loan lock).owner ≠ some client := by simp [here]
      rw [if_neg unowned]
      exact changes_same _ _
  | some loan =>
      have here : lender.loan lock = loan := by simp [Lender.loan,found]
      rw [here]
      dsimp only
      split
      · exact changes_write rfl
      · exact here ▸ changes_same _ _

theorem noticed_changes (lender : Lender) (notice : Notice) (ok : Bool) :
    ∃ after, lender.Changes notice.callback.lock after (lender.noticed notice ok) ∧
      (after = lender.loan notice.callback.lock ∨ ok = false ∧
        (lender.loan notice.callback.lock).owner = some notice.client ∧
        after = { lender.loan notice.callback.lock with revoking := false }) := by
  obtain ⟨client,callback⟩ := notice
  cases callback with
  | retry lock => exact ⟨_,changes_same _ _,.inl rfl⟩
  | revoke lock =>
      cases ok with
      | true => exact ⟨_,changes_same _ _,.inl rfl⟩
      | false =>
          refine ⟨_,failed_changes lender lock client,?_⟩
          unfold Loan.forget
          split
          · rename_i own
            exact .inr ⟨rfl,own,rfl⟩
          · exact .inl rfl

end Lender

namespace Loan
variable {client : ClientId} {lock : LockId} {status : Status} {notices : List Notice} {loan after : Loan}

theorem Asked.orderly (asked : Asked client lock loan status notices after) (orderly : loan.Orderly) :
    after.Orderly := by
  cases asked with
  | free free =>
      obtain ⟨alone,calm⟩ := orderly.unowned free
      refine ⟨?_,orderly.once,nofun⟩
      intro other _
      simp [alone]
  | own | again => exact orderly
  | queue keeper lent differ new =>
      refine ⟨?_,?_,fun free => by rw [lent] at free; cases free⟩
      · intro other own queued
        rcases List.mem_append.mp queued with before | last
        · exact orderly.apart other own before
        · rw [List.mem_singleton.mp last,lent] at own
          exact differ (Option.some.inj own)
      · refine List.nodup_append.mpr ⟨orderly.once,by simp,?_⟩
        intro first before second last same
        rw [List.mem_singleton.mp last] at same
        exact new (same ▸ before)

theorem Returned.orderly (returned : Returned client lock loan notices after) (orderly : loan.Orderly) :
    after.Orderly := by
  cases returned with
  | stranger => exact orderly
  | freed _ alone => exact ⟨nofun,orderly.once,fun _ => ⟨alone,rfl⟩⟩
  | passed _ heir line next =>
      have once := orderly.once
      rw [next] at once
      obtain ⟨apart,once⟩ := List.nodup_cons.mp once
      refine ⟨?_,once,nofun⟩
      intro other own
      rw [← Option.some.inj own]
      exact apart

theorem Asked.about (asked : Asked client lock loan status notices after) :
    ∀ notice ∈ notices, notice.callback.lock = lock := by
  intro notice told
  cases asked with
  | free | own | again => cases told
  | queue =>
      split at told
      · cases told
      · rw [List.mem_singleton.mp told]
        rfl

theorem Returned.about (returned : Returned client lock loan notices after) :
    ∀ notice ∈ notices, notice.callback.lock = lock := by
  intro notice told
  cases returned with
  | stranger | freed => cases told
  | passed =>
      rcases List.mem_cons.mp told with rfl | more
      · rfl
      · split at more
        · cases more
        · rw [List.mem_singleton.mp more]
          rfl

theorem Asked.self (asked : Asked client lock loan status notices after) :
    status = .granted ∧ after.owner = some client ∨ status = .retry ∧ client ∈ after.line := by
  cases asked with
  | free => exact .inl ⟨rfl,rfl⟩
  | own own => exact .inl ⟨rfl,own⟩
  | again _ _ _ queued => exact .inr ⟨rfl,queued⟩
  | queue => exact .inr ⟨rfl,List.mem_append_right _ (List.mem_singleton.mpr rfl)⟩

theorem Asked.others (asked : Asked client lock loan status notices after) {other : ClientId}
    (differ : other ≠ client) : (after.owner = some other ↔ loan.owner = some other) ∧
      (other ∈ after.line ↔ other ∈ loan.line) := by
  cases asked with
  | free free => simp [free,Ne.symm differ]
  | own | again => exact ⟨Iff.rfl,Iff.rfl⟩
  | queue => simp [differ]

theorem Asked.behind (asked : Asked client lock loan status notices after) {other : ClientId}
    (own : loan.owner = some other) (differ : client ≠ other) : status = .retry ∧ client ∈ after.line := by
  cases asked with
  | free free =>
      rw [free] at own
      cases own
  | own same =>
      rw [same] at own
      exact absurd (Option.some.inj own) differ
  | again _ _ _ queued => exact ⟨rfl,queued⟩
  | queue => exact ⟨rfl,by simp⟩

theorem Asked.unsignaled (asked : Asked client lock loan status notices after) (other : ClientId) :
    notices.count (.retry other lock) = 0 := by
  cases asked with
  | free | own | again => rfl
  | queue =>
      apply List.count_eq_zero.mpr
      intro told
      split at told
      · cases told
      · cases List.mem_singleton.mp told

theorem Returned.self (returned : Returned client lock loan notices after) (orderly : loan.Orderly) :
    after.owner ≠ some client ∧ (client ∈ after.line → client ∈ loan.line) ∧
      notices.count (.retry client lock) = 0 := by
  cases returned with
  | stranger other => exact ⟨other,fun queued => queued,rfl⟩
  | freed => exact ⟨nofun,fun queued => queued,rfl⟩
  | passed own heir line next =>
      have apart := orderly.apart client own
      rw [next] at apart
      have differ : heir ≠ client := fun same => apart (same ▸ List.mem_cons_self)
      refine ⟨fun same => differ (Option.some.inj same),?_,?_⟩
      · intro queued
        rw [next]
        exact List.mem_cons_of_mem _ queued
      · apply List.count_eq_zero.mpr
        intro told
        rcases List.mem_cons.mp told with first | more
        · exact differ (congrArg Notice.client first).symm
        · split at more
          · cases more
          · cases List.mem_singleton.mp more

theorem Returned.others (returned : Returned client lock loan notices after) {other : ClientId}
    (differ : other ≠ client) :
    notices.count (.retry other lock) = 0 ∧ (after.owner = some other ↔ loan.owner = some other) ∧
        (other ∈ after.line ↔ other ∈ loan.line) ∨
      notices.count (.retry other lock) = 1 ∧ other ∈ loan.line ∧ after.owner = some other := by
  cases returned with
  | stranger => exact .inl ⟨rfl,Iff.rfl,Iff.rfl⟩
  | freed own => exact .inl ⟨rfl,by simp [own,Ne.symm differ],Iff.rfl⟩
  | passed own heir line next =>
      have rest : (if line = [] then [] else [Notice.revoke heir lock]).count (.retry other lock) = 0 := by
        apply List.count_eq_zero.mpr
        intro told
        split at told
        · cases told
        · cases List.mem_singleton.mp told
      rw [List.count_cons,rest,next]
      by_cases first : heir = other
      · exact .inr ⟨by simp [first],by simp [first],by rw [first]⟩
      · have untold : Notice.retry heir lock ≠ .retry other lock :=
          fun same => first (congrArg Notice.client same)
        exact .inl ⟨by simp [untold],by simp [own,first,Ne.symm differ],by simp [Ne.symm first]⟩

def Pressed (loan : Loan) : Prop := loan.line ≠ [] → loan.revoking = true

theorem Asked.pressed (asked : Asked client lock loan status notices after) (pressed : loan.Pressed) :
    after.Pressed := by
  cases asked with
  | free | own | again => exact pressed
  | queue => exact fun _ => rfl

theorem Returned.pressed (returned : Returned client lock loan notices after) (pressed : loan.Pressed) :
    after.Pressed := by
  cases returned with
  | stranger => exact pressed
  | freed _ alone => exact fun more => absurd alone more
  | passed _ heir line =>
      intro more
      cases line with
      | nil => exact absurd rfl more
      | cons => rfl

theorem Asked.told (asked : Asked client lock loan status notices after) (orderly : loan.Orderly)
    {other : ClientId} (own : after.owner = some other) (revoking : after.revoking = true) :
    loan.owner = some other ∧ loan.revoking = true ∨ 0 < notices.count (.revoke other lock) := by
  cases asked with
  | free free =>
      have calm := (orderly.unowned free).2
      rw [show loan.revoking = true from revoking] at calm
      cases calm
  | own | again => exact .inl ⟨own,revoking⟩
  | queue keeper lent =>
      cases wanted : loan.revoking with
      | true => exact .inl ⟨own,rfl⟩
      | false =>
          rw [show loan.owner = some other from own] at lent
          cases lent
          exact .inr (by simp)

theorem Returned.told (returned : Returned client lock loan notices after)
    {other : ClientId} (own : after.owner = some other) (revoking : after.revoking = true) :
    other ≠ client ∧ loan.owner = some other ∧ loan.revoking = true ∨ 0 < notices.count (.revoke other lock) := by
  cases returned with
  | stranger differ => exact .inl ⟨fun same => differ (same ▸ own),own,revoking⟩
  | freed => cases own
  | passed _ heir line =>
      cases own
      cases line with
      | nil => cases revoking
      | cons => exact .inr (by simp)

theorem new_orderly : ({} : Loan).Orderly := ⟨nofun,List.nodup_nil,fun _ => ⟨rfl,rfl⟩⟩

end Loan
end LockLender
