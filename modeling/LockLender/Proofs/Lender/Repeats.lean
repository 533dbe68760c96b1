import LockLender.Proofs.Lender.Course

namespace LockLender.Lender

def Moment.Gains (client : ClientId) (lock : LockId) (now : Moment) : Prop :=
  (now.before.loan lock).owner ≠ some client ∧ (now.after.loan lock).owner = some client

-- A request that was sent before, and what it is to be answered: an acquire by
-- who has the lock or stands in line for it, and a release by who was told that
-- the lock is released and has not got it since.
inductive Moment.Repeats (now : Moment) (past : List Moment) : Reply → Prop where
  | owned (lock : LockId) (client : ClientId) (asks : now.event = .acquire lock client)
      (own : (now.before.loan lock).owner = some client) : Repeats now past .granted
  | queued (lock : LockId) (client : ClientId) (asks : now.event = .acquire lock client)
      (queued : client ∈ (now.before.loan lock).line) : Repeats now past .retry
  | returned (lock : LockId) (client : ClientId) (returns : now.event = .release lock client) (since : List Moment)
      (first : Moment) (earlier : List Moment) (split : past = since ++ first :: earlier)
      (same : first.event = .release lock client) (released : first.reply = some .released)
      (gone : ∀ moment ∈ since, ¬moment.Gains client lock) : Repeats now past .released

inductive Leaves : List Moment → List Moment → Prop where
  | nil : Leaves [] []
  | keep (now : Moment) {earlier kept : List Moment} (rest : Leaves earlier kept) :
      Leaves (now :: earlier) (now :: kept)
  | drop {now : Moment} {earlier kept : List Moment} {answer : Reply} (again : now.Repeats earlier answer)
      (rest : Leaves earlier kept) : Leaves (now :: earlier) kept

variable {lender : Lender} {past : List Event} {lock : LockId} {client : ClientId} {notice : Notice}
  {now first : Moment} {earlier since kept : List Moment} {answer : Reply}

theorem course_suffix (happened : now :: earlier <:+ course past) :
    ∃ before event, now = (after before).meet event ∧ earlier = course before := by
  induction past with
  | nil => simp [course] at happened
  | cons event past ih =>
      rcases List.suffix_cons_iff.mp happened with same | later
      · cases same
        exact ⟨past,event,rfl,rfl⟩
      · exact ih later

theorem noticed_orderly (orderly : (lender.loan notice.callback.lock).Orderly) (ok : Bool) :
    ((lender.noticed notice ok).loan notice.callback.lock).Orderly := by
  obtain ⟨client,callback⟩ := notice
  cases callback with
  | retry => exact orderly
  | revoke lock =>
      cases ok with
      | true => exact orderly
      | false =>
          change ((lender.revokeFailed lock client).loan lock).Orderly
          rw [(failed_changes lender lock client).1]
          exact orderly.forget client

theorem after_orderly (past : List Event) (lock : LockId) : ((after past).loan lock).Orderly := by
  induction past with
  | nil => exact Loan.new_orderly
  | cons event past ih =>
      by_cases here : lock = event.lock
      · subst here
        cases event with
        | acquire lock client =>
            obtain ⟨_,_,asked,changes⟩ := (after past).meet_acquire lock client
            exact changes.1 ▸ asked.orderly ih
        | release lock client =>
            obtain ⟨_,returned,changes⟩ := (after past).meet_release lock client
            exact changes.1 ▸ returned.orderly ih
        | outcome notice ok => exact noticed_orderly ih ok
      · have same : (after (event :: past)).loan lock = (after past).loan lock := by
          simp only [loan,after,meet_elsewhere _ event here]
        rw [same]
        exact ih

theorem meet_known (lender : Lender) (event : Event) (known : lender.loan? lock ≠ none) :
    (lender.meet event).after.loan? lock ≠ none := by
  obtain ⟨⟨reply,told,change⟩,met⟩ := meet_turn _ event
  rw [met lender rfl]
  cases change with
  | none => exact known
  | some change =>
      by_cases here : lock = event.lock
      · rw [here]
        exact fun unknown => by simp [Turn.taken,loan?,write] at unknown
      · rw [Turn.elsewhere _ _ here]
        exact known

theorem meet_owned (own : (lender.loan lock).owner = some client) :
    lender.meet (.acquire lock client) = ⟨lender,.acquire lock client,some .granted,[],lender⟩ := by
  have lent : ((lender.loan? lock).getD {}).owner = some client := own
  simp only [meet,serve,acquire,lent,if_true]
  rfl

theorem meet_queued (orderly : (lender.loan lock).Orderly) (queued : client ∈ (lender.loan lock).line) :
    lender.meet (.acquire lock client) = ⟨lender,.acquire lock client,some .retry,[],lender⟩ := by
  have inLine : client ∈ ((lender.loan? lock).getD {}).line := queued
  cases lent : ((lender.loan? lock).getD {}).owner with
  | none =>
      rw [(orderly.unowned lent).1] at queued
      cases queued
  | some owner =>
      have other : owner ≠ client := by
        rintro rfl
        exact orderly.apart _ lent queued
      simp only [meet,serve,acquire,lent,other,inLine,if_true,if_false]
      rfl

theorem meet_returned (known : lender.loan? lock ≠ none) (other : (lender.loan lock).owner ≠ some client) :
    lender.meet (.release lock client) = ⟨lender,.release lock client,some .released,[],lender⟩ := by
  obtain ⟨loan,known⟩ := Option.ne_none_iff_exists'.mp known
  have other : loan.owner ≠ some client := by simpa [Lender.loan,known] using other
  simp only [meet,serve,release,known,other,ne_eq,not_false_eq_true,if_true]

theorem gone_still (split : course past = since ++ first :: earlier)
    (returns : first.event = .release lock client) (released : first.reply = some .released)
    (gone : ∀ moment ∈ since, ¬moment.Gains client lock) :
    (after past).loan? lock ≠ none ∧ ((after past).loan lock).owner ≠ some client := by
  induction since generalizing past with
  | nil =>
      cases past with
      | nil => cases split
      | cons event past =>
          obtain ⟨rfl,-⟩ := List.cons.inj split
          rw [meet_event] at returns
          subst returns
          obtain ⟨_,returned,changes⟩ := (after past).meet_release lock client
          constructor
          · apply meet_known
            intro unknown
            simp [meet,serve,release,unknown] at released
          · rw [show (after (.release lock client :: past)).loan lock = _ from changes.1]
            exact (returned.self (after_orderly past lock)).1
  | cons moment since ih =>
      cases past with
      | nil => cases split
      | cons event past =>
          obtain ⟨now,split⟩ := List.cons.inj split
          obtain ⟨known,other⟩ := ih split fun moment past => gone moment (List.mem_cons_of_mem _ past)
          refine ⟨meet_known _ event known,fun own => ?_⟩
          refine gone _ List.mem_cons_self ⟨?_,?_⟩
          · rw [← now,meet_before]
            exact other
          · rw [← now]
            exact own

theorem Moment.Repeats.harmless (happened : now :: earlier <:+ course past) (again : now.Repeats earlier answer) :
    now.reply = some answer ∧ now.told = [] ∧ now.after = now.before := by
  obtain ⟨before,event,rfl,rfl⟩ := course_suffix happened
  have orderly := after_orderly before
  cases again with
  | owned lock client asks own =>
      rw [meet_event] at asks
      rw [meet_before] at own
      rw [asks,meet_owned own]
      exact ⟨rfl,rfl,rfl⟩
  | queued lock client asks queued =>
      rw [meet_event] at asks
      rw [meet_before] at queued
      rw [asks,meet_queued (orderly lock) queued]
      exact ⟨rfl,rfl,rfl⟩
  | returned lock client returns since first earlier split same released gone =>
      obtain ⟨known,other⟩ := gone_still split same released gone
      rw [meet_event] at returns
      rw [returns,meet_returned known other]
      exact ⟨rfl,rfl,rfl⟩

theorem Leaves.course (leaves : Leaves (course past) kept) :
    ∃ rest, kept = Lender.course rest ∧ after rest = after past ∧ sent kept = sent (Lender.course past) := by
  induction past generalizing kept with
  | nil =>
      cases leaves
      exact ⟨[],rfl,rfl,rfl⟩
  | cons event past ih =>
      cases leaves with
      | keep _ leaves =>
          obtain ⟨rest,rfl,same,told⟩ := ih leaves
          refine ⟨event :: rest,?_,?_,?_⟩
          · rw [Lender.course,same]
          · rw [after,after,same]
          · simp only [sent,Lender.course,List.reverse_cons,List.flatMap_append] at told ⊢
            rw [told]
      | drop again leaves =>
          obtain ⟨rest,rfl,same,told⟩ := ih leaves
          obtain ⟨-,silent,still⟩ := again.harmless (List.suffix_refl (Lender.course (event :: past)))
          refine ⟨rest,rfl,?_,?_⟩
          · rw [same,after,still,meet_before]
          · rw [told]
            simp [sent,Lender.course,silent]

-- What is sent again is answered as before and changes nothing, and a run
-- without any of it goes on as it did.
theorem repeats_harmless (past : List Event) :
    (∀ (now : Moment) (earlier : List Moment) (answer : Reply), now :: earlier <:+ course past →
      now.Repeats earlier answer → now.reply = some answer ∧ now.told = [] ∧ now.after = now.before) ∧
    ∀ kept, Leaves (course past) kept →
      ∃ rest, kept = course rest ∧ after rest = after past ∧ sent kept = sent (course past) :=
  ⟨fun _ _ _ happened again => again.harmless happened,fun _ leaves => leaves.course⟩

theorem repeats_harmless_situation :
    let past : List Event := [.release ⟨7⟩ ⟨"ada"⟩,.release ⟨7⟩ ⟨"ada"⟩,.acquire ⟨7⟩ ⟨"ada"⟩,.acquire ⟨7⟩ ⟨"bob"⟩,
      .acquire ⟨7⟩ ⟨"bob"⟩,.acquire ⟨7⟩ ⟨"ada"⟩]
    (∃ now earlier, now :: earlier <:+ course past ∧ now.Repeats earlier .released ∧ now.reply = some .released ∧
      now.told = [] ∧ now.after = now.before) ∧
    ∃ kept, Leaves (course past) kept ∧ kept.map (·.event) =
        [.release ⟨7⟩ ⟨"ada"⟩,.acquire ⟨7⟩ ⟨"bob"⟩,.acquire ⟨7⟩ ⟨"ada"⟩] ∧
      ∃ rest, kept = course rest ∧ after rest = after past ∧ sent kept = sent (course past) := by
  intro past
  obtain ⟨harmless,same⟩ := repeats_harmless past
  have again : Moment.Repeats ((after past.tail).meet (.release ⟨7⟩ ⟨"ada"⟩)) (course past.tail) .released :=
    .returned ⟨7⟩ ⟨"ada"⟩ rfl [] _ _ rfl rfl (by decide) nofun
  have leaves : Leaves (course past) [(after (past.drop 2)).meet (.release ⟨7⟩ ⟨"ada"⟩),
      (after (past.drop 5)).meet (.acquire ⟨7⟩ ⟨"bob"⟩),(after (past.drop 6)).meet (.acquire ⟨7⟩ ⟨"ada"⟩)] := by
    apply Leaves.drop again
    apply Leaves.keep
    apply Leaves.drop (.owned ⟨7⟩ ⟨"ada"⟩ rfl (by decide))
    apply Leaves.drop (.queued ⟨7⟩ ⟨"bob"⟩ rfl (by decide))
    apply Leaves.keep
    apply Leaves.keep
    exact .nil
  exact ⟨⟨_,_,List.suffix_refl _,again,harmless _ _ _ (List.suffix_refl _) again⟩,_,leaves,rfl,same _ leaves⟩

end LockLender.Lender
