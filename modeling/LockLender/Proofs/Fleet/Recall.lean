import LockLender.Proofs.Fleet.Succession

namespace LockLender

def Closing (notices : List Notice) : Prop :=
  notices.Pairwise fun first _ => ∀ client lock, first ≠ .revoke client lock

namespace Loan
variable {client other : ClientId} {lock : LockId} {status : Status} {notices : List Notice} {loan after : Loan}

theorem Asked.closing (asked : Asked client lock loan status notices after) : Closing notices := by
  cases asked with
  | free | own | again => exact .nil
  | queue =>
      split
      · exact .nil
      · exact List.pairwise_singleton _ _

theorem Returned.closing (returned : Returned client lock loan notices after) : Closing notices := by
  cases returned with
  | stranger | freed => exact .nil
  | passed _ heir line =>
      refine .cons ?_ ?_
      · intro _ _ _ _ same
        cases same
      · split
        · exact .nil
        · exact List.pairwise_singleton _ _

theorem Asked.addressed (asked : Asked client lock loan status notices after)
    (told : .revoke other lock ∈ notices) : after.owner = some other := by
  cases asked with
  | free | own | again => cases told
  | queue keeper lent =>
      split at told
      · cases told
      · cases List.mem_singleton.mp told
        exact lent

theorem Returned.addressed (returned : Returned client lock loan notices after)
    (told : .revoke other lock ∈ notices) : after.owner = some other := by
  cases returned with
  | stranger | freed => cases told
  | passed _ heir line =>
      rcases List.mem_cons.mp told with same | rest
      · cases same
      · split at rest
        · cases rest
        · cases List.mem_singleton.mp rest
          rfl

end Loan

theorem Closing.one (closing : Closing notices) (lock : LockId) :
    (notices.filter (·.callback = .revoke lock)).length ≤ 1 := by
  induction closing with
  | nil => exact Nat.zero_le _
  | @cons first rest last _ ih =>
      by_cases revoke : first.callback = .revoke lock
      · have alone : rest = [] := by
          apply List.eq_nil_iff_forall_not_mem.mpr
          intro second member
          apply last second member first.client lock
          cases first
          cases revoke
          rfl
        simp [alone,revoke]
      · simpa [revoke] using ih

namespace Fleet
variable {past earlier : History} {fleet : Fleet} {client : ClientId} {lock : LockId} {n : Nat} {now : Moment}

def wanted (fleet : Fleet) (lock : LockId) : Bool := (fleet.lender.loan lock).revoking

def Queues (fleet : Fleet) (lock : LockId) (owner client : ClientId) : Prop :=
  fleet.owner lock = some owner ∧ client ≠ owner ∧ client ∉ fleet.line lock

instance (fleet : Fleet) (lock : LockId) (owner client : ClientId) : Decidable (fleet.Queues lock owner client) :=
  inferInstanceAs (Decidable (_ ∧ _ ∧ _))

namespace Moment

def recalls (now : Moment) (lock : LockId) : List Nat :=
  if now.told.any (·.callback = .revoke lock) then [now.before.nextErrand] else []

def failures (now : Moment) (lock : LockId) : List Nat :=
  match now.failure with
  | some (n,notice) => if notice.callback = .revoke lock then [n] else []
  | none => []

-- A revoke fails that is none of these, and the record changes.
def Slips (now : Moment) (lock : LockId) (recalls : List Nat) : Prop :=
  (∃ n ∈ now.failures lock, n ∉ recalls) ∧ now.after.lender.loan lock ≠ now.before.lender.loan lock

instance (now : Moment) (lock : LockId) (recalls : List Nat) : Decidable (now.Slips lock recalls) :=
  inferInstanceAs (Decidable (_ ∧ _))

end Moment

-- The errands that asked the owner for the lock back since it became the owner.
def recalls (lock : LockId) : History → List Nat
  | [] => []
  | now :: past =>
    now.recalls lock ++ if now.after.owner lock = now.before.owner lock then recalls lock past else []

def failures (lock : LockId) : History → List Nat
  | [] => []
  | now :: past => now.failures lock ++ failures lock past

def live (lock : LockId) (past : History) : List Nat := (recalls lock past).filter (· ∉ failures lock past)

def outstanding (fleet : Fleet) (lock : LockId) (past : History) : List Notice :=
  (recalls lock past).flatMap fun n => (fleet.due n).filter (·.callback = .revoke lock)

-- How often, since the owner became the owner, a revoke failed that had gone out
-- before, and the record changed nevertheless.
def slips (lock : LockId) : History → Nat
  | [] => 0
  | now :: past =>
    (if now.Slips lock (recalls lock past) then 1 else 0) +
      if now.after.owner lock = now.before.owner lock then slips lock past else 0

inductive Moment.Recalling (now : Moment) (lock : LockId) : Prop where
  | still (owner : now.after.owner lock = now.before.owner lock)
      (wanted : now.after.wanted lock = now.before.wanted lock)
      (untold : now.recalls lock = []) (well : now.failures lock = [])
  | anew (owner : now.after.owner lock ≠ now.before.owner lock)
      (wanted : now.after.wanted lock = !(now.recalls lock).isEmpty) (well : now.failures lock = [])
  | sent (owner : now.after.owner lock = now.before.owner lock)
      (unwanted : now.before.wanted lock = false) (wanted : now.after.wanted lock = true)
      (told : now.recalls lock = [now.before.nextErrand]) (well : now.failures lock = [])
  | failed (n : Nat) (client : ClientId) (failure : now.failure = some (n,.revoke client lock))
      (untold : now.recalls lock = [])
      (loan : now.after.lender.loan lock = (now.before.lender.loan lock).forget client)

theorem Moment.mem_failures : n ∈ now.failures lock ↔ ∃ client, now.failure = some (n,.revoke client lock) := by
  unfold failures
  split
  · rename_i j notice failure
    obtain ⟨client,callback⟩ := notice
    by_cases revoke : callback = .revoke lock
    · subst revoke
      rw [failure]
      constructor
      · intro member
        rw [if_pos rfl,List.mem_singleton] at member
        exact ⟨client,by rw [member]; rfl⟩
      · rintro ⟨_,same⟩
        cases same
        simp
    · rw [if_neg revoke,failure]
      constructor
      · intro member
        cases member
      · rintro ⟨_,same⟩
        cases same
        exact absurd rfl revoke
  · rename_i well
    simp [well]

theorem Moment.failures_none (well : ∀ n client, now.failure ≠ some (n,.revoke client lock)) :
    now.failures lock = [] := by
  apply List.eq_nil_iff_forall_not_mem.mpr
  intro n member
  obtain ⟨client,failure⟩ := mem_failures.mp member
  exact well n client failure

theorem Moment.recalls_none (untold : ∀ client, .revoke client lock ∉ now.told) : now.recalls lock = [] := by
  unfold recalls
  rw [if_neg]
  intro told
  obtain ⟨⟨client,callback⟩,member,revoke⟩ := List.any_eq_true.mp told
  cases of_decide_eq_true revoke
  exact untold client member

theorem Moment.recalls_told (told : .revoke client lock ∈ now.told) : now.recalls lock = [now.before.nextErrand] := by
  unfold recalls
  rw [if_pos]
  exact List.any_eq_true.mpr ⟨_,told,decide_eq_true rfl⟩

theorem Moment.mem_recalls (member : n ∈ now.recalls lock) : n = now.before.nextErrand ∧ now.told ≠ [] := by
  unfold recalls at member
  split at member
  · rename_i told
    refine ⟨List.mem_singleton.mp member,?_⟩
    intro untold
    rw [untold] at told
    cases told
  · cases member

theorem Moment.recalling_asked {status : Status} (orderly : (now.before.lender.loan lock).Orderly)
    (asked : Loan.Asked client lock (now.before.lender.loan lock) status now.told (now.after.lender.loan lock))
    (well : now.failures lock = []) : now.Recalling lock := by
  generalize told : now.told = notices at asked
  generalize later : now.after.lender.loan lock = after at asked
  cases asked with
  | free free =>
      refine .anew ?_ ?_ well
      · change (now.after.lender.loan lock).owner ≠ (now.before.lender.loan lock).owner
        rw [later,free]
        nofun
      · change (now.after.lender.loan lock).revoking = _
        rw [later,recalls_none (by simp [told])]
        exact (orderly.unowned free).2
  | own | again =>
      exact .still (congrArg Loan.owner later) (congrArg Loan.revoking later) (recalls_none (by simp [told])) well
  | queue keeper lent =>
      have owner := congrArg Loan.owner later
      have wanted := congrArg Loan.revoking later
      cases before : (now.before.lender.loan lock).revoking with
      | true => exact .still owner (wanted.trans before.symm) (recalls_none (by simp [told,before])) well
      | false =>
          have sent : .revoke keeper lock ∈ now.told := by simp [told,before]
          exact .sent owner before wanted (recalls_told sent) well

theorem Moment.recalling_returned (orderly : (now.before.lender.loan lock).Orderly)
    (returned : Loan.Returned client lock (now.before.lender.loan lock) now.told (now.after.lender.loan lock))
    (well : now.failures lock = []) : now.Recalling lock := by
  generalize told : now.told = notices at returned
  generalize later : now.after.lender.loan lock = after at returned
  cases returned with
  | stranger =>
      exact .still (congrArg Loan.owner later) (congrArg Loan.revoking later) (recalls_none (by simp [told])) well
  | freed own =>
      refine .anew ?_ ?_ well
      · change (now.after.lender.loan lock).owner ≠ (now.before.lender.loan lock).owner
        rw [later,own]
        nofun
      · change (now.after.lender.loan lock).revoking = _
        rw [later,recalls_none (by simp [told])]
        rfl
  | passed own heir line next =>
      refine .anew ?_ ?_ well
      · change (now.after.lender.loan lock).owner ≠ (now.before.lender.loan lock).owner
        rw [later,own]
        intro same
        apply orderly.apart client own
        rw [next,Option.some.inj same]
        exact List.mem_cons_self
      · change (now.after.lender.loan lock).revoking = _
        rw [later]
        cases line with
        | nil =>
            rw [recalls_none]
            · rfl
            · intro third member
              rw [told] at member
              cases List.mem_singleton.mp member
        | cons =>
            have sent : .revoke heir lock ∈ now.told := by simp [told]
            rw [recalls_told sent]
            rfl

theorem Moment.Deals.recalling (deals : now.Deals lock) (orderly : (now.before.lender.loan lock).Orderly) :
    now.Recalling lock := by
  cases deals with
  | rest same _ untold well =>
      refine .still (congrArg Loan.owner same) (congrArg Loan.revoking same) ?_ (failures_none well)
      exact recalls_none fun client told => untold _ told rfl
  | asked client status _ asked well => exact recalling_asked orderly asked (failures_none (by simp [well]))
  | returned client _ returned well => exact recalling_returned orderly returned (failures_none (by simp [well]))
  | failed n client failure _ untold lender =>
      refine .failed n client failure (recalls_none (by simp [untold])) ?_
      rw [lender]
      exact (Lender.failed_changes _ _ _).1

theorem Moment.Deals.addressed (deals : now.Deals lock) (told : .revoke client lock ∈ now.told) :
    now.after.owner lock = some client := by
  cases deals with
  | rest _ _ untold => exact absurd rfl (untold _ told)
  | asked _ _ _ asked => exact asked.addressed told
  | returned _ _ returned => exact returned.addressed told
  | failed _ _ _ _ untold =>
      rw [untold] at told
      cases told

theorem Course.told_closing (course : Course (now :: past) fleet) : Closing now.told := by
  cases told : now.told with
  | nil => exact .nil
  | cons first rest =>
      rw [← told]
      cases course.deals first.callback.lock with
      | rest _ _ untold => exact absurd rfl (untold first (by simp [told]))
      | asked _ _ _ asked => exact asked.closing
      | returned _ _ returned => exact returned.closing
      | failed _ _ _ _ untold =>
          rw [untold]
          exact .nil

theorem Course.closing (course : Course past fleet) (n : Nat) : Closing (fleet.due n) := by
  induction course with
  | start begins =>
      obtain ⟨roll,rfl⟩ := begins
      exact .nil
  | @step past fleet next happenings move course allowed ran ih =>
      have course : Course (_ :: past) next := course.step allowed ran
      by_cases new : n = fleet.nextErrand
      · exact new ▸ course.told_closing
      · exact ih.sublist (course.files.due_suffix new).sublist

theorem Moment.Files.failed (files : now.Files) (closing : Closing (now.before.due n))
    (failure : now.failure = some (n,.revoke client lock)) :
    .revoke client lock ∈ now.before.due n ∧ now.after.due n = [] := by
  cases files with
  | opened _ _ well =>
      rw [well] at failure
      cases failure
  | settled j notice ok head _ _ settled =>
      cases ok with
      | true =>
          rw [settled] at failure
          cases failure
      | false =>
          rw [settled] at failure
          cases failure
          refine ⟨by simp [head],?_⟩
          rw [head] at closing
          cases closing with
          | cons last =>
              apply List.eq_nil_iff_forall_not_mem.mpr
              intro second member
              exact last second member client lock rfl

theorem Moment.Files.number (files : now.Files) (posted : now.before.Posted) :
    now.after.nextErrand = now.before.nextErrand + if now.told = [] then 0 else 1 := by
  cases files with
  | opened _ number => exact number
  | settled n notice ok head others number =>
      have differ : now.before.nextErrand ≠ n := by
        intro same
        have unused := posted.due_next
        rw [same,head] at unused
        cases unused
      have untold : now.told = [] := (others _ differ).trans posted.due_next
      rw [number,if_pos untold,Nat.add_zero]

-- The mark in the record says that a revoke goes to the owner, and there is no
-- second one but for the slips.
structure Recalled (fleet : Fleet) (lock : LockId) (past : History) : Prop where
  sent : ∀ n ∈ recalls lock past, n < fleet.nextErrand
  once : (recalls lock past).Nodup
  addressed : ∀ n ∈ recalls lock past, ∀ client, .revoke client lock ∈ fleet.due n →
    fleet.owner lock = some client
  ended : ∀ n ∈ failures lock past, n < fleet.nextErrand ∧ fleet.due n = []
  marked : fleet.wanted lock = true → live lock past ≠ []
  few : (live lock past).length + (if fleet.wanted lock = true then 0 else 1) ≤ 1 + slips lock past

theorem live_same (same : recalls lock (now :: past) = recalls lock past) (well : now.failures lock = []) :
    live lock (now :: past) = live lock past := by
  unfold live
  rw [same,failures,well,List.nil_append]

theorem recalls_same (owner : now.after.owner lock = now.before.owner lock) (untold : now.recalls lock = []) :
    recalls lock (now :: past) = recalls lock past := by
  rw [recalls,untold,if_pos owner,List.nil_append]

theorem Moment.slips_iff {recalls : List Nat} (failure : now.failure = some (n,.revoke client lock))
    (late : n ∉ recalls)
    (loan : now.after.lender.loan lock = (now.before.lender.loan lock).forget client) :
    now.Slips lock recalls ↔ now.before.owner lock = some client ∧ now.before.wanted lock = true := by
  have failed : ∃ n ∈ now.failures lock, n ∉ recalls := ⟨n,mem_failures.mpr ⟨client,failure⟩,late⟩
  unfold Slips
  rw [loan,and_iff_right failed]
  exact Loan.forget_ne

theorem slips_same (owner : now.after.owner lock = now.before.owner lock) (well : now.failures lock = []) :
    slips lock (now :: past) = slips lock past := by
  have steady : ¬ now.Slips lock (recalls lock past) := by
    rintro ⟨⟨n,failed,_⟩,_⟩
    rw [well] at failed
    cases failed
  rw [slips,if_neg steady,if_pos owner,Nat.zero_add]

namespace Recalled
variable (recalled : Recalled now.before lock past)
include recalled

theorem sent_next (posted : now.before.Posted) (files : now.Files) :
    ∀ n ∈ recalls lock (now :: past), n < now.after.nextErrand := by
  intro n member
  have number := files.number posted
  rcases List.mem_append.mp member with new | old
  · obtain ⟨rfl,told⟩ := Moment.mem_recalls new
    rw [number,if_neg told]
    exact Nat.lt_succ_self _
  · split at old
    · have before := recalled.sent n old
      omega
    · cases old

theorem addressed_next (files : now.Files) (deals : now.Deals lock) : ∀ n ∈ recalls lock (now :: past), ∀ client,
    .revoke client lock ∈ now.after.due n → now.after.owner lock = some client := by
  intro n member client due
  rcases List.mem_append.mp member with new | old
  · obtain ⟨rfl,_⟩ := Moment.mem_recalls new
    exact deals.addressed due
  · split at old
    · rename_i owner
      have before := recalled.sent n old
      rw [owner]
      exact recalled.addressed n old client ((files.due_suffix (Nat.ne_of_lt before)).subset due)
    · cases old

theorem ended_next (posted : now.before.Posted) (files : now.Files) (closing : ∀ n, Closing (now.before.due n)) :
    ∀ n ∈ failures lock (now :: past), n < now.after.nextErrand ∧ now.after.due n = [] := by
  intro n member
  have number := files.number posted
  rcases List.mem_append.mp member with new | old
  · obtain ⟨client,failure⟩ := Moment.mem_failures.mp new
    obtain ⟨due,last⟩ := files.failed (closing n) failure
    have before := posted.lt_of_due due
    exact ⟨by omega,last⟩
  · obtain ⟨before,last⟩ := recalled.ended n old
    have rest := files.due_suffix (Nat.ne_of_lt before)
    rw [last] at rest
    exact ⟨by omega,List.suffix_nil.mp rest⟩

theorem once_next : (recalls lock (now :: past)).Nodup := by
  have unsent : now.before.nextErrand ∉ recalls lock past :=
    fun member => Nat.lt_irrefl _ (recalled.sent _ member)
  refine List.nodup_append.mpr ⟨?_,?_,?_⟩
  · unfold Moment.recalls
    split
    · exact List.nodup_singleton _
    · exact List.nodup_nil
  · split
    · exact recalled.once
    · exact List.nodup_nil
  · intro new first old second same
    obtain ⟨number,_⟩ := Moment.mem_recalls first
    split at second
    · exact unsent (number ▸ same ▸ second)
    · cases second

theorem live_anew (owner : now.after.owner lock ≠ now.before.owner lock) (well : now.failures lock = []) :
    live lock (now :: past) = now.recalls lock := by
  unfold live
  rw [recalls,failures,well,if_neg owner,List.nil_append,List.append_nil,List.filter_eq_self]
  intro n member
  obtain ⟨rfl,_⟩ := Moment.mem_recalls member
  apply decide_eq_true
  intro failed
  exact Nat.lt_irrefl _ (recalled.ended _ failed).1

theorem live_sent (owner : now.after.owner lock = now.before.owner lock)
    (told : now.recalls lock = [now.before.nextErrand]) (well : now.failures lock = []) :
    live lock (now :: past) = now.before.nextErrand :: live lock past := by
  have unfailed : now.before.nextErrand ∉ failures lock past :=
    fun failed => Nat.lt_irrefl _ (recalled.ended _ failed).1
  unfold live
  rw [recalls,failures,well,told,if_pos owner,List.nil_append]
  exact List.filter_cons_of_pos (decide_eq_true unfailed)

theorem live_failed (files : now.Files) (closing : ∀ n, Closing (now.before.due n))
    (failure : now.failure = some (n,.revoke client lock)) (owner : now.after.owner lock = now.before.owner lock)
    (untold : now.recalls lock = []) :
    n ∈ recalls lock past ∧ (live lock (now :: past)).length + 1 = (live lock past).length ∨
      n ∉ recalls lock past ∧ live lock (now :: past) = live lock past := by
  have failures : now.failures lock = [n] := by simp [Moment.failures,failure,Notice.revoke]
  have fewer : live lock (now :: past) = (live lock past).filter (· != n) := by
    unfold live
    rw [recalls_same owner untold,Fleet.failures,failures,List.filter_filter]
    apply List.filter_congr
    intro j _
    by_cases same : j = n <;> simp [same]
  obtain ⟨due,_⟩ := files.failed (closing n) failure
  by_cases sent : n ∈ recalls lock past
  · have alive : n ∈ live lock past := by
      refine List.mem_filter.mpr ⟨sent,decide_eq_true fun failed => ?_⟩
      rw [(recalled.ended n failed).2] at due
      cases due
    refine .inl ⟨sent,?_⟩
    have once : (live lock past).Nodup := recalled.once.filter _
    rw [fewer,← once.erase_eq_filter n,List.length_erase_of_mem alive]
    exact Nat.sub_add_cancel (List.length_pos_of_mem alive)
  · refine .inr ⟨sent,?_⟩
    rw [fewer,List.filter_eq_self]
    intro j alive
    apply bne_iff_ne.mpr
    rintro rfl
    exact sent (List.mem_filter.mp alive).1

theorem failed_next (files : now.Files) (closing : ∀ n, Closing (now.before.due n))
    (failure : now.failure = some (n,.revoke client lock)) (untold : now.recalls lock = [])
    (loan : now.after.lender.loan lock = (now.before.lender.loan lock).forget client) :
    (now.after.wanted lock = true → live lock (now :: past) ≠ []) ∧
      (live lock (now :: past)).length + (if now.after.wanted lock = true then 0 else 1) ≤
        1 + slips lock (now :: past) := by
  have marked := recalled.marked
  have few := recalled.few
  have owner : now.after.owner lock = now.before.owner lock := by
    change (now.after.lender.loan lock).owner = _
    rw [loan,Loan.forget_owner]
    rfl
  rcases recalled.live_failed files closing failure owner untold with ⟨sent,fewer⟩ | ⟨late,same⟩
  · obtain ⟨due,_⟩ := files.failed (closing n) failure
    have own := recalled.addressed n sent client due
    have unwanted : now.after.wanted lock = false := by
      change (now.after.lender.loan lock).revoking = false
      rw [loan,Loan.forget_own own]
    have steady : ¬ now.Slips lock (recalls lock past) := by
      rintro ⟨⟨j,failed,late⟩,_⟩
      obtain ⟨_,known⟩ := Moment.mem_failures.mp failed
      rw [failure] at known
      cases known
      exact late sent
    rw [slips,if_neg steady,if_pos owner,unwanted]
    exact ⟨nofun,by simp only [Bool.false_eq_true,if_false]; omega⟩
  · have slip := Moment.slips_iff failure late loan
    rw [same,slips,if_pos owner]
    by_cases again : now.before.owner lock = some client ∧ now.before.wanted lock = true
    · obtain ⟨own,wanted⟩ := again
      have unwanted : now.after.wanted lock = false := by
        change (now.after.lender.loan lock).revoking = false
        rw [loan,Loan.forget_own own]
      rw [if_pos (slip.mpr ⟨own,wanted⟩),unwanted]
      rw [wanted] at few
      exact ⟨nofun,by simp only [Bool.false_eq_true,if_false,if_true] at few ⊢; omega⟩
    · have steady := mt slip.mp again
      have kept : now.after.wanted lock = now.before.wanted lock := by
        by_contra changed
        refine steady ⟨⟨n,Moment.mem_failures.mpr ⟨client,failure⟩,late⟩,?_⟩
        exact fun alike => changed (congrArg Loan.revoking alike)
      rw [if_neg steady,Nat.zero_add,kept]
      exact ⟨marked,few⟩

theorem next (posted : now.before.Posted) (files : now.Files) (closing : ∀ n, Closing (now.before.due n))
    (deals : now.Deals lock) (orderly : (now.before.lender.loan lock).Orderly) :
    Recalled now.after lock (now :: past) := by
  have marked := recalled.marked
  have few := recalled.few
  obtain ⟨marked,few⟩ : (now.after.wanted lock = true → live lock (now :: past) ≠ []) ∧
      (live lock (now :: past)).length + (if now.after.wanted lock = true then 0 else 1) ≤
        1 + slips lock (now :: past) := by
    cases deals.recalling orderly with
    | still owner wanted untold well =>
        rw [live_same (recalls_same owner untold) well,slips_same owner well,wanted]
        exact ⟨marked,few⟩
    | anew owner wanted well =>
        rw [recalled.live_anew owner well,wanted]
        unfold Moment.recalls
        split <;> simp
    | sent owner unwanted wanted told well =>
        rw [recalled.live_sent owner told well,slips_same owner well,wanted]
        rw [unwanted] at few
        exact ⟨fun _ => List.cons_ne_nil _ _,few⟩
    | failed n client failure untold loan => exact recalled.failed_next files closing failure untold loan
  exact ⟨recalled.sent_next posted files,recalled.once_next,recalled.addressed_next files deals,
    recalled.ended_next posted files closing,marked,few⟩

end Recalled

theorem Course.recalled (course : Course past fleet) (lock : LockId) : Recalled fleet lock past := by
  induction course with
  | start begins =>
      obtain ⟨roll,rfl⟩ := begins
      exact ⟨nofun,List.nodup_nil,nofun,nofun,nofun,Nat.le_refl 1⟩
  | step before allowed ran ih =>
      have now : Course _ _ := before.step allowed ran
      have course : Course _ _ := before
      exact ih.next course.intact.posted now.files course.closing (now.deals lock) (course.orderly lock)

theorem Queues.told {owner : ClientId} (queues : fleet.Queues lock owner client) :
    (fleet.lender.acquire lock client).2.1 = if fleet.wanted lock = true then [] else [.revoke owner lock] := by
  obtain ⟨lent,differ,new⟩ := queues
  rcases ran : fleet.lender.acquire lock client with ⟨status,told,later⟩
  obtain ⟨after,asked,_⟩ := Lender.acquire_asked ran
  have lent : (fleet.lender.loan lock).owner = some owner := lent
  cases asked with
  | free free =>
      rw [free] at lent
      cases lent
  | own own =>
      rw [own] at lent
      cases lent
      exact absurd rfl differ
  | again _ _ _ queued => exact absurd queued new
  | queue keeper own =>
      rw [own] at lent
      cases lent
      rfl

theorem length_flatMap_le {α β : Type} {f : α → List β} {p : α → Bool} (xs : List α)
    (each : ∀ x, (f x).length ≤ if p x then 1 else 0) : (xs.flatMap f).length ≤ (xs.filter p).length := by
  induction xs with
  | nil => exact Nat.le_refl _
  | cons x xs ih =>
      have first := each x
      rw [List.flatMap_cons,List.length_append]
      by_cases counted : p x = true
      · rw [if_pos counted] at first
        rw [List.filter_cons_of_pos counted,List.length_cons]
        omega
      · rw [if_neg counted] at first
        rw [List.filter_cons_of_neg counted]
        omega

theorem Course.outstanding_live (course : Course past fleet) (lock : LockId) :
    (outstanding fleet lock past).length ≤ (live lock past).length := by
  apply length_flatMap_le
  intro n
  by_cases failed : n ∈ failures lock past
  · simp [((course.recalled lock).ended n failed).2]
  · simpa [failed] using (course.closing n).one lock

theorem Course.outstanding_owner (course : Course past fleet) {notice : Notice}
    (member : notice ∈ outstanding fleet lock past) : fleet.owner lock = some notice.client := by
  obtain ⟨n,sent,due⟩ := List.mem_flatMap.mp member
  obtain ⟨due,revoke⟩ := List.mem_filter.mp due
  obtain ⟨client,callback⟩ := notice
  cases of_decide_eq_true revoke
  exact (course.recalled lock).addressed n sent client due

theorem Course.slip (course : Course (now :: past) fleet) (failure : now.failure = some (n,.revoke client lock))
    (late : n ∉ recalls lock past) :
    (∀ other, now.after.lender.loan other = now.before.lender.loan other) ∨
      now.Slips lock (recalls lock past) ∧ now.after.owner lock = some client ∧ now.after.wanted lock = false ∧
        live lock (now :: past) ≠ [] := by
  have before : Course _ _ := course.latest.1
  cases course.deals lock with
  | rest _ _ _ well => exact absurd failure (well n client)
  | asked _ _ _ _ well | returned _ _ _ well =>
      rw [well] at failure
      cases failure
  | failed j third known unasked untold lender =>
      rw [failure] at known
      cases known
      have changes := Lender.failed_changes now.before.lender lock client
      rw [← lender] at changes
      obtain ⟨loan,rest⟩ := changes
      have slip := Moment.slips_iff failure late loan
      by_cases again : now.before.owner lock = some client ∧ now.before.wanted lock = true
      · obtain ⟨own,wanted⟩ := again
        rw [Loan.forget_own own] at loan
        have kept : now.after.owner lock = some client := (congrArg Loan.owner loan).trans own
        have owner : now.after.owner lock = now.before.owner lock := kept.trans own.symm
        refine .inr ⟨slip.mpr ⟨own,wanted⟩,kept,congrArg Loan.revoking loan,?_⟩
        have recalled := before.recalled lock
        have untold : now.recalls lock = [] := Moment.recalls_none (by simp [untold])
        rcases recalled.live_failed course.files before.closing failure owner untold with ⟨sent,_⟩ | ⟨_,same⟩
        · exact absurd sent late
        · exact same ▸ recalled.marked wanted
      · refine .inl fun other => ?_
        by_cases here : other = lock
        · by_contra changed
          exact again (slip.mp ⟨⟨n,Moment.mem_failures.mpr ⟨client,failure⟩,late⟩,here ▸ changed⟩)
        · exact rest other here

-- Unless the lender slips, one revoke at most is outstanding at the owner, and
-- who comes to stand in line has one sent exactly if there is none. The lender
-- slips when an earlier revoke fails whose client has the lock again: the next in
-- line then has a second one sent.
theorem Course.one_recall_unless_slipped (course : Course past fleet) (lock : LockId) :
    ((outstanding fleet lock past).length ≤ 1 + slips lock past ∧
      ∀ notice ∈ outstanding fleet lock past, fleet.owner lock = some notice.client) ∧
    (slips lock past = 0 → ∀ owner client, fleet.Queues lock owner client →
      (fleet.lender.acquire lock client).2.1 = if live lock past = [] then [.revoke owner lock] else []) ∧
    ∀ now earlier, now :: earlier <:+ past → ∀ n client, now.failure = some (n,.revoke client lock) →
      n ∉ recalls lock earlier →
      (∀ other, now.after.lender.loan other = now.before.lender.loan other) ∨
        now.Slips lock (recalls lock earlier) ∧ now.after.owner lock = some client ∧
          live lock (now :: earlier) ≠ [] ∧ ∀ other, now.after.Queues lock client other →
            (now.after.lender.acquire lock other).2.1 = [.revoke client lock] := by
  have recalled := course.recalled lock
  have few := recalled.few
  refine ⟨⟨?_,fun notice member => course.outstanding_owner member⟩,?_,?_⟩
  · have alive := course.outstanding_live lock
    omega
  · intro steady owner client queues
    rw [queues.told]
    cases wanted : fleet.wanted lock with
    | true => rw [if_pos rfl,if_neg (recalled.marked wanted)]
    | false =>
        rw [steady,wanted] at few
        have none : live lock past = [] := by simpa using few
        rw [if_pos none]
        rfl
  · intro now earlier suffix n client failure late
    have course : Course _ _ := (course.at_suffix suffix).2
    rcases course.slip failure late with same | ⟨slips,own,unwanted,alive⟩
    · exact .inl same
    · refine .inr ⟨slips,own,alive,fun other queues => ?_⟩
      rw [queues.told,unwanted]
      rfl

def sentAgain : History × Fleet := followed []
  [.direct (.acquire pen ada),.direct (.acquire pen bob),.direct (.release pen ada),.direct (.acquire pen cleo),
    .post 0,.settle 0 false,.post 2,.settle 2 false,.direct (.acquire pen dan),.post 3]

theorem one_recall_unless_slipped_sent_again :
    (slips pen sentAgain.1 = 0 ∧ sentAgain.2.Queues pen bob ada ∧
      (sentAgain.1.drop 4).head?.bind Moment.failure = some (0,.revoke ada pen) ∧
      0 ∉ recalls pen (sentAgain.1.drop 5)) ∧
    ((outstanding sentAgain.2 pen sentAgain.1).length ≤ 1 + slips pen sentAgain.1 ∧
      ∀ notice ∈ outstanding sentAgain.2 pen sentAgain.1, sentAgain.2.owner pen = some notice.client) ∧
    (slips pen sentAgain.1 = 0 → ∀ owner client, sentAgain.2.Queues pen owner client →
      (sentAgain.2.lender.acquire pen client).2.1 = if live pen sentAgain.1 = [] then [.revoke owner pen] else []) ∧
    ∀ now earlier, now :: earlier <:+ sentAgain.1 → ∀ n client, now.failure = some (n,.revoke client pen) →
      n ∉ recalls pen earlier →
      (∀ other, now.after.lender.loan other = now.before.lender.loan other) ∨
        now.Slips pen (recalls pen earlier) ∧ now.after.owner pen = some client ∧ live pen (now :: earlier) ≠ [] ∧
          ∀ other, now.after.Queues pen client other →
            (now.after.lender.acquire pen other).2.1 = [.revoke client pen] :=
  ⟨by decide,(followed_course [] _).one_recall_unless_slipped pen⟩

-- Ada's first revoke fails when she has the lock for the second time.
def askedTwice : History × Fleet := followed []
  [.direct (.acquire pen ada),.direct (.acquire pen bob),.direct (.release pen ada),.direct (.acquire pen ada),
    .direct (.release pen bob),.direct (.acquire pen cleo),.post 0,.settle 0 false,.direct (.acquire pen dan),
    .post 4,.post 5]

theorem asked_twice_outstanding : Course askedTwice.1 askedTwice.2 ∧ askedTwice.2.owner pen = some ada ∧
    outstanding askedTwice.2 pen askedTwice.1 = [.revoke ada pen,.revoke ada pen] :=
  ⟨followed_course [] _,by decide,by decide⟩

end Fleet
end LockLender
