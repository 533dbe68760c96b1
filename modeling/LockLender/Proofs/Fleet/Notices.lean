import LockLender.Proofs.Fleet.Mail
import LockLender.Proofs.Table

namespace LockLender

def Errand.unsent (errand : Errand) : List Notice := if errand.sent then errand.notices.tail else errand.notices

@[simp] theorem unsent_waiting (told : List Notice) : (⟨told,false⟩ : Errand).unsent = told := rfl

@[simp] theorem unsent_sent (notice : Notice) (rest : List Notice) :
    (⟨notice :: rest,true⟩ : Errand).unsent = rest := rfl

namespace Fleet

def pending (fleet : Fleet) (notice : Notice) : Nat :=
  fleet.notices.total (fun other => if other = notice then 1 else 0) +
    fleet.errands.total (fun errand => errand.unsent.count notice)

structure Posted (fleet : Fleet) : Prop where
  errands : fleet.errands.Distinct
  notices : fleet.notices.Distinct
  errandsBelow : fleet.errands.Below fleet.nextErrand
  noticesBelow : fleet.notices.Below fleet.nextNotice

variable {fleet next : Fleet} {client : ClientId} {input : Borrower.Input} {k n : Nat} {lock : LockId}
  {effects : List Borrower.Effect} {move : Move} {happenings : List Happening} {notice other : Notice}
  {rest : List Notice}

theorem pending_congr (notices : next.notices = fleet.notices) (errands : next.errands = fleet.errands)
    (notice : Notice) : next.pending notice = fleet.pending notice := by
  simp only [pending,notices,errands]

theorem Acts.post (acts : fleet.Acts client input k lock effects next) :
    next.lender = fleet.lender ∧ next.replies = fleet.replies ∧ next.notices = fleet.notices ∧
      next.errands = fleet.errands ∧ next.nextErrand = fleet.nextErrand ∧ next.nextNotice = fleet.nextNotice := by
  cases acts
  exact ⟨rfl,rfl,rfl,rfl,rfl,rfl⟩

theorem Acts.posted (acts : fleet.Acts client input k lock effects next) (posted : fleet.Posted) :
    next.Posted := by
  obtain ⟨_,_,notices,errands,nextErrand,nextNotice⟩ := acts.post
  obtain ⟨one,two,three,four⟩ := posted
  exact ⟨errands ▸ one,notices ▸ two,errands ▸ nextErrand ▸ three,notices ▸ nextNotice ▸ four⟩

theorem dispatch_pending (posted : fleet.Posted) (later : Lender) (told : List Notice) (notice : Notice) :
    (fleet.dispatch later told).pending notice = fleet.pending notice + told.count notice := by
  unfold dispatch
  cases told with
  | nil => rfl
  | cons first rest =>
      have added := Table.total_put_new (fun errand : Errand => errand.unsent.count notice)
        posted.errandsBelow.unused ⟨first :: rest,false⟩
      rw [unsent_waiting] at added
      simp only [pending,List.isEmpty_cons,Bool.false_eq_true,if_false,added]
      omega

theorem dispatch_posted (posted : fleet.Posted) (later : Lender) (told : List Notice) :
    (fleet.dispatch later told).Posted := by
  unfold dispatch
  split
  · exact ⟨posted.errands,posted.notices,posted.errandsBelow,posted.noticesBelow⟩
  · exact ⟨posted.errands.put _ _,posted.notices,posted.errandsBelow.put_next _,posted.noticesBelow⟩

theorem post_pending (posted : fleet.Posted) (due : fleet.errands.find? n = some ⟨notice :: rest,false⟩)
    (other : Notice) : pending { fleet with
      errands := fleet.errands.put n ⟨notice :: rest,true⟩
      notices := fleet.notices.put fleet.nextNotice notice
      nextNotice := fleet.nextNotice + 1 } other = fleet.pending other := by
  have out := Table.total_put_new (fun sent : Notice => if sent = other then 1 else 0)
    posted.noticesBelow.unused notice
  have left := Table.total_put_old (fun errand : Errand => errand.unsent.count other) due ⟨notice :: rest,true⟩
  simp only [unsent_waiting,unsent_sent,List.count_cons,beq_iff_eq] at left
  simp only [pending,out]
  omega

theorem take_pending (posted : fleet.Posted) (due : fleet.notices.find? n = some notice) (other : Notice) :
    pending { fleet with notices := fleet.notices.remove n } other + (if notice = other then 1 else 0) =
      fleet.pending other := by
  have taken := Table.total_remove (fun sent : Notice => if sent = other then 1 else 0) posted.notices due
  simp only [pending]
  omega

theorem taken_same (posted : fleet.Posted) (due : fleet.notices.find? n = some notice) :
    0 < fleet.pending notice ∧
      pending { fleet with notices := fleet.notices.remove n } notice = fleet.pending notice - 1 := by
  have taken := take_pending posted due notice
  rw [if_pos rfl] at taken
  omega

theorem taken_other (posted : fleet.Posted) (due : fleet.notices.find? n = some notice) (differ : notice ≠ other) :
    pending { fleet with notices := fleet.notices.remove n } other = fleet.pending other := by
  have taken := take_pending posted due other
  rwa [if_neg differ] at taken

theorem settle_pending (posted : fleet.Posted) (due : fleet.errands.find? n = some ⟨notice :: rest,true⟩)
    (lender : Lender) (other : Notice) : pending { fleet with
      lender
      errands := if rest = [] then fleet.errands.remove n else fleet.errands.put n ⟨rest,false⟩ } other =
        fleet.pending other := by
  simp only [pending]
  split
  · rename_i last
    have gone := Table.total_remove (fun errand : Errand => errand.unsent.count other) posted.errands due
    simp only [unsent_sent,last,List.count_nil] at gone
    omega
  · have kept := Table.total_put_old (fun errand : Errand => errand.unsent.count other) due ⟨rest,false⟩
    simp only [unsent_sent,unsent_waiting] at kept
    omega

theorem Did.posted (did : fleet.Did move happenings next) (posted : fleet.Posted) : next.Posted := by
  have taken (n : Nat) : Posted { fleet with notices := fleet.notices.remove n } :=
    ⟨posted.errands,posted.notices.remove _,posted.errandsBelow,posted.noticesBelow.remove n⟩
  have same {other : Fleet} (errands : other.errands = fleet.errands) (notices : other.notices = fleet.notices)
      (nextErrand : other.nextErrand = fleet.nextErrand) (nextNotice : other.nextNotice = fleet.nextNotice) :
      other.Posted := by
    obtain ⟨one,two,three,four⟩ := posted
    exact ⟨errands ▸ one,notices ▸ two,errands ▸ nextErrand ▸ three,notices ▸ nextNotice ▸ four⟩
  cases did with
  | begin acts | retry acts | advance acts => exact acts.posted posted
  | deliver _ acts | lose _ acts => exact acts.posted (same rfl rfl rfl rfl)
  | serve later told => exact dispatch_posted (by exact same rfl rfl rfl rfl) later told
  | refuse => exact same rfl rfl rfl rfl
  | post due =>
      exact ⟨posted.errands.put _ _,posted.notices.put _ _,posted.errandsBelow.put (by simp [due]) _,
        posted.noticesBelow.put_next _⟩
  | revoke _ acts | signal _ acts => exact acts.posted (taken _)
  | discard => exact taken _
  | @settle n notice rest ok due =>
      refine ⟨?_,posted.notices,?_,posted.noticesBelow⟩
      · dsimp only
        split
        · exact posted.errands.remove _
        · exact posted.errands.put _ _
      · dsimp only
        split
        · exact posted.errandsBelow.remove n
        · exact posted.errandsBelow.put (by simp [due]) _
  | direct later told => exact dispatch_posted posted later told

end Fleet
end LockLender
