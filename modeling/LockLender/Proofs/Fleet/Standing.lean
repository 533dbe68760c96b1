import LockLender.Proofs.Fleet.History

namespace LockLender.Fleet
open Borrower

def lettersTo (fleet : Fleet) (client : ClientId) : Replies := fun k => fleet.replies.find? (client,k)

def seat (fleet : Fleet) (client : ClientId) (lock : LockId) : Seat :=
  match fleet.members.find? client with
  | none => {}
  | some b => b.seat (fleet.lettersTo client) lock

variable {fleet next : Fleet} {client other : ClientId} {b : Borrower} {input : Input} {k : Nat}
  {lock third : LockId} {effects : List Effect} {call : Call} {reply : Except LockFault Reply}

theorem entry_of_member (member : fleet.members.find? client = some b) (lock : LockId) :
    fleet.entry client lock = b.entry lock := by
  simp [entry,member]

theorem seat_of_member (member : fleet.members.find? client = some b) :
    fleet.seat client lock = b.seat (fleet.lettersTo client) lock := by
  simp [seat,member]

theorem member_of_seat (seated : fleet.seat client lock ≠ {}) : ∃ b, fleet.members.find? client = some b := by
  cases member : fleet.members.find? client with
  | none =>
      refine absurd ?_ seated
      simp [seat,member]
  | some b => exact ⟨b,rfl⟩

theorem seat_congr (members : next.members = fleet.members) (replies : next.replies = fleet.replies) :
    next.seat client lock = fleet.seat client lock := by
  have letters : next.lettersTo client = fleet.lettersTo client := by
    unfold lettersTo
    rw [replies]
  simp only [seat,members,letters]

theorem seat_state (staffed : fleet.Staffed) : (fleet.seat client lock).stage.state = fleet.state client lock := by
  unfold seat state entry
  cases member : fleet.members.find? client with
  | none => rfl
  | some b => exact (staffed _ _ member).1.stage_state _ _

theorem seat_revoked (fleet : Fleet) (client : ClientId) (lock : LockId) :
    (fleet.seat client lock).revoked = (fleet.entry client lock).revoked := by
  unfold seat entry
  cases fleet.members.find? client <;> rfl

theorem seat_record (fleet : Fleet) (client : ClientId) (b : Borrower) (effects : List Effect) (other : ClientId)
    (lock : LockId) : (fleet.record client b effects).1.seat other lock =
      if other = client then b.seat (fleet.lettersTo client) lock else fleet.seat other lock := by
  unfold seat
  rw [members_record]
  by_cases same : other = client
  · rw [if_pos same,if_pos same,same]
    rfl
  · rw [if_neg same,if_neg same]
    rfl

theorem Acts.seat_step (acts : fleet.Acts client input k lock effects next) (own : ∀ reply, input ≠ .answer reply)
    (staffed : fleet.Staffed) (mailed : fleet.Mailed) :
    ∃ got, Seat.Step input (fleet.seat client lock) got (next.seat client lock) ∧
      effects.filterMap Effect.acquired = if got then [lock] else [] := by
  cases acts with
  | intro b later e after member does =>
      have mail := mailed client k
      rw [call?_of_member member] at mail
      have unanswered := (mail.of_idle (record_requests does.act own fleet client later).1).2
      rw [seat_record,if_pos rfl,seat_of_member member]
      exact does.seat_step (staffed _ _ member).1 unanswered own

theorem Acts.seat_other (acts : fleet.Acts client input k lock effects next) (staffed : fleet.Staffed)
    (apart : other ≠ client ∨ third ≠ lock) : next.seat other third = fleet.seat other third := by
  cases acts with
  | intro b later e after member does =>
      rw [seat_record]
      by_cases same : other = client
      · subst same
        rw [if_pos rfl,seat_of_member member]
        exact does.seat_other (staffed _ _ member).1 (fun _ _ => rfl) (apart.resolve_left (by simp))
      · rw [if_neg same]

theorem seat_asking (staffed : fleet.Staffed) (found : fleet.call? client k = some call)
    (place : call.place = .asked) : (fleet.seat client call.lock).stage =
      match fleet.replies.find? (client,k) with
      | none => .asking
      | some reply => askStage reply := by
  obtain ⟨b,member,found⟩ := Option.bind_eq_some_iff.mp found
  rw [seat_of_member member]
  apply (staffed _ _ member).1.stage_of_due found
  unfold lettersTo Call.due
  cases fleet.replies.find? (client,k) with
  | none => simp only [place,Place.stage?]
  | some reply => simp only [place,stage_afterAsk]

theorem seat_returning (staffed : fleet.Staffed) (found : fleet.call? client k = some call)
    (place : call.place = .returned) : (fleet.seat client call.lock).stage =
      match fleet.replies.find? (client,k) with
      | none => .returning
      | some reply => returnStage reply := by
  obtain ⟨b,member,found⟩ := Option.bind_eq_some_iff.mp found
  rw [seat_of_member member]
  apply (staffed _ _ member).1.stage_of_due found
  unfold lettersTo Call.due
  cases fleet.replies.find? (client,k) with
  | none => simp only [place,Place.stage?]
  | some reply => simp only [place,stage_afterReturn]

theorem seat_replied_other (staffed : fleet.Staffed) (found : fleet.call? client k = some call)
    (members : next.members = fleet.members) (replies : next.replies = fleet.replies.put (client,k) reply)
    (apart : other ≠ client ∨ third ≠ call.lock) : next.seat other third = fleet.seat other third := by
  obtain ⟨b,member,calls⟩ := Option.bind_eq_some_iff.mp found
  have letters {j : Nat} (differ : (other,j) ≠ (client,k)) : next.lettersTo other j = fleet.lettersTo other j := by
    simp only [lettersTo,replies,Table.find?_put_ne _ _ differ]
  by_cases same : other = client
  · subst same
    rw [seat_of_member (members ▸ member),seat_of_member member]
    refine (staffed _ _ member).1.seat_reply calls ?_ (apart.resolve_left (by simp))
    intro j differ
    exact letters fun both => differ (congrArg Prod.snd both)
  · have letters : next.lettersTo other = fleet.lettersTo other := by
      funext j
      exact letters fun both => same (congrArg Prod.fst both)
    simp only [seat,members,letters]

theorem seat_replied (fleet : Fleet) (members : next.members = fleet.members) :
    next.seat client lock = { fleet.seat client lock with stage := (next.seat client lock).stage } := by
  unfold seat
  rw [members]
  cases fleet.members.find? client <;> rfl

theorem Acts.seat_answer
    (acts : { fleet with replies := fleet.replies.remove (client,k) }.Acts client (.answer reply) k lock [] next)
    (staffed : fleet.Staffed) : ∃ call, fleet.call? client k = some call ∧ call.lock = lock ∧
      (call.place = .asked ∧ next.seat client lock = { fleet.seat client lock with stage := askStage reply } ∨
        call.place = .returned ∧
          next.seat client lock = { fleet.seat client lock with stage := returnStage reply }) := by
  cases acts with
  | intro b later e after member does =>
      have member : fleet.members.find? client = some b := member
      rw [seat_record,if_pos rfl,call?_of_member member,seat_of_member member]
      exact does.seat_answer (staffed _ _ member).1 (Table.find?_remove_self _ _)

theorem Acts.seat_answer_other
    (acts : { fleet with replies := fleet.replies.remove (client,k) }.Acts client (.answer reply) k lock [] next)
    (staffed : fleet.Staffed) (apart : other ≠ client ∨ third ≠ lock) :
    next.seat other third = fleet.seat other third := by
  have letters {j : Nat} (differ : (other,j) ≠ (client,k)) :
      lettersTo { fleet with replies := fleet.replies.remove (client,k) } other j = fleet.lettersTo other j :=
    Table.find?_remove_ne _ differ
  cases acts with
  | intro b later e after member does =>
      have member : fleet.members.find? client = some b := member
      rw [seat_record]
      by_cases same : other = client
      · subst same
        rw [if_pos rfl,seat_of_member member]
        refine does.seat_other (staffed _ _ member).1 ?_ (apart.resolve_left (by simp))
        intro j differ
        exact letters fun both => differ (congrArg Prod.snd both)
      · rw [if_neg same]
        have letters : lettersTo { fleet with replies := fleet.replies.remove (client,k) } other =
            fleet.lettersTo other := by
          funext j
          exact letters fun both => same (congrArg Prod.fst both)
        simp only [seat,letters]

end LockLender.Fleet
