import LockLender.Proofs.Fleet.Deed

namespace LockLender

def Request.Answers : Request → Except LockFault Reply → Prop
  | .acquire _ _,.ok reply => reply = .granted ∨ reply = .retry
  | .release lock _,.ok reply => reply = .released ∨ reply = .noSuchLock lock
  | .stat _,.ok _ => False
  | _,.error _ => True

namespace Borrower

def Call.awaits (client : ClientId) (call : Call) : Option Request :=
  match call.place with
  | .asked => some (.acquire call.lock client)
  | .returned => some (.release call.lock client)
  | _ => none

def awaited (client : ClientId) (call : Option Call) : Option Request := call.bind (·.awaits client)

inductive Mail (client : ClientId) (call : Option Call) :
    Option Request → Option (Except LockFault Reply) → Prop where
  | quiet (idle : awaited client call = none) : Mail client call none none
  | out (awaits : awaited client call = some request) : Mail client call (some request) none
  | back (request : Request) (awaits : awaited client call = some request) (answer : request.Answers reply) :
      Mail client call none (some reply)

variable {client : ClientId} {call : Option Call} {request : Request} {reply : Except LockFault Reply}

theorem Mail.of_request {other : Option (Except LockFault Reply)} (mail : Mail client call (some request) other) :
    awaited client call = some request ∧ other = none := by
  cases mail with
  | out awaits => exact ⟨awaits,rfl⟩

theorem Mail.of_reply {other : Option Request} (mail : Mail client call other (some reply)) :
    ∃ request, awaited client call = some request ∧ request.Answers reply ∧ other = none := by
  cases mail with
  | back request awaits answer => exact ⟨request,awaits,answer,rfl⟩

theorem Mail.of_awaited {other : Option Request} (mail : Mail client call other none)
    (awaits : awaited client call = some request) : other = some request := by
  cases mail with
  | quiet idle =>
      rw [idle] at awaits
      cases awaits
  | out same => exact same.symm.trans awaits

theorem Mail.of_idle {out : Option Request} {back : Option (Except LockFault Reply)}
    (mail : Mail client call out back) (idle : awaited client call = none) : out = none ∧ back = none := by
  cases mail with
  | quiet => exact ⟨rfl,rfl⟩
  | out awaits | back _ awaits =>
      rw [idle] at awaits
      cases awaits

end Borrower

namespace Fleet
open Borrower

def call? (fleet : Fleet) (client : ClientId) (k : Nat) : Option Call :=
  (fleet.members.find? client).bind (·.calls.find? k)

def Mailed (fleet : Fleet) : Prop := ∀ client k,
  Mail client (fleet.call? client k) (fleet.requests.find? (client,k)) (fleet.replies.find? (client,k))

variable {fleet next : Fleet} {client other : ClientId} {b later : Borrower} {input : Input} {k j : Nat}
  {lock : LockId} {effects : List Effect} {e : Entry} {after : Option Call} {move : Move}
  {happenings : List Happening}

theorem call?_of_member (member : fleet.members.find? client = some b) (k : Nat) :
    fleet.call? client k = b.calls.find? k := by
  simp [call?,member]

-- An act that is no reply meets a call without a letter on the way, and sends
-- what the call then waits for an answer to.
theorem record_requests {threshold : Nat} {before : Entry} {call : Option Call}
    (act : Act threshold k lock input before call effects e after) (own : ∀ reply, input ≠ .answer reply)
    (fleet : Fleet) (client : ClientId) (b : Borrower) :
    awaited client call = none ∧ (fleet.record client b effects).1.requests =
      match awaited client after with
      | none => fleet.requests
      | some request => fleet.requests.put (client,k) request := by
  cases act with
  | askAnswered | returnAnswered => exact absurd rfl (own _)
  | ask place here => simp [awaited,Call.awaits,place,here,record]
  | send place here _ only =>
      rcases only with rfl | rfl <;> simp [awaited,Call.awaits,place,here,record]
  | watchLock place | watchSignal place =>
      rcases place with place | place <;> simp [awaited,Call.awaits,place,record]
  | hit place | turnAsking place | park place | heed place | doze place | got place | gaveUp place
  | closed place | reopened place => simp [awaited,Call.awaits,place,record]
  | _ => simp [awaited,Call.awaits,record]

theorem awaited_answered {threshold : Nat} {before : Entry} {call : Option Call} {reply : Except LockFault Reply}
    (act : Act threshold k lock (.answer reply) before call effects e after) (client : ClientId) :
    awaited client after = none := by
  cases act with
  | askAnswered =>
      cases reply with
      | error => rfl
      | ok reply => cases reply <;> rfl
  | returnAnswered =>
      cases reply with
      | error => rfl
      | ok reply => cases reply <;> rfl

theorem members_record (fleet : Fleet) (client : ClientId) (b : Borrower) (effects : List Effect)
    (other : ClientId) : (fleet.record client b effects).1.members.find? other =
      if other = client then some b else fleet.members.find? other := by
  by_cases same : other = client
  · rw [same,if_pos rfl]
    exact Table.find?_put_self _ _ _
  · rw [if_neg same]
    exact Table.find?_put_ne _ _ same

theorem call?_record (member : fleet.members.find? client = some b)
    (does : b.Does input k lock effects e after later) (other : ClientId) (j : Nat) :
    (fleet.record client later effects).1.call? other j =
      if (other,j) = (client,k) then after else fleet.call? other j := by
  unfold call?
  rw [members_record]
  by_cases same : other = client
  · subst same
    by_cases acting : j = k
    · simp [acting,does.edit.call]
    · simp [acting,does.edit.calls j acting,member]
  · simp [same]

theorem Acts.staffed (acts : fleet.Acts client input k lock effects next) (staffed : fleet.Staffed) :
    next.Staffed := by
  cases acts with
  | intro b later e after member does =>
      intro other c found
      rw [members_record] at found
      by_cases same : other = client
      · rw [if_pos same] at found
        cases found
        obtain ⟨sound,counted,awake⟩ := staffed _ _ member
        exact ⟨does.sound sound,does.counted sound counted,does.awake awake⟩
      · rw [if_neg same] at found
        exact staffed _ _ found

theorem dispatch_frame (fleet : Fleet) (later : Lender) (told : List Notice) :
    (fleet.dispatch later told).members = fleet.members ∧ (fleet.dispatch later told).requests = fleet.requests ∧
      (fleet.dispatch later told).replies = fleet.replies ∧ (fleet.dispatch later told).lender = later := by
  unfold dispatch
  split <;> exact ⟨rfl,rfl,rfl,rfl⟩

theorem Did.staffed (did : fleet.Did move happenings next) (staffed : fleet.Staffed) : next.Staffed := by
  cases did with
  | begin acts | retry acts | advance acts | deliver _ acts | lose _ acts | revoke _ acts | signal _ acts =>
      exact acts.staffed staffed
  | serve later told =>
      unfold Staffed
      rw [(dispatch_frame _ _ _).1]
      exact staffed
  | direct later told =>
      unfold Staffed
      rw [(dispatch_frame _ _ _).1]
      exact staffed
  | refuse | post | discard | settle => exact staffed

theorem Acts.mailed (acts : fleet.Acts client input k lock effects next) (own : ∀ reply, input ≠ .answer reply)
    (mailed : fleet.Mailed) : next.Mailed := by
  cases acts with
  | intro b later e after member does =>
      intro other j
      have kept := mailed other j
      obtain ⟨idle,sent⟩ := record_requests does.act own fleet client later
      rw [call?_record member does,sent]
      change Mail _ _ _ (fleet.replies.find? (other,j))
      by_cases acting : (other,j) = (client,k)
      · cases acting
        rw [call?_of_member member] at kept
        obtain ⟨unsent,unanswered⟩ := kept.of_idle idle
        rw [if_pos rfl,unanswered]
        cases awaits : awaited client after with
        | none =>
            change Mail _ _ (fleet.requests.find? (client,k)) _
            rw [unsent]
            exact .quiet awaits
        | some request =>
            simp only [Table.find?_put_self]
            exact .out awaits
      · rw [if_neg acting]
        cases awaited client after with
        | none => exact kept
        | some request =>
            simp only [Table.find?_put_ne _ _ acting]
            exact kept

theorem Acts.answered {reply old : Except LockFault Reply}
    (acts : { fleet with replies := fleet.replies.remove (client,k) }.Acts client (.answer reply) k lock [] next)
    (back : fleet.replies.find? (client,k) = some old) (mailed : fleet.Mailed) : next.Mailed := by
  cases acts with
  | intro b later e after member does =>
      intro other j
      have kept := mailed other j
      rw [call?_record member does]
      change Mail _ _ (fleet.requests.find? (other,j)) ((fleet.replies.remove (client,k)).find? (other,j))
      by_cases acting : (other,j) = (client,k)
      · cases acting
        rw [back] at kept
        obtain ⟨_,_,_,unsent⟩ := kept.of_reply
        rw [if_pos rfl,unsent,Table.find?_remove_self]
        exact .quiet (awaited_answered does.act client)
      · rw [if_neg acting,Table.find?_remove_ne _ acting]
        exact kept

theorem mailed_exchange {request : Request} {reply : Except LockFault Reply} (mailed : fleet.Mailed)
    (out : fleet.requests.find? (client,k) = some request) (answers : request.Answers reply)
    (calls : ∀ other j, next.call? other j = fleet.call? other j)
    (requests : next.requests = fleet.requests.remove (client,k))
    (replies : next.replies = fleet.replies.put (client,k) reply) : next.Mailed := by
  intro other j
  have kept := mailed other j
  rw [calls,requests,replies]
  by_cases acting : (other,j) = (client,k)
  · cases acting
    rw [out] at kept
    rw [Table.find?_remove_self,Table.find?_put_self]
    exact .back request kept.of_request.1 answers
  · rw [Table.find?_remove_ne _ acting,Table.find?_put_ne _ _ acting]
    exact kept

theorem awaited_eq_some {call : Option Call} {request : Request} (awaits : awaited client call = some request) :
    ∃ lock, request = .acquire lock client ∨ request = .release lock client := by
  obtain ⟨call,rfl,asks⟩ := Option.bind_eq_some_iff.mp awaits
  unfold Call.awaits at asks
  split at asks
  · exact ⟨_,.inl (Option.some.inj asks).symm⟩
  · exact ⟨_,.inr (Option.some.inj asks).symm⟩
  · cases asks

theorem serve_answers {lender later : Lender} {request : Request} {reply : Reply} {told : List Notice}
    (served : lender.serve request = (reply,told,later))
    (kind : request = .acquire lock client ∨ request = .release lock client) : request.Answers (.ok reply) := by
  rcases kind with rfl | rfl
  · obtain ⟨status,_,rfl,_⟩ := Lender.serve_acquire served
    cases status
    · exact .inl rfl
    · exact .inr rfl
  · obtain ⟨_,answer,_⟩ := Lender.serve_release served
    exact answer

theorem Did.mailed (did : fleet.Did move happenings next) (mailed : fleet.Mailed) : next.Mailed := by
  cases did with
  | begin acts | retry acts | advance acts | revoke _ acts | signal _ acts => exact acts.mailed nofun mailed
  | deliver back acts | lose back acts => exact acts.answered back mailed
  | @serve client k request reply later told out served =>
      obtain ⟨members,requests,replies,_⟩ := dispatch_frame { fleet with
        requests := fleet.requests.remove (client,k), replies := fleet.replies.put (client,k) (.ok reply) } later told
      have kept := mailed client k
      rw [out] at kept
      obtain ⟨lock,kind⟩ := awaited_eq_some kept.of_request.1
      exact mailed_exchange mailed out (serve_answers served kind) (fun _ _ => by rw [call?,members]; rfl)
        requests replies
  | @refuse client k request fault out =>
      have answers : request.Answers (.error fault) := by cases request <;> trivial
      exact mailed_exchange mailed out answers (fun _ _ => rfl) rfl rfl
  | post | discard | settle => exact mailed
  | direct later told =>
      obtain ⟨members,requests,replies,_⟩ := dispatch_frame fleet later told
      intro other j
      rw [requests,replies,call?,members]
      exact mailed other j

end Fleet
end LockLender
