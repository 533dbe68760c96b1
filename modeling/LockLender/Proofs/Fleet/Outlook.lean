import Mathlib.Data.List.Basic
import Mathlib.Logic.Function.Basic
import LockLender.Proofs.Fleet.Standing

namespace LockLender
open Borrower
open Function (update)

structure Outlook where
  loan : Loan := {}
  seat : ClientId → Seat := fun _ => {}
  retries : ClientId → Nat := fun _ => 0
  revokes : ClientId → Nat := fun _ => 0
  holds : ClientId → Nat := fun _ => 0

namespace Outlook

def tell (o : Outlook) (lock : LockId) (told : List Notice) : Outlook := { o with
  retries := fun client => o.retries client + told.count (.retry client lock)
  revokes := fun client => o.revokes client + told.count (.revoke client lock) }

def enter (o : Outlook) (client : ClientId) (stage : Stage) : Outlook :=
  { o with seat := update o.seat client { o.seat client with stage } }

section
variable (o : Outlook) (client : ClientId) (stage : Stage) (lock : LockId) (told : List Notice)

@[simp] theorem enter_loan : (o.enter client stage).loan = o.loan := rfl
@[simp] theorem enter_retries : (o.enter client stage).retries = o.retries := rfl
@[simp] theorem enter_revokes : (o.enter client stage).revokes = o.revokes := rfl
@[simp] theorem enter_holds : (o.enter client stage).holds = o.holds := rfl
@[simp] theorem tell_loan : (o.tell lock told).loan = o.loan := rfl
@[simp] theorem tell_seat : (o.tell lock told).seat = o.seat := rfl
@[simp] theorem tell_holds : (o.tell lock told).holds = o.holds := rfl

end

@[simp] theorem enter_self (o : Outlook) (client : ClientId) (stage : Stage) :
    (o.enter client stage).seat client = { o.seat client with stage } := Function.update_self ..

theorem enter_other (o : Outlook) {client other : ClientId} (differ : other ≠ client) (stage : Stage) :
    (o.enter client stage).seat other = o.seat other := Function.update_of_ne differ ..

def Strays (next : Outlook) (forfeit : Option ClientId) (astray : ClientId → Prop) (client : ClientId) : Prop :=
  (forfeit = some client ∨ astray client) ∧ (next.seat client).stage.state ≠ .idle

theorem enter_same (o : Outlook) (client : ClientId) {stage : Stage} (there : (o.seat client).stage = stage) :
    o.enter client stage = o := by
  subst there
  exact congrArg (fun seat => { o with seat }) (Function.update_eq_self client o.seat)

inductive Step (trouble : Fleet.Trouble) (lock : LockId) (o : Outlook) : Option ClientId → Outlook → Prop where
  | rest : Step trouble lock o none o
  | act (client : ClientId) (input : Input) (got : Bool) (seat : Seat)
      (kind : input = .begin .acquire ∨ input = .advance) (step : Seat.Step input (o.seat client) got seat) :
      Step trouble lock o none { o with
        seat := update o.seat client seat
        holds := update o.holds client (o.holds client + if got then 1 else 0) }
  | release (client : ClientId) (seat : Seat) (holding : 0 < o.holds client)
      (step : Seat.Step (.begin .release) (o.seat client) false seat) :
      Step trouble lock o none { o with
        seat := update o.seat client seat
        holds := update o.holds client (o.holds client - 1) }
  | asked (client : ClientId) (status : Status) (told : List Notice) (loan : Loan)
      (asking : (o.seat client).stage = .asking) (asked : Loan.Asked client lock o.loan status told loan) :
      Step trouble lock o none ({ o.enter client (askStage (.ok status.reply)) with loan }.tell lock told)
  | returned (client : ClientId) (told : List Notice) (loan : Loan)
      (returning : (o.seat client).stage = .returning) (returned : Loan.Returned client lock o.loan told loan) :
      Step trouble lock o none ({ o.enter client .returned with loan }.tell lock told)
  | askRefused (client : ClientId) (allowed : trouble.askRefused = true)
      (asking : (o.seat client).stage = .asking) : Step trouble lock o none (o.enter client .refused)
  | returnRefused (client : ClientId) (allowed : trouble.returnRefused = true)
      (returning : (o.seat client).stage = .returning) : Step trouble lock o none (o.enter client .unreturned)
  | askLost (client : ClientId) (allowed : trouble.askLost = true)
      (asking : (o.seat client).stage.state = .acquiring) : Step trouble lock o none (o.enter client .refused)
  | returnLost (client : ClientId) (allowed : trouble.returnLost = true)
      (returned : (o.seat client).stage = .returned) :
      Step trouble lock o (some client) (o.enter client .unreturned)
  | revoked (client : ClientId) (seat : Seat) (due : 0 < o.revokes client)
      (step : Seat.Step (.begin .revoke) (o.seat client) false seat) :
      Step trouble lock o none { o with
        seat := update o.seat client seat
        revokes := update o.revokes client (o.revokes client - 1) }
  | signaled (client : ClientId) (seat : Seat) (due : 0 < o.retries client)
      (timely : trouble.retryLate = true ∨ o.loan.owner = some client)
      (step : Seat.Step .retry (o.seat client) false seat) :
      Step trouble lock o none { o with
        seat := update o.seat client seat
        retries := update o.retries client (o.retries client - 1) }
  | revokeLost (client : ClientId) (allowed : trouble.noticeLost = true) :
      Step trouble lock o none { o with revokes := update o.revokes client (o.revokes client - 1) }
  | retryLost (client : ClientId) (allowed : trouble.noticeLost = true) :
      Step trouble lock o none { o with retries := update o.retries client (o.retries client - 1) }
  | revokeFailed (client : ClientId) (allowed : trouble.noticeLost = true) (own : o.loan.owner = some client) :
      Step trouble lock o none { o with loan := { o.loan with revoking := false } }

end Outlook

namespace Fleet

def outlook (past : History) (fleet : Fleet) (lock : LockId) : Outlook where
  loan := fleet.lender.loan lock
  seat client := fleet.seat client lock
  retries client := fleet.pending (.retry client lock)
  revokes client := fleet.pending (.revoke client lock)
  holds client := (holds past).count (client,lock)

variable {trouble : Trouble} {roll : Roll} {past : History} {fleet next : Fleet} {client other : ClientId}
  {input : Input} {k n : Nat} {lock third : LockId} {effects : List Effect} {move : Move} {happenings : List Happening}
  {o : Outlook} {got : Bool}

theorem outlook_eq (loan : next.lender.loan lock = o.loan) (seat : ∀ client, next.seat client lock = o.seat client)
    (retries : ∀ client, next.pending (.retry client lock) = o.retries client)
    (revokes : ∀ client, next.pending (.revoke client lock) = o.revokes client)
    (held : ∀ client, (holds past).count (client,lock) = o.holds client) : next.outlook past lock = o := by
  obtain ⟨_,_,_,_,_⟩ := o
  simp only [outlook,loan,seat,retries,revokes,held]

theorem holds_cons (now : Moment) (past : History) :
    holds (now :: past) = (holds past).diff now.act.gives ++ now.effects.filterMap Happening.gets := rfl

theorem holds_quiet (fleet next : Fleet) (move : Move) (gives : move.gives = []) (hold : Hold) :
    (holds (⟨fleet,move,[],next⟩ :: past)).count hold = (holds past).count hold := by
  simp [holds_cons,gives]

theorem gets_map (client : ClientId) (effects : List Effect) :
    (effects.map (client,·)).filterMap Happening.gets =
      (effects.filterMap Effect.acquired).map (client,·) := by
  induction effects with
  | nil => rfl
  | cons effect rest ih =>
      cases acquired : effect.acquired <;> simp [Happening.gets,acquired,ih]

theorem holds_act (fleet next : Fleet) (move : Move) (client : ClientId)
    (acquired : effects.filterMap Effect.acquired = if got then [lock] else []) (hold : Hold) :
    (holds (⟨fleet,move,effects.map (client,·),next⟩ :: past)).count hold =
      (holds past).count hold - move.gives.count hold + if got ∧ hold = (client,lock) then 1 else 0 := by
  rw [holds_cons,List.count_append,List.count_diff,gets_map,acquired]
  cases got with
  | false => simp
  | true =>
      by_cases same : hold = (client,lock)
      · simp [same]
      · simp [same,Ne.symm same]

theorem at_others {α : Type} {f g : ClientId → α} (others : ∀ other, other ≠ client → f other = g other)
    (other : ClientId) : f other = update g client (f client) other := by
  by_cases same : other = client
  · rw [same,Function.update_self]
  · rw [Function.update_of_ne same,others other same]

theorem Acts.outlook_here (acts : fleet.Acts client input k lock effects next) (past : History)
    (own : ∀ reply, input ≠ .answer reply) (staffed : fleet.Staffed) (mailed : fleet.Mailed) (before : Fleet)
    (move : Move) : ∃ got seat, Seat.Step input (fleet.seat client lock) got seat ∧
      next.outlook (⟨before,move,effects.map (client,·),next⟩ :: past) lock = { fleet.outlook past lock with
        seat := update (fleet.outlook past lock).seat client seat
        holds := fun other => (holds past).count (other,lock) - move.gives.count (other,lock) +
          if got ∧ other = client then 1 else 0 } := by
  obtain ⟨got,step,acquired⟩ := acts.seat_step own staffed mailed
  obtain ⟨lender,_,notices,errands,_⟩ := acts.post
  have pending := pending_congr notices errands
  refine ⟨got,_,step,outlook_eq (by rw [lender]; rfl) ?_ (fun _ => pending _) (fun _ => pending _) ?_⟩
  · exact at_others fun other differ => acts.seat_other staffed (.inl differ)
  · intro other
    rw [holds_act before next move client acquired]
    simp

theorem Acts.outlook_there (acts : fleet.Acts client input k third effects next)
    (own : ∀ reply, input ≠ .answer reply) (staffed : fleet.Staffed) (mailed : fleet.Mailed) (before : Fleet)
    (move : Move) (apart : lock ≠ third) (gives : ∀ other, (other,lock) ∉ move.gives) :
    next.outlook (⟨before,move,effects.map (client,·),next⟩ :: past) lock = fleet.outlook past lock := by
  obtain ⟨got,_,acquired⟩ := acts.seat_step own staffed mailed
  obtain ⟨lender,_,notices,errands,_⟩ := acts.post
  have pending := pending_congr notices errands
  refine outlook_eq (by rw [lender]; rfl) ?_ (fun _ => pending _) (fun _ => pending _) ?_
  · intro other
    exact acts.seat_other staffed (.inr apart)
  · intro other
    rw [holds_act before next move client acquired,List.count_eq_zero.mpr (gives other)]
    simp [apart,outlook]

theorem Acts.outlook_act (acts : fleet.Acts client input k third effects next)
    (kind : input = .begin .acquire ∨ input = .advance) (intact : fleet.Intact) (move : Move)
    (gives : move.gives = []) (lock : LockId) :
    (fleet.outlook past lock).Step trouble lock none
      (next.outlook (⟨fleet,move,effects.map (client,·),next⟩ :: past) lock) := by
  have own : ∀ reply, input ≠ .answer reply := by rcases kind with rfl | rfl <;> nofun
  by_cases here : lock = third
  · subst here
    obtain ⟨got,seat,step,after⟩ := acts.outlook_here past own intact.staffed intact.mailed fleet move
    have held : (fun other => (holds past).count (other,lock) - move.gives.count (other,lock) +
        if got ∧ other = client then 1 else 0) = update (fleet.outlook past lock).holds client
          ((fleet.outlook past lock).holds client + if got then 1 else 0) := by
      funext other
      by_cases acting : other = client <;> simp [gives,outlook,acting]
    rw [after,held]
    exact .act client input got seat kind step
  · rw [acts.outlook_there own intact.staffed intact.mailed fleet move here (by simp [gives])]
    exact .rest

theorem Acts.outlook_release (acts : fleet.Acts client (.begin .release) k third effects next)
    (intact : fleet.Intact) (holding : (client,third) ∈ holds past) (lock : LockId) :
    (fleet.outlook past lock).Step trouble lock none
      (next.outlook (⟨fleet,.begin client .release third,effects.map (client,·),next⟩ :: past) lock) := by
  by_cases here : lock = third
  · subst here
    obtain ⟨got,seat,step,after⟩ := acts.outlook_here past nofun intact.staffed intact.mailed fleet
      (.begin client .release lock)
    have nothing : got = false := by cases step <;> rfl
    subst nothing
    simp only [Bool.false_eq_true,false_and,if_false,Nat.add_zero] at after
    have held : (fun other => (holds past).count (other,lock) -
        (Move.begin client .release lock).gives.count (other,lock)) =
          update (fleet.outlook past lock).holds client ((fleet.outlook past lock).holds client - 1) := by
      funext other
      by_cases acting : other = client
      · simp [Move.gives,outlook,acting]
      · simp [Move.gives,outlook,acting,Ne.symm acting]
    rw [after,held]
    exact .release client seat (List.count_pos_iff.mpr holding) step
  · rw [acts.outlook_there nofun intact.staffed intact.mailed fleet _ here (by simp [Move.gives,here])]
    exact .rest

theorem outlook_take_other (posted : fleet.Posted) (past : History) {notice : Notice}
    (due : fleet.notices.find? n = some notice) (differ : lock ≠ notice.callback.lock) :
    outlook past { fleet with notices := fleet.notices.remove n } lock = fleet.outlook past lock := by
  refine outlook_eq rfl (fun _ => rfl) ?_ ?_ (fun _ => rfl)
  · intro client
    exact taken_other posted due fun same => differ (by rw [same]; rfl)
  · intro client
    exact taken_other posted due fun same => differ (by rw [same]; rfl)

theorem taken_at (posted : fleet.Posted) {of : ClientId → Notice} (names : ∀ other, (of other).client = other)
    (due : fleet.notices.find? n = some (of client)) (other : ClientId) :
    pending { fleet with notices := fleet.notices.remove n } (of other) =
      update (fun other => fleet.pending (of other)) client (fleet.pending (of client) - 1) other := by
  by_cases same : other = client
  · rw [same,Function.update_self]
    exact (taken_same posted due).2
  · rw [Function.update_of_ne same]
    apply taken_other posted due
    intro equal
    apply same
    rw [← names other,← equal,names client]

theorem outlook_take_revoke (posted : fleet.Posted) (past : History)
    (due : fleet.notices.find? n = some (.revoke client lock)) :
    0 < (fleet.outlook past lock).revokes client ∧
      outlook past { fleet with notices := fleet.notices.remove n } lock = { fleet.outlook past lock with
        revokes := update (fleet.outlook past lock).revokes client ((fleet.outlook past lock).revokes client - 1) } := by
  refine ⟨(taken_same posted due).1,outlook_eq rfl (fun _ => rfl) ?_ ?_ (fun _ => rfl)⟩
  · intro other
    exact taken_other posted due nofun
  · exact taken_at posted (fun _ => rfl) due

theorem outlook_take_retry (posted : fleet.Posted) (past : History)
    (due : fleet.notices.find? n = some (.retry client lock)) :
    0 < (fleet.outlook past lock).retries client ∧
      outlook past { fleet with notices := fleet.notices.remove n } lock = { fleet.outlook past lock with
        retries := update (fleet.outlook past lock).retries client ((fleet.outlook past lock).retries client - 1) } := by
  refine ⟨(taken_same posted due).1,outlook_eq rfl (fun _ => rfl) ?_ ?_ (fun _ => rfl)⟩
  · exact taken_at posted (fun _ => rfl) due
  · intro other
    exact taken_other posted due nofun

theorem Acts.outlook_revoke
    (acts : { fleet with notices := fleet.notices.remove n }.Acts client (.begin .revoke) k third effects next)
    (intact : fleet.Intact) (due : fleet.notices.find? n = some (.revoke client third)) (lock : LockId) :
    (fleet.outlook past lock).Step trouble lock none
      (next.outlook (⟨fleet,.arrive n,effects.map (client,·),next⟩ :: past) lock) := by
  by_cases here : lock = third
  · subst here
    obtain ⟨there,taken⟩ := outlook_take_revoke intact.posted past due
    obtain ⟨got,seat,step,after⟩ := acts.outlook_here past nofun intact.staffed intact.mailed fleet
      (.arrive n)
    have nothing : got = false := by cases step <;> rfl
    subst nothing
    rw [after,taken]
    simp only [Move.gives,List.count_nil,Bool.false_eq_true,false_and,if_false,Nat.sub_zero,Nat.add_zero]
    exact .revoked client seat there step
  · rw [acts.outlook_there nofun intact.staffed intact.mailed fleet _ here (by simp [Move.gives]),
      outlook_take_other intact.posted past due here]
    exact .rest

theorem Acts.outlook_signal
    (acts : { fleet with notices := fleet.notices.remove n }.Acts client .retry k third effects next)
    (intact : fleet.Intact) (due : fleet.notices.find? n = some (.retry client third))
    (timely : trouble.retryLate = true ∨ fleet.owner third = some client) (lock : LockId) :
    (fleet.outlook past lock).Step trouble lock none
      (next.outlook (⟨fleet,.arrive n,effects.map (client,·),next⟩ :: past) lock) := by
  by_cases here : lock = third
  · subst here
    obtain ⟨there,taken⟩ := outlook_take_retry intact.posted past due
    obtain ⟨got,seat,step,after⟩ := acts.outlook_here past nofun intact.staffed intact.mailed fleet
      (.arrive n)
    have nothing : got = false := by cases step <;> rfl
    subst nothing
    rw [after,taken]
    simp only [Move.gives,List.count_nil,Bool.false_eq_true,false_and,if_false,Nat.sub_zero,Nat.add_zero]
    exact .signaled client seat there timely step
  · rw [acts.outlook_there nofun intact.staffed intact.mailed fleet _ here (by simp [Move.gives]),
      outlook_take_other intact.posted past due here]
    exact .rest

theorem outlook_dispatch (posted : fleet.Posted) (later : Lender) (told : List Notice) (past : History)
    (lock : LockId) : outlook past (fleet.dispatch later told) lock =
      { fleet.outlook past lock with loan := later.loan lock }.tell lock told := by
  obtain ⟨members,_,replies,lender⟩ := dispatch_frame fleet later told
  exact outlook_eq (by rw [lender]; rfl) (fun _ => seat_congr members replies)
    (fun _ => dispatch_pending posted _ _ _) (fun _ => dispatch_pending posted _ _ _) (fun _ => rfl)

theorem tell_other {told : List Notice} (about : ∀ notice ∈ told, notice.callback.lock = third)
    (apart : lock ≠ third) (o : Outlook) : o.tell lock told = o := by
  have untold (client : ClientId) : told.count (.retry client lock) = 0 ∧ told.count (.revoke client lock) = 0 :=
    ⟨List.count_eq_zero.mpr fun mem => apart (about _ mem),List.count_eq_zero.mpr fun mem => apart (about _ mem)⟩
  simp only [Outlook.tell,untold,Nat.add_zero]

section
variable {call : Call} {reply : Except LockFault Reply} {stage : Stage}

theorem outlook_replied (staffed : fleet.Staffed) (found : fleet.call? client k = some call) (past : History)
    (entered : (seat { fleet with
      requests := fleet.requests.remove (client,k)
      replies := fleet.replies.put (client,k) reply } client call.lock).stage = stage) :
    outlook past { fleet with
      requests := fleet.requests.remove (client,k)
      replies := fleet.replies.put (client,k) reply } call.lock =
        (fleet.outlook past call.lock).enter client stage := by
  refine outlook_eq rfl ?_ (fun _ => rfl) (fun _ => rfl) (fun _ => rfl)
  intro other
  by_cases same : other = client
  · rw [same,Outlook.enter_self,← entered]
    exact seat_replied fleet rfl
  · rw [Outlook.enter_other _ same]
    exact seat_replied_other staffed found rfl rfl (.inl same)

theorem outlook_replied_other (staffed : fleet.Staffed) (found : fleet.call? client k = some call) (past : History)
    (apart : lock ≠ call.lock) :
    outlook past { fleet with
      requests := fleet.requests.remove (client,k)
      replies := fleet.replies.put (client,k) reply } lock = fleet.outlook past lock :=
  outlook_eq rfl (fun _ => seat_replied_other staffed found rfl rfl (.inr apart)) (fun _ => rfl) (fun _ => rfl)
    (fun _ => rfl)

end

theorem request_on_way (intact : fleet.Intact) {request : Request}
    (out : fleet.requests.find? (client,k) = some request) : ∃ call, fleet.call? client k = some call ∧
      (call.place = .asked ∧ request = .acquire call.lock client ∧
          (fleet.seat client call.lock).stage = .asking ∨
        call.place = .returned ∧ request = .release call.lock client ∧
          (fleet.seat client call.lock).stage = .returning) := by
  have mail := intact.mailed client k
  rw [out] at mail
  obtain ⟨awaits,unanswered⟩ := mail.of_request
  obtain ⟨call,found,asks⟩ := Option.bind_eq_some_iff.mp awaits
  refine ⟨call,found,?_⟩
  unfold Call.awaits at asks
  split at asks
  · rename_i place
    have stage := seat_asking intact.staffed found place
    rw [unanswered] at stage
    exact .inl ⟨place,(Option.some.inj asks).symm,stage⟩
  · rename_i place
    have stage := seat_returning intact.staffed found place
    rw [unanswered] at stage
    exact .inr ⟨place,(Option.some.inj asks).symm,stage⟩
  · cases asks

theorem outlook_serve (intact : fleet.Intact) {request : Request} {reply : Reply} {told : List Notice} {later : Lender}
    (out : fleet.requests.find? (client,k) = some request)
    (served : fleet.lender.serve request = (reply,told,later)) (past : History) (lock : LockId) :
    (fleet.outlook past lock).Step trouble lock none (outlook past ({ fleet with
      requests := fleet.requests.remove (client,k)
      replies := fleet.replies.put (client,k) (.ok reply) }.dispatch later told) lock) := by
  have posted : Posted { fleet with
      requests := fleet.requests.remove (client,k), replies := fleet.replies.put (client,k) (.ok reply) } :=
    ⟨intact.posted.errands,intact.posted.notices,intact.posted.errandsBelow,intact.posted.noticesBelow⟩
  have staffed : Staffed { fleet with
      requests := fleet.requests.remove (client,k), replies := fleet.replies.put (client,k) (.ok reply) } :=
    intact.staffed
  have back := Table.find?_put_self fleet.replies (client,k) (Except.ok reply)
  rw [outlook_dispatch posted]
  obtain ⟨call,found,⟨place,rfl,asking⟩ | ⟨place,rfl,returning⟩⟩ := request_on_way intact out
  · obtain ⟨status,loan,rfl,asked,here,elsewhere⟩ := Lender.serve_acquire served
    by_cases same : lock = call.lock
    · subst same
      have stage := seat_asking staffed found place
      rw [back] at stage
      rw [outlook_replied intact.staffed found past stage,here]
      exact .asked client status told loan asking asked
    · rw [tell_other asked.about same,elsewhere lock same,outlook_replied_other intact.staffed found past same]
      exact .rest
  · obtain ⟨loan,answer,returned,here,elsewhere⟩ := Lender.serve_release served
    by_cases same : lock = call.lock
    · subst same
      have stage := seat_returning staffed found place
      have settled : returnStage (.ok reply) = .returned := by rcases answer with rfl | rfl <;> rfl
      rw [back] at stage
      rw [outlook_replied intact.staffed found past (stage.trans settled),here]
      exact .returned client told loan returning returned
    · rw [tell_other returned.about same,elsewhere lock same,outlook_replied_other intact.staffed found past same]
      exact .rest

theorem outlook_refuse (intact : fleet.Intact) {request : Request} {fault : LockFault}
    (out : fleet.requests.find? (client,k) = some request)
    (permitted : permits trouble (holds past) fleet (.refuse client k fault) = true) (lock : LockId) :
    (fleet.outlook past lock).Step trouble lock none (outlook past { fleet with
      requests := fleet.requests.remove (client,k)
      replies := fleet.replies.put (client,k) (.error fault) } lock) := by
  have staffed : Staffed { fleet with
      requests := fleet.requests.remove (client,k), replies := fleet.replies.put (client,k) (.error fault) } :=
    intact.staffed
  have back := Table.find?_put_self fleet.replies (client,k) (Except.error fault)
  simp only [permits,out] at permitted
  obtain ⟨call,found,⟨place,rfl,asking⟩ | ⟨place,rfl,returning⟩⟩ := request_on_way intact out
  · by_cases same : lock = call.lock
    · subst same
      have stage := seat_asking staffed found place
      rw [back] at stage
      rw [outlook_replied intact.staffed found past stage]
      exact .askRefused client permitted asking
    · rw [outlook_replied_other intact.staffed found past same]
      exact .rest
  · by_cases same : lock = call.lock
    · subst same
      have stage := seat_returning staffed found place
      rw [back] at stage
      rw [outlook_replied intact.staffed found past stage]
      exact .returnRefused client permitted returning
    · rw [outlook_replied_other intact.staffed found past same]
      exact .rest

theorem reply_on_way (intact : fleet.Intact) {reply : Except LockFault Reply} {call : Call}
    (found : fleet.call? client k = some call) (back : fleet.replies.find? (client,k) = some reply) :
    (call.place = .asked → (fleet.seat client call.lock).stage = askStage reply) ∧
      (call.place = .returned → (fleet.seat client call.lock).stage = returnStage reply) := by
  refine ⟨fun place => ?_,fun place => ?_⟩
  · have stage := seat_asking intact.staffed found place
    rwa [back] at stage
  · have stage := seat_returning intact.staffed found place
    rwa [back] at stage

theorem outlook_deliver (intact : fleet.Intact) {reply : Except LockFault Reply}
    (back : fleet.replies.find? (client,k) = some reply)
    (acts : { fleet with replies := fleet.replies.remove (client,k) }.Acts client (.answer reply) k third [] next)
    (past : History) (lock : LockId) : next.outlook past lock = fleet.outlook past lock := by
  obtain ⟨lender,_,notices,errands,_⟩ := acts.post
  obtain ⟨call,found,rfl,settled⟩ := acts.seat_answer intact.staffed
  obtain ⟨asking,returning⟩ := reply_on_way intact found back
  refine outlook_eq (by rw [lender]; rfl) ?_ (fun _ => pending_congr notices errands _)
    (fun _ => pending_congr notices errands _) (fun _ => rfl)
  intro other
  change next.seat other lock = fleet.seat other lock
  by_cases apart : other ≠ client ∨ lock ≠ call.lock
  · exact acts.seat_answer_other intact.staffed apart
  · have same : other = client := by simpa using fun differ => apart (.inl differ)
    have here : lock = call.lock := by simpa using fun differ => apart (.inr differ)
    rw [same,here]
    rcases settled with ⟨place,settled⟩ | ⟨place,settled⟩
    · rw [settled,← asking place]
    · rw [settled,← returning place]

theorem forfeits_lose {fault : LockFault} :
    Moment.forfeits ⟨fleet,.lose client k fault,happenings,next⟩ other lock ↔
      other = client ∧ ∃ purpose reply, fleet.call? client k = some ⟨purpose,lock,.returned⟩ ∧
        fleet.replies.find? (client,k) = some (.ok reply) := by
  constructor
  · rintro ⟨j,reason,purpose,reply,moved,found,back⟩
    cases moved
    exact ⟨rfl,purpose,reply,found,back⟩
  · rintro ⟨rfl,purpose,reply,found,back⟩
    exact ⟨k,fault,purpose,reply,rfl,found,back⟩

theorem returned_of_mail (intact : fleet.Intact) {purpose : Purpose} {reply : Reply}
    (found : fleet.call? client k = some ⟨purpose,lock,.returned⟩)
    (back : fleet.replies.find? (client,k) = some (.ok reply)) : returnStage (.ok reply) = .returned := by
  have mail := intact.mailed client k
  rw [found,back] at mail
  obtain ⟨request,awaits,answer,_⟩ := mail.of_reply
  cases awaits
  rcases answer with rfl | rfl <;> rfl

theorem outlook_lose (intact : fleet.Intact) {reply : Except LockFault Reply} {fault : LockFault}
    (back : fleet.replies.find? (client,k) = some reply)
    (acts : { fleet with replies := fleet.replies.remove (client,k) }.Acts
      client (.answer (.error fault)) k third [] next)
    (permitted : permits trouble (holds past) fleet (.lose client k fault) = true) (lock : LockId) :
    ∃ forfeit, (fleet.outlook past lock).Step trouble lock forfeit (next.outlook past lock) ∧ ∀ other,
      Moment.forfeits ⟨fleet,.lose client k fault,[],next⟩ other lock ↔ forfeit = some other := by
  obtain ⟨lender,_,notices,errands,_⟩ := acts.post
  obtain ⟨⟨purpose,third,place⟩,found,rfl,settled⟩ := acts.seat_answer intact.staffed
  obtain ⟨asking,returning⟩ := reply_on_way intact found back
  have elsewhere (apart : lock ≠ third) : next.outlook past lock = fleet.outlook past lock :=
    outlook_eq (by rw [lender]; rfl) (fun _ => acts.seat_answer_other intact.staffed (.inr apart))
      (fun _ => pending_congr notices errands _) (fun _ => pending_congr notices errands _) (fun _ => rfl)
  have here (stage : Stage) (entered : next.seat client third = { fleet.seat client third with stage }) :
      next.outlook past third = (fleet.outlook past third).enter client stage := by
    refine outlook_eq (by rw [lender]; rfl) ?_ (fun _ => pending_congr notices errands _)
      (fun _ => pending_congr notices errands _) (fun _ => rfl)
    intro other
    by_cases same : other = client
    · rw [same,Outlook.enter_self]
      exact entered
    · rw [Outlook.enter_other _ same]
      exact acts.seat_answer_other intact.staffed (.inl same)
  rcases settled with ⟨rfl,entered⟩ | ⟨rfl,entered⟩
  · have kept (other : ClientId) : ¬ Moment.forfeits ⟨fleet,.lose client k fault,[],next⟩ other lock := by
      rw [forfeits_lose,found]
      rintro ⟨_,_,_,⟨⟩,_⟩
    refine ⟨none,?_,fun other => iff_of_false (kept other) nofun⟩
    by_cases same : lock = third
    · subst same
      rw [here _ entered]
      simp only [permits,found] at permitted
      apply Outlook.Step.askLost client permitted
      change (fleet.seat client lock).stage.state = _
      rw [asking rfl,askStage_state]
    · rw [elsewhere same]
      exact .rest
  · have stage := returning rfl
    by_cases same : lock = third
    · subst same
      rw [here _ entered]
      cases reply with
      | error old =>
          have kept (other : ClientId) : ¬ Moment.forfeits ⟨fleet,.lose client k fault,[],next⟩ other lock := by
            rw [forfeits_lose,back]
            rintro ⟨_,_,_,_,⟨⟩⟩
          have unchanged : (fleet.outlook past lock).enter client (returnStage (.error fault)) = _ :=
            Outlook.enter_same _ client stage
          rw [unchanged]
          exact ⟨none,.rest,fun other => iff_of_false (kept other) nofun⟩
      | ok reply =>
          refine ⟨some client,?_,fun other => ?_⟩
          · simp only [permits,found] at permitted
            exact .returnLost client permitted (stage.trans (returned_of_mail intact found back))
          · rw [forfeits_lose,Option.some.injEq]
            exact ⟨fun lost => lost.1.symm,fun same => ⟨same.symm,purpose,reply,found,back⟩⟩
    · have kept (other : ClientId) : ¬ Moment.forfeits ⟨fleet,.lose client k fault,[],next⟩ other lock := by
        rw [forfeits_lose,found]
        rintro ⟨_,_,_,equal,_⟩
        cases equal
        exact same rfl
      rw [elsewhere same]
      exact ⟨none,.rest,fun other => iff_of_false (kept other) nofun⟩

theorem outlook_post (posted : fleet.Posted) {notice : Notice} {rest : List Notice}
    (due : fleet.errands.find? n = some ⟨notice :: rest,false⟩) (past : History) (lock : LockId) :
    outlook past { fleet with
      errands := fleet.errands.put n ⟨notice :: rest,true⟩
      notices := fleet.notices.put fleet.nextNotice notice
      nextNotice := fleet.nextNotice + 1 } lock = fleet.outlook past lock :=
  outlook_eq rfl (fun _ => rfl) (fun _ => post_pending posted due _) (fun _ => post_pending posted due _)
    (fun _ => rfl)

theorem outlook_discard (posted : fleet.Posted) (allowed : trouble.noticeLost = true) {notice : Notice}
    (due : fleet.notices.find? n = some notice) (past : History) (lock : LockId) :
    (fleet.outlook past lock).Step trouble lock none
      (outlook past { fleet with notices := fleet.notices.remove n } lock) := by
  by_cases here : lock = notice.callback.lock
  · obtain ⟨client,callback⟩ := notice
    cases callback with
    | revoke third =>
        change lock = third at here
        subst here
        rw [(outlook_take_revoke posted past due).2]
        exact .revokeLost client allowed
    | retry third =>
        change lock = third at here
        subst here
        rw [(outlook_take_retry posted past due).2]
        exact .retryLost client allowed
  · rw [outlook_take_other posted past due here]
    exact .rest

theorem outlook_settle (posted : fleet.Posted) {ok : Bool} (allowed : (ok || trouble.noticeLost) = true)
    {notice : Notice} {rest : List Notice} (due : fleet.errands.find? n = some ⟨notice :: rest,true⟩)
    (past : History) (lock : LockId) : (fleet.outlook past lock).Step trouble lock none (outlook past { fleet with
      lender := fleet.lender.noticed notice ok
      errands := if rest = [] then fleet.errands.remove n else fleet.errands.put n ⟨rest,false⟩ } lock) := by
  have same (o : Outlook) (loan : (fleet.lender.noticed notice ok).loan lock = o.loan)
      (frame : o = { fleet.outlook past lock with loan := o.loan }) : outlook past { fleet with
        lender := fleet.lender.noticed notice ok
        errands := if rest = [] then fleet.errands.remove n else fleet.errands.put n ⟨rest,false⟩ } lock = o := by
    rw [frame]
    exact outlook_eq loan (fun _ => rfl) (fun _ => settle_pending posted due _ _)
      (fun _ => settle_pending posted due _ _) (fun _ => rfl)
  obtain ⟨after,⟨here,elsewhere⟩,kept | ⟨failed,own,forgotten⟩⟩ := fleet.lender.noticed_changes notice ok
  · rw [same (fleet.outlook past lock) ?_ rfl]
    · exact .rest
    · by_cases of : lock = notice.callback.lock
      · rw [of,here,kept]
        rfl
      · exact elsewhere lock of
  · subst failed
    by_cases of : lock = notice.callback.lock
    · subst of
      rw [same { fleet.outlook past notice.callback.lock with
        loan := { fleet.lender.loan notice.callback.lock with revoking := false } } (here.trans forgotten) rfl]
      exact .revokeFailed notice.client allowed own
    · rw [same (fleet.outlook past lock) (elsewhere lock of) rfl]
      exact .rest

theorem outlook_quiet (fleet later : Fleet) (move : Move) (gives : move.gives = []) (past : History) (next : Fleet)
    (lock : LockId) : next.outlook (⟨fleet,move,[],later⟩ :: past) lock = next.outlook past lock :=
  outlook_eq rfl (fun _ => rfl) (fun _ => rfl) (fun _ => rfl) fun _ => holds_quiet fleet later move gives _

def Move.loses : Move → Bool
  | .lose .. => true
  | _ => false

-- Every permitted move of a fleet is a step as seen from any one lock.
theorem Did.outlook (did : fleet.Did move happenings next)
    (permitted : permits trouble (holds past) fleet move = true) (intact : fleet.Intact) (lock : LockId) :
    ∃ forfeit, (fleet.outlook past lock).Step trouble lock forfeit
      (next.outlook (⟨fleet,move,happenings,next⟩ :: past) lock) ∧ ∀ client,
        Moment.forfeits ⟨fleet,move,happenings,next⟩ client lock ↔ forfeit = some client := by
  have kept {move : Move} {happenings : List Happening} {next : Fleet} (told : move.loses = false)
      (step : (fleet.outlook past lock).Step trouble lock none
        (next.outlook (⟨fleet,move,happenings,next⟩ :: past) lock)) :
      ∃ forfeit, (fleet.outlook past lock).Step trouble lock forfeit
        (next.outlook (⟨fleet,move,happenings,next⟩ :: past) lock) ∧ ∀ client,
          Moment.forfeits ⟨fleet,move,happenings,next⟩ client lock ↔ forfeit = some client := by
    refine ⟨none,step,fun client => iff_of_false ?_ nofun⟩
    rintro ⟨k,fault,_,_,moved,_⟩
    rw [show move = _ from moved] at told
    cases told
  cases did with
  | @begin client purpose k third effects next acts =>
      cases purpose with
      | acquire => exact kept rfl (acts.outlook_act (.inl rfl) intact _ rfl lock)
      | release => exact kept rfl (acts.outlook_release intact (by simpa [permits] using permitted) lock)
      | revoke => cases permitted
  | retry acts => cases permitted
  | advance acts => exact kept rfl (acts.outlook_act (.inr rfl) intact _ rfl lock)
  | serve later told out served =>
      apply kept rfl
      rw [outlook_quiet _ _ _ rfl]
      exact outlook_serve intact out served past lock
  | refuse out =>
      apply kept rfl
      rw [outlook_quiet _ _ _ rfl]
      exact outlook_refuse intact out permitted lock
  | deliver back acts =>
      apply kept rfl
      rw [outlook_quiet _ _ _ rfl,outlook_deliver intact back acts past lock]
      exact .rest
  | lose back acts =>
      rw [outlook_quiet _ _ _ rfl]
      exact outlook_lose intact back acts permitted lock
  | post due =>
      apply kept rfl
      rw [outlook_quiet _ _ _ rfl,outlook_post intact.posted due]
      exact .rest
  | revoke due acts => exact kept rfl (acts.outlook_revoke intact due lock)
  | @signal n client third k effects next due acts =>
      have timely : trouble.retryLate = true ∨ fleet.owner third = some client := by
        simpa [permits,due,Notice.retry] using permitted
      exact kept rfl (acts.outlook_signal intact due timely lock)
  | discard due =>
      apply kept rfl
      rw [outlook_quiet _ _ _ rfl]
      exact outlook_discard intact.posted permitted due past lock
  | settle due =>
      apply kept rfl
      rw [outlook_quiet _ _ _ rfl]
      exact outlook_settle intact.posted permitted due past lock
  | direct => cases permitted

theorem outlook_start (roll : Roll) (lock : LockId) : Fleet.outlook [] (start roll) lock = {} := by
  refine outlook_eq rfl ?_ (fun _ => rfl) (fun _ => rfl) (fun _ => rfl)
  intro client
  unfold seat
  rw [start_member]
  cases roll.find? client <;> rfl

theorem Run.always {roll : Roll} (run : Run trouble roll past fleet) (lock : LockId)
    (fact : Outlook → (ClientId → Prop) → Prop) (base : fact {} fun _ => False)
    (keep : ∀ o forfeit next astray, o.Step trouble lock forfeit next → fact o astray →
      fact next (next.Strays forfeit astray)) :
    fact (fleet.outlook past lock) (Astray · lock past) := by
  induction run with
  | start begins =>
      cases begins
      rw [outlook_start]
      exact base
  | @step past fleet next happenings move run permitted ran ih =>
      have intact := Run.intact run
      have did := step_did intact.staffed ran
      obtain ⟨forfeit,step,forfeits⟩ := did.outlook permitted intact lock
      have astray : (Astray · lock (⟨fleet,move,happenings,next⟩ :: past)) =
          (next.outlook (⟨fleet,move,happenings,next⟩ :: past) lock).Strays forfeit (Astray · lock past) := by
        funext client
        have state : (next.seat client lock).stage.state = next.state client lock :=
          seat_state (did.intact intact).staffed
        simp only [Astray,forfeits,Outlook.Strays,outlook,state]
      rw [astray]
      exact keep _ _ _ _ step ih

end Fleet
end LockLender
