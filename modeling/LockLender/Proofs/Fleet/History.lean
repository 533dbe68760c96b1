import LockLender.Proofs.Borrower.Seat
import LockLender.Proofs.Fleet.Notices
import LockLender.Proofs.Machine

namespace LockLender.Fleet
open Borrower

-- What may go wrong on the way, beyond any delay and any overtaking.
structure Trouble where
  -- The request of an acquire does not reach the lender; its reply is lost.
  askRefused : Bool := false
  askLost : Bool := false
  -- The same for the request to take a lock back.
  returnRefused : Bool := false
  returnLost : Bool := false
  -- A notice is lost, or counts as failed whether it arrives or not.
  noticeLost : Bool := false
  -- A retry arrives when the lock is no longer its client's.
  retryLate : Bool := false

abbrev Moment := Deed Fleet Move (List Happening)

abbrev History := List Moment

abbrev Hold := ClientId × LockId

def Move.gives : Move → List Hold
  | .begin client .release lock => [(client,lock)]
  | _ => []

def Happening.gets (happening : Happening) : Option Hold := happening.2.acquired.map (happening.1,·)

-- By client and lock, the acquires that succeeded and were not released since.
def holds : History → List Hold
  | [] => []
  | now :: past => (holds past).diff now.act.gives ++ now.effects.filterMap Happening.gets

def entry (fleet : Fleet) (client : ClientId) (lock : LockId) : Entry :=
  match fleet.members.find? client with
  | none => {}
  | some b => b.entry lock

def state (fleet : Fleet) (client : ClientId) (lock : LockId) : LockState := (fleet.entry client lock).state

def owner (fleet : Fleet) (lock : LockId) : Option ClientId := (fleet.lender.loan lock).owner

def line (fleet : Fleet) (lock : LockId) : List ClientId := (fleet.lender.loan lock).line

-- The lender took the lock back and the client was never told.
def Moment.forfeits (now : Moment) (client : ClientId) (lock : LockId) : Prop :=
  ∃ k fault purpose reply, now.act = .lose client k fault ∧
    now.before.call? client k = some ⟨purpose,lock,.returned⟩ ∧
    now.before.replies.find? (client,k) = some (.ok reply)

-- That has happened since the client last knew nothing of the lock.
def Astray (client : ClientId) (lock : LockId) : History → Prop
  | [] => False
  | now :: past => (now.forfeits client lock ∨ Astray client lock past) ∧ now.after.state client lock ≠ .idle

def permits (trouble : Trouble) (holds : List Hold) (fleet : Fleet) : Move → Bool
  | .begin _ .acquire _ => true
  | .begin client .release lock => (client,lock) ∈ holds
  | .begin _ .revoke _ | .retry .. | .direct _ => false
  | .advance .. | .serve .. | .deliver .. | .post _ => true
  | .refuse client k _ =>
    match fleet.requests.find? (client,k) with
    | some (.acquire ..) => trouble.askRefused
    | some (.release ..) => trouble.returnRefused
    | _ => false
  | .lose client k _ =>
    match fleet.call? client k with
    | some ⟨_,_,.asked⟩ => trouble.askLost
    | some ⟨_,_,.returned⟩ => trouble.returnLost
    | _ => false
  | .arrive n =>
    trouble.retryLate ||
      match fleet.notices.find? n with
      | some ⟨client,.retry lock⟩ => fleet.owner lock = some client
      | _ => true
  | .discard _ => trouble.noticeLost
  | .settle _ ok => ok || trouble.noticeLost

abbrev Roll := Table ClientId (Nat × Bool)

def start (roll : Roll) : Fleet :=
  { members := roll.map fun (client,threshold,hooked) => (client,.new client threshold hooked) }

-- Local callers release only what they got, clients hear only from the lender
-- and only once, and no more goes wrong on the way than is said.
abbrev limited (trouble : Trouble) (roll : Roll) : Machine Fleet Move (List Happening) where
  begins := (· = start roll)
  allows past fleet move := permits trouble (holds past) fleet move = true
  step := step

abbrev Run (trouble : Trouble) (roll : Roll) : History → Fleet → Prop := (limited trouble roll).Runs

instance (trouble : Trouble) (roll : Roll) (past : History) (fleet : Fleet) (move : Move) :
    Decidable ((limited trouble roll).allows past fleet move) :=
  inferInstanceAs (Decidable (permits trouble (holds past) fleet move = true))

def played (trouble : Trouble) (roll : Roll) (moves : List Move) : History × Fleet :=
  (limited trouble roll).follow [] (start roll) moves

theorem played_run (trouble : Trouble) (roll : Roll) (moves : List Move) :
    Run trouble roll (played trouble roll moves).1 (played trouble roll moves).2 :=
  (limited trouble roll).follow_runs (.start rfl) moves

variable {trouble : Trouble} {roll : Roll} {past : History} {fleet next : Fleet} {move : Move}
  {happenings : List Happening}

def asks (client : ClientId) (k : Nat) (lock : LockId) : List Move :=
  [.begin client .acquire lock,.advance client k,.advance client k,.advance client k,.serve client k,
    .deliver client k,.advance client k]

def returns (client : ClientId) (k : Nat) (lock : LockId) : List Move :=
  [.begin client .release lock,.advance client k,.serve client k]

def tells (n : Nat) : List Move := [.post n,.arrive n,.settle n true]

def ada : ClientId := ⟨"ada"⟩
def bob : ClientId := ⟨"bob"⟩
def pen : LockId := ⟨7⟩
def pair : Roll := [(ada,(1,false)),(bob,(1,false))]

-- Ada gives the lock back and Bob has it before she knows.
def handover : List Move :=
  asks ada 0 pen ++ asks bob 0 pen ++ [.advance bob 0] ++ tells 0 ++ returns ada 2 pen ++ tells 1 ++
    [.advance bob 0,.advance bob 0,.advance bob 0]

structure Intact (fleet : Fleet) : Prop where
  staffed : fleet.Staffed
  mailed : fleet.Mailed
  posted : fleet.Posted

theorem Did.intact (did : fleet.Did move happenings next) (intact : fleet.Intact) : next.Intact :=
  ⟨did.staffed intact.staffed,did.mailed intact.mailed,did.posted intact.posted⟩

theorem start_member (roll : Roll) (client : ClientId) :
    (start roll).members.find? client =
      (roll.find? client).map fun (threshold,hooked) => .new client threshold hooked := by
  unfold start
  induction roll with
  | nil => rfl
  | cons pair rest ih =>
      obtain ⟨key,threshold,hooked⟩ := pair
      by_cases same : key = client
      · subst same
        simp [Table.find?]
      · simpa [Table.find?,same] using ih

theorem start_intact (roll : Roll) : (start roll).Intact := by
  have fresh {client : ClientId} {b : Borrower} (found : (start roll).members.find? client = some b) :
      ∃ threshold hooked, b = .new client threshold hooked := by
    rw [start_member] at found
    obtain ⟨⟨threshold,hooked⟩,_,rfl⟩ := Option.map_eq_some_iff.mp found
    exact ⟨threshold,hooked,rfl⟩
  refine ⟨?_,?_,⟨List.nodup_nil,List.nodup_nil,nofun,nofun⟩⟩
  · intro client b found
    obtain ⟨threshold,hooked,rfl⟩ := fresh found
    exact ⟨new_sound _ _ _,new_counted _ _ _,new_awake _ _ _⟩
  · intro client k
    apply Mail.quiet
    cases found : (start roll).members.find? client with
    | none => simp [call?,found,awaited]
    | some b =>
        obtain ⟨threshold,hooked,rfl⟩ := fresh found
        simp [call?,found,awaited,new,Table.find?]

theorem Run.intact (run : Run trouble roll past fleet) : fleet.Intact := by
  induction run with
  | start begins =>
      cases begins
      exact start_intact roll
  | step _ _ ran ih => exact (step_did ih.staffed ran).intact ih

end LockLender.Fleet
