import LockLender.Proofs.Lender.Loan

namespace LockLender.Lender

inductive Event where
  | acquire (lock : LockId) (client : ClientId)
  | release (lock : LockId) (client : ClientId)
  | outcome (notice : Notice) (ok : Bool)
  deriving DecidableEq, Repr

def Event.lock : Event → LockId
  | .acquire lock _ | .release lock _ => lock
  | .outcome notice _ => notice.callback.lock

structure Moment where
  before : Lender
  event : Event
  reply : Option Reply
  told : List Notice
  after : Lender

def meet (lender : Lender) (event : Event) : Moment :=
  match event with
  | .acquire lock client =>
    let (reply,told,after) := lender.serve (.acquire lock client)
    ⟨lender,event,some reply,told,after⟩
  | .release lock client =>
    let (reply,told,after) := lender.serve (.release lock client)
    ⟨lender,event,some reply,told,after⟩
  | .outcome notice ok => ⟨lender,event,none,[],lender.noticed notice ok⟩

-- The latest event comes first. An outcome may be of a notice that was never sent.
def after : List Event → Lender
  | [] => {}
  | event :: past => ((after past).meet event).after

def course : List Event → List Moment
  | [] => []
  | event :: past => (after past).meet event :: course past

-- What an event comes to: an answer, notices, and at most one record put down
-- with the number of grants in it.
structure Turn where
  reply : Option Reply
  told : List Notice
  change : Option (Loan × Nat)

def Turn.taken (turn : Turn) (lender : Lender) (event : Event) : Moment :=
  ⟨lender,event,turn.reply,turn.told,
    match turn.change with
    | none => lender
    | some (loan,gain) => { lender.write event.lock loan with grants := lender.grants + gain }⟩

def Same (one two : Lender) : Prop := (∀ lock, one.loan? lock = two.loan? lock) ∧ one.grants = two.grants

def sent (moments : List Moment) : List Notice := moments.reverse.flatMap (·.told)

def concerning (lock : LockId) (past : List Event) : List Event := past.filter (·.lock = lock)

def answers (lock : LockId) (past : List Event) : List (Event × Option Reply) :=
  ((course past).filter (·.event.lock = lock)).map fun now => (now.event,now.reply)

def notices (lock : LockId) (past : List Event) : List Notice :=
  (sent (course past)).filter (·.callback.lock = lock)

variable {one two : Lender} {event : Event} {lock : LockId}

theorem acquire_turn (record : Option Loan) (lock : LockId) (client : ClientId) :
    ∃ turn : Turn, ∀ lender : Lender, lender.loan? lock = record →
      lender.meet (.acquire lock client) = turn.taken lender (.acquire lock client) := by
  cases lent : (record.getD {}).owner with
  | none =>
      refine ⟨⟨some .granted,[],some ({ record.getD {} with owner := some client },1)⟩,?_⟩
      intro lender here
      simp only [meet,serve,acquire,here,lent]
      rfl
  | some owner =>
      by_cases own : owner = client
      · refine ⟨⟨some .granted,[],none⟩,?_⟩
        intro lender here
        simp only [meet,serve,acquire,here,lent,own,if_true]
        rfl
      by_cases queued : client ∈ (record.getD {}).line
      · refine ⟨⟨some .retry,[],none⟩,?_⟩
        intro lender here
        simp only [meet,serve,acquire,here,lent,own,queued,if_true,if_false]
        rfl
      · refine ⟨⟨some .retry,if (record.getD {}).revoking then [] else [.revoke owner lock],
          some ({ record.getD {} with line := (record.getD {}).line ++ [client], revoking := true },0)⟩,?_⟩
        intro lender here
        simp only [meet,serve,acquire,here,lent,own,queued,if_false]
        rfl

theorem release_turn (record : Option Loan) (lock : LockId) (client : ClientId) :
    ∃ turn : Turn, ∀ lender : Lender, lender.loan? lock = record →
      lender.meet (.release lock client) = turn.taken lender (.release lock client) := by
  cases record with
  | none =>
      refine ⟨⟨some (.noSuchLock lock),[],none⟩,?_⟩
      intro lender unknown
      simp only [meet,serve,release,unknown]
      rfl
  | some loan =>
      by_cases own : loan.owner = some client
      · cases waiting : loan.line with
        | nil =>
            refine ⟨⟨some .released,[],some ({ loan with owner := none, revoking := false },0)⟩,?_⟩
            intro lender known
            simp only [meet,serve,release,known,own,waiting,ne_eq,not_true_eq_false,if_false]
            rfl
        | cons heir line =>
            refine ⟨⟨some .released,Notice.retry heir lock :: if !line.isEmpty then [Notice.revoke heir lock] else [],
              some (⟨some heir,line,!line.isEmpty⟩,1)⟩,?_⟩
            intro lender known
            simp only [meet,serve,release,known,own,waiting,ne_eq,not_true_eq_false,if_false]
            rfl
      · refine ⟨⟨some .released,[],none⟩,?_⟩
        intro lender known
        simp only [meet,serve,release,known,own,ne_eq,not_false_eq_true,if_true]
        rfl

theorem revokeFailed_turn (record : Option Loan) (lock : LockId) (client : ClientId) :
    ∃ turn : Turn, ∀ lender : Lender, lender.loan? lock = record →
      lender.meet (.outcome (.revoke client lock) false) = turn.taken lender (.outcome (.revoke client lock) false) := by
  cases record with
  | none =>
      refine ⟨⟨none,[],none⟩,?_⟩
      intro lender unknown
      simp only [meet,noticed,Notice.revoke,revokeFailed,unknown]
      rfl
  | some loan =>
      by_cases own : loan.owner = some client
      · refine ⟨⟨none,[],some ({ loan with revoking := false },0)⟩,?_⟩
        intro lender known
        simp only [meet,noticed,Notice.revoke,revokeFailed,known,own,if_true]
        rfl
      · refine ⟨⟨none,[],none⟩,?_⟩
        intro lender known
        simp only [meet,noticed,Notice.revoke,revokeFailed,known,own,if_false]
        rfl

theorem meet_turn (record : Option Loan) (event : Event) :
    ∃ turn : Turn, ∀ lender : Lender, lender.loan? event.lock = record → lender.meet event = turn.taken lender event := by
  cases event with
  | acquire lock client => exact acquire_turn record lock client
  | release lock client => exact release_turn record lock client
  | outcome notice ok =>
      obtain ⟨client,callback⟩ := notice
      cases callback with
      | retry => exact ⟨⟨none,[],none⟩,fun _ _ => rfl⟩
      | revoke lock =>
          cases ok with
          | true => exact ⟨⟨none,[],none⟩,fun _ _ => rfl⟩
          | false => exact revokeFailed_turn record lock client

theorem Turn.elsewhere (turn : Turn) (lender : Lender) {event : Event} (differ : lock ≠ event.lock) :
    (turn.taken lender event).after.loan? lock = lender.loan? lock := by
  obtain ⟨reply,told,change⟩ := turn
  cases change with
  | none => rfl
  | some change => exact Table.find?_put_ne _ _ differ

theorem Turn.record (turn : Turn) (event : Event) (same : one.loan? event.lock = two.loan? event.lock) :
    (turn.taken one event).after.loan? event.lock = (turn.taken two event).after.loan? event.lock := by
  obtain ⟨reply,told,change⟩ := turn
  cases change with
  | none => exact same
  | some change => exact (Table.find?_put_self _ _ _).trans (Table.find?_put_self _ _ _).symm

def Turn.gain (turn : Turn) : Nat := (turn.change.map (·.2)).getD 0

theorem Turn.grants (turn : Turn) (lender : Lender) (event : Event) :
    (turn.taken lender event).after.grants = lender.grants + turn.gain := by
  obtain ⟨reply,told,change⟩ := turn
  cases change <;> rfl

theorem meet_elsewhere (lender : Lender) (event : Event) (differ : lock ≠ event.lock) :
    (lender.meet event).after.loan? lock = lender.loan? lock := by
  obtain ⟨turn,met⟩ := meet_turn _ event
  rw [met lender rfl]
  exact turn.elsewhere lender differ

theorem meet_acquire (lender : Lender) (lock : LockId) (client : ClientId) :
    ∃ status after, Loan.Asked client lock (lender.loan lock) status (lender.meet (.acquire lock client)).told after ∧
      lender.Changes lock after (lender.meet (.acquire lock client)).after := by
  obtain ⟨status,after,_,asked,changes⟩ := serve_acquire (rfl : lender.serve (.acquire lock client) = (_,_,_))
  exact ⟨status,after,asked,changes⟩

theorem meet_release (lender : Lender) (lock : LockId) (client : ClientId) :
    ∃ after, Loan.Returned client lock (lender.loan lock) (lender.meet (.release lock client)).told after ∧
      lender.Changes lock after (lender.meet (.release lock client)).after := by
  obtain ⟨after,_,returned,changes⟩ := serve_release (rfl : lender.serve (.release lock client) = (_,_,_))
  exact ⟨after,returned,changes⟩

theorem meet_about (lender : Lender) (event : Event) :
    ∀ notice ∈ (lender.meet event).told, notice.callback.lock = event.lock := by
  cases event with
  | acquire lock client =>
      obtain ⟨_,_,asked,_⟩ := lender.meet_acquire lock client
      exact asked.about
  | release lock client =>
      obtain ⟨_,returned,_⟩ := lender.meet_release lock client
      exact returned.about
  | outcome => exact nofun

@[simp] theorem meet_event (lender : Lender) (event : Event) : (lender.meet event).event = event := by
  cases event <;> rfl

@[simp] theorem meet_before (lender : Lender) (event : Event) : (lender.meet event).before = lender := by
  cases event <;> rfl

theorem answers_cons (lock : LockId) (event : Event) (past : List Event) :
    answers lock (event :: past) =
      (if event.lock = lock then [(event,((after past).meet event).reply)] else []) ++ answers lock past := by
  by_cases here : event.lock = lock <;> simp [answers,course,here]

theorem notices_cons (lock : LockId) (event : Event) (past : List Event) :
    notices lock (event :: past) =
      notices lock past ++ if event.lock = lock then ((after past).meet event).told else [] := by
  have about := meet_about (after past) event
  have own : ((after past).meet event).told.filter (·.callback.lock = lock) =
      if event.lock = lock then ((after past).meet event).told else [] := by
    split
    · rename_i here
      exact List.filter_eq_self.mpr fun notice told => by simp [about notice told,here]
    · rename_i elsewhere
      exact List.filter_eq_nil_iff.mpr fun notice told => by simp [about notice told,elsewhere]
  rw [← own]
  simp [notices,sent,course]

theorem course_projects (lock : LockId) (past : List Event) :
    (after past).loan? lock = (after (concerning lock past)).loan? lock ∧
      answers lock past = answers lock (concerning lock past) ∧
      notices lock past = notices lock (concerning lock past) := by
  induction past with
  | nil => exact ⟨rfl,rfl,rfl⟩
  | cons event past ih =>
      obtain ⟨record,replies,told⟩ := ih
      by_cases here : event.lock = lock
      · subst here
        have kept : concerning event.lock (event :: past) = event :: concerning event.lock past := by
          simp [concerning]
        obtain ⟨turn,met⟩ := meet_turn _ event
        have whole := met (after past) record
        have lean := met (after (concerning event.lock past)) rfl
        rw [kept,answers_cons,answers_cons,notices_cons,notices_cons,replies,told,whole,lean]
        refine ⟨?_,rfl,rfl⟩
        rw [after,after,whole,lean]
        exact turn.record event record
      · have dropped : concerning lock (event :: past) = concerning lock past := by simp [concerning,here]
        rw [dropped,answers_cons,notices_cons,if_neg here,if_neg here,List.append_nil,List.nil_append]
        exact ⟨(meet_elsewhere _ _ (Ne.symm here)).trans record,replies,told⟩

theorem meet_behind (lender : Lender) {first second : Event} (differ : second.lock ≠ first.lock) :
    ((lender.meet first).after.meet second).reply = (lender.meet second).reply ∧
      ((lender.meet first).after.meet second).told = (lender.meet second).told ∧
      ((lender.meet first).after.meet second).after.loan? second.lock = (lender.meet second).after.loan? second.lock ∧
      ((lender.meet first).after.meet second).after.grants + lender.grants =
        (lender.meet first).after.grants + (lender.meet second).after.grants := by
  have same : (lender.meet first).after.loan? second.lock = lender.loan? second.lock := meet_elsewhere _ _ differ
  obtain ⟨turn,met⟩ := meet_turn (lender.loan? second.lock) second
  rw [met lender rfl,met _ same,turn.grants,turn.grants]
  exact ⟨rfl,rfl,turn.record second same,by omega⟩

-- Two runs that differ in what came for other locks only are the same for this
-- lock, and the order of events of different locks does not matter.
theorem locks_independent :
    (∀ (one two : List Event) (lock : LockId), concerning lock one = concerning lock two →
      (after one).loan? lock = (after two).loan? lock ∧ answers lock one = answers lock two ∧
        notices lock one = notices lock two) ∧
    ∀ (lender : Lender) (first second : Event), first.lock ≠ second.lock →
      ((lender.meet first).after.meet second).reply = (lender.meet second).reply ∧
        ((lender.meet first).after.meet second).told = (lender.meet second).told ∧
        ((lender.meet second).after.meet first).reply = (lender.meet first).reply ∧
        ((lender.meet second).after.meet first).told = (lender.meet first).told ∧
        ((lender.meet first).after.meet second).after.Same ((lender.meet second).after.meet first).after := by
  constructor
  · intro one two lock same
    obtain ⟨record,replies,told⟩ := course_projects lock one
    obtain ⟨record',replies',told'⟩ := course_projects lock two
    rw [record,replies,told,record',replies',told',same]
    exact ⟨rfl,rfl,rfl⟩
  · intro lender first second differ
    obtain ⟨reply,told,record,grants⟩ := meet_behind lender differ.symm
    obtain ⟨reply',told',record',grants'⟩ := meet_behind lender differ
    refine ⟨reply,told,reply',told',?_,by omega⟩
    intro lock
    by_cases late : lock = second.lock
    · rw [late,record,meet_elsewhere _ first differ.symm]
    by_cases early : lock = first.lock
    · rw [early,record',meet_elsewhere _ second differ]
    · rw [meet_elsewhere _ _ late,meet_elsewhere _ _ early,meet_elsewhere _ _ early,meet_elsewhere _ _ late]

theorem locks_independent_situation :
    let plain : List Event := [.release ⟨7⟩ ⟨"ada"⟩,.acquire ⟨7⟩ ⟨"bob"⟩,.acquire ⟨7⟩ ⟨"ada"⟩]
    let mixed : List Event := [.release ⟨7⟩ ⟨"ada"⟩,.outcome (.revoke ⟨"cleo"⟩ ⟨8⟩) false,.acquire ⟨7⟩ ⟨"bob"⟩,
      .acquire ⟨8⟩ ⟨"ada"⟩,.acquire ⟨7⟩ ⟨"ada"⟩,.acquire ⟨8⟩ ⟨"cleo"⟩]
    notices ⟨7⟩ plain = notices ⟨7⟩ mixed ∧
      notices ⟨7⟩ mixed = [.revoke ⟨"ada"⟩ ⟨7⟩,.retry ⟨"bob"⟩ ⟨7⟩] ∧
      (after (.acquire ⟨7⟩ ⟨"ada"⟩ :: .acquire ⟨8⟩ ⟨"ada"⟩ :: plain)).Same
        (after (.acquire ⟨8⟩ ⟨"ada"⟩ :: .acquire ⟨7⟩ ⟨"ada"⟩ :: plain)) := by
  intro plain mixed
  obtain ⟨alike,commute⟩ := locks_independent
  refine ⟨(alike plain mixed ⟨7⟩ (by decide)).2.2,by decide,?_⟩
  exact (commute (after plain) (.acquire ⟨8⟩ ⟨"ada"⟩) (.acquire ⟨7⟩ ⟨"ada"⟩) (by decide)).2.2.2.2

end LockLender.Lender
