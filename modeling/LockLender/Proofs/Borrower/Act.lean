import LockLender.Borrower

namespace LockLender.Borrower

inductive Input where
  | begin (purpose : Purpose)
  | retry
  | advance
  | answer (reply : Except LockFault Reply)

-- Before and after: the lock's entry and the call, where no call stands for one
-- that is not there yet or no longer.
inductive Act (threshold k : Nat) (lock : LockId) :
    Input → Entry → Option Call → List Effect → Entry → Option Call → Prop where
  | acquire : Act threshold k lock (.begin .acquire) e none []
      { e with waiting := e.waiting + 1 } (some ⟨.acquire,lock,.arriving⟩)
  | misplaced (unheld : e.state ≠ .held) : Act threshold k lock (.begin .release) e none
      [.done k .release lock (.error fault)] e none
  | giveBack (held : e.state = .held) (wanted : e.revoked = true) (few : e.waiting < threshold) :
      Act threshold k lock (.begin .release) e none []
        { e with state := .releasing } (some ⟨.release,lock,.returning⟩)
  | keep (held : e.state = .held) (needed : e.revoked = true → threshold ≤ e.waiting) :
      Act threshold k lock (.begin .release) e none [.wake e.watchers,.done k .release lock (.ok ())]
        { e with state := .cachedFree, watchers := [] } none
  | surrender (free : e.state = .cachedFree) : Act threshold k lock (.begin .revoke) e none []
      { e with state := .releasing } (some ⟨.revoke,lock,.returning⟩)
  | recalled (away : e.state = .releasing) : Act threshold k lock (.begin .revoke) e none
      [.done k .revoke lock (.ok ())] e none
  | remember (busy : e.state ≠ .cachedFree) (here : e.state ≠ .releasing) :
      Act threshold k lock (.begin .revoke) e none [.done k .revoke lock (.ok ())]
        { e with revoked := true } none
  | signal (asking : e.state = .acquiring) (unset : e.signal = false) :
      Act threshold k lock .retry e none [.wake e.watchers]
        { e with signal := true, watchers := [] } none
  | stale (known : e.state = .acquiring → e.signal = true) : Act threshold k lock .retry e none [] e none
  | watchLock (place : call.place = .arriving ∨ call.place = .parked) (own : call.lock = lock) :
      Act threshold k lock .advance e (some call) []
        { e with watchers := e.watchers ++ [k] } (some { call with place := .looking })
  | hit (place : call.place = .looking) (own : call.lock = lock) (free : e.state = .cachedFree) :
      Act threshold k lock .advance e (some call) [.done k call.purpose lock (.ok ())]
        { e with state := .held, waiting := e.waiting - 1, watchers := e.watchers.erase k } none
  | turnAsking (place : call.place = .looking) (own : call.lock = lock) (idle : e.state = .idle) :
      Act threshold k lock .advance e (some call) []
        { e with state := .acquiring, signal := false, watchers := e.watchers.erase k }
        (some { call with place := .asking })
  | park (place : call.place = .looking) (own : call.lock = lock) (busy : e.state.busy = true) :
      Act threshold k lock .advance e (some call) [] e (some { call with place := .parked })
  | ask (place : call.place = .asking) (own : call.lock = lock) :
      Act threshold k lock .advance e (some call) [.ask k lock] e (some { call with place := .asked })
  | watchSignal (place : call.place = .queued ∨ call.place = .dozing) (own : call.lock = lock) :
      Act threshold k lock .advance e (some call) []
        { e with watchers := e.watchers ++ [k] } (some { call with place := .watching })
  | heed (place : call.place = .watching) (own : call.lock = lock) (set : e.signal = true) :
      Act threshold k lock .advance e (some call) []
        { e with watchers := e.watchers.erase k } (some { call with place := .settling (.ok ()) })
  | doze (place : call.place = .watching) (own : call.lock = lock) (unset : e.signal = false) :
      Act threshold k lock .advance e (some call) [] e (some { call with place := .dozing })
  | got (place : call.place = .settling (.ok ())) (own : call.lock = lock) :
      Act threshold k lock .advance e (some call) [.done k call.purpose lock (.ok ())]
        { e with state := .held, waiting := e.waiting - 1 } none
  | gaveUp (place : call.place = .settling (.error fault)) (own : call.lock = lock) :
      Act threshold k lock .advance e (some call) [.wake e.watchers,.done k call.purpose lock (.error fault)]
        { e with state := .idle, waiting := e.waiting - 1, watchers := [] } none
  | send (place : call.place = .returning) (own : call.lock = lock) (hooks : List Effect)
      (only : hooks = [] ∨ hooks = [.hook lock]) :
      Act threshold k lock .advance e (some call) (hooks ++ [.giveBack k lock]) e
        (some { call with place := .returned })
  | closed (place : call.place = .closing (.ok ())) (own : call.lock = lock) :
      Act threshold k lock .advance e (some call) [.wake e.watchers,.done k call.purpose lock (.ok ())]
        { e with state := .idle, revoked := false, watchers := [] } none
  | reopened (place : call.place = .closing (.error fault)) (own : call.lock = lock) :
      Act threshold k lock .advance e (some call) [.wake e.watchers,.done k call.purpose lock (.error fault)]
        { e with state := .cachedFree, revoked := true, watchers := [] } none
  | askAnswered (place : call.place = .asked) (own : call.lock = lock) :
      Act threshold k lock (.answer reply) e (some call) [] e (some { call with place := afterAsk reply })
  | returnAnswered (place : call.place = .returned) (own : call.lock = lock) :
      Act threshold k lock (.answer reply) e (some call) [] e (some { call with place := afterReturn reply })

-- Nothing but one lock's entry, one call and the counters differ.
structure Edit (b : Borrower) (k : Nat) (lock : LockId) (e : Entry) (after : Option Call)
    (next : Borrower) : Prop where
  entry : next.entry lock = e
  entries : ∀ other, other ≠ lock → next.entry other = b.entry other
  call : next.calls.find? k = after
  calls : ∀ other, other ≠ k → next.calls.find? other = b.calls.find? other
  threshold : next.threshold = b.threshold
  number : next.nextCall = b.nextCall ∧ (after = none ∨ b.calls.find? k ≠ none) ∨
    k = b.nextCall ∧ next.nextCall = b.nextCall + 1

def Numbered (b : Borrower) : Prop := ∀ k call, b.calls.find? k = some call → k < b.nextCall

structure Does (b : Borrower) (input : Input) (k : Nat) (lock : LockId) (effects : List Effect)
    (e : Entry) (after : Option Call) (next : Borrower) : Prop where
  act : Act b.threshold k lock input (b.entry lock) (b.calls.find? k) effects e after
  edit : Edit b k lock e after next

variable {b next : Borrower} {k : Nat} {lock : LockId} {e : Entry} {effects : List Effect}

theorem Numbered.unused (numbered : b.Numbered) : b.calls.find? b.nextCall = none := by
  cases found : b.calls.find? b.nextCall with
  | none => rfl
  | some call => exact absurd (numbered _ _ found) (Nat.lt_irrefl _)

theorem entry_counted (b : Borrower) (stats : Stats) (lock : LockId) : entry { b with stats } lock = b.entry lock := rfl

theorem entry_put (entries : next.entries = b.entries.put lock e) :
    next.entry lock = e ∧ ∀ other, other ≠ lock → next.entry other = b.entry other := by
  refine ⟨by simp [entry, entry?,entries],?_⟩
  intro other differ
  simp [entry, entry?,entries,Table.find?_put_ne _ _ differ]

theorem entry_same (entries : next.entries = b.entries) :
    next.entry lock = b.entry lock ∧ ∀ other, other ≠ lock → next.entry other = b.entry other := by
  simp [entry, entry?,entries]

theorem edit_put {call : Call}
    (entries : next.entry lock = e ∧ ∀ other, other ≠ lock → next.entry other = b.entry other)
    (calls : next.calls = b.calls.put k call) (threshold : next.threshold = b.threshold)
    (number : next.nextCall = b.nextCall ∧ b.calls.find? k ≠ none ∨
      k = b.nextCall ∧ next.nextCall = b.nextCall + 1) :
    Edit b k lock e (some call) next := by
  refine ⟨entries.1,entries.2,by simp [calls],?_,threshold,?_⟩
  · intro other differ
    rw [calls,Table.find?_put_ne _ _ differ]
  · rcases number with ⟨same,there⟩ | new
    · exact .inl ⟨same,.inr there⟩
    · exact .inr new

theorem edit_remove (entries : next.entries = b.entries.put lock e)
    (calls : next.calls = b.calls.remove k) (threshold : next.threshold = b.threshold)
    (number : next.nextCall = b.nextCall) : Edit b k lock e none next := by
  refine ⟨(entry_put entries).1,(entry_put entries).2,by simp [calls],?_,threshold,.inl ⟨number,.inl rfl⟩⟩
  intro other differ
  rw [calls,Table.find?_remove_ne _ differ]

theorem edit_brief (entries : next.entry lock = e ∧ ∀ other, other ≠ lock → next.entry other = b.entry other)
    (calls : next.calls = b.calls) (unused : b.calls.find? k = none) (threshold : next.threshold = b.threshold)
    (number : next.nextCall = b.nextCall ∨ k = b.nextCall ∧ next.nextCall = b.nextCall + 1) :
    Edit b k lock e none next := by
  refine ⟨entries.1,entries.2,by rw [calls,unused],fun _ _ => by rw [calls],threshold,?_⟩
  rcases number with same | new
  · exact .inl ⟨same,.inl rfl⟩
  · exact .inr new

theorem acquire_does (numbered : b.Numbered) (ran : b.acquire lock = (k,next,effects)) :
    ∃ e after, Does b (.begin .acquire) k lock effects e after next := by
  simp only [acquire,openCall,Prod.mk.injEq] at ran
  obtain ⟨rfl,rfl,rfl⟩ := ran
  refine ⟨_,_,?_,edit_put (entry_put rfl) rfl rfl (.inr ⟨rfl,rfl⟩)⟩
  change Act _ _ _ _ _ (b.calls.find? b.nextCall) _ _ _
  rw [numbered.unused]
  exact .acquire

theorem release_does (numbered : b.Numbered) (ran : b.release lock = (k,next,effects)) :
    ∃ e after, Does b (.begin .release) k lock effects e after next := by
  unfold release at ran
  cases found : b.entry? lock with
  | none =>
      simp only [found,brief,Prod.mk.injEq] at ran
      obtain ⟨rfl,rfl,rfl⟩ := ran
      refine ⟨_,_,?_,edit_brief (entry_same rfl) rfl numbered.unused rfl (.inr ⟨rfl,rfl⟩)⟩
      rw [numbered.unused]
      exact .misplaced (by simp [entry,found])
  | some old =>
      have here : b.entry lock = old := by simp [entry,found]
      simp only [found] at ran
      split at ran
      · rename_i unheld
        simp only [brief,Prod.mk.injEq] at ran
        obtain ⟨rfl,rfl,rfl⟩ := ran
        refine ⟨_,_,?_,edit_brief (entry_same rfl) rfl numbered.unused rfl (.inr ⟨rfl,rfl⟩)⟩
        rw [numbered.unused,here]
        exact .misplaced unheld
      · rename_i held
        have held : old.state = .held := by simpa using held
        split at ran
        · rename_i wanted
          simp only [openCall,Prod.mk.injEq] at ran
          obtain ⟨rfl,rfl,rfl⟩ := ran
          refine ⟨_,_,?_,edit_put (entry_put rfl) rfl rfl (.inr ⟨rfl,rfl⟩)⟩
          change Act _ _ _ _ _ (b.calls.find? b.nextCall) _ _ _
          rw [numbered.unused,here]
          exact .giveBack held wanted.1 wanted.2
        · rename_i needed
          simp only [change,brief,Prod.mk.injEq] at ran
          obtain ⟨rfl,rfl,rfl⟩ := ran
          refine ⟨_,_,?_,edit_brief (entry_put rfl) rfl numbered.unused rfl (.inr ⟨rfl,rfl⟩)⟩
          change Act _ _ _ _ _ (b.calls.find? b.nextCall) _ _ _
          rw [numbered.unused,here]
          exact .keep held fun wanted => Nat.le_of_not_lt fun few => needed ⟨wanted,few⟩

theorem revoke_does (numbered : b.Numbered) (ran : b.revoke lock = (k,next,effects)) :
    ∃ e after, Does b (.begin .revoke) k lock effects e after next := by
  unfold revoke at ran
  dsimp only at ran
  rw [entry_counted] at ran
  split at ran
  · rename_i free
    simp only [openCall,write,Prod.mk.injEq] at ran
    obtain ⟨rfl,rfl,rfl⟩ := ran
    refine ⟨_,_,?_,edit_put (entry_put rfl) rfl rfl (.inr ⟨rfl,rfl⟩)⟩
    rw [numbered.unused]
    exact .surrender free
  · rename_i away
    simp only [brief,write,Prod.mk.injEq] at ran
    obtain ⟨rfl,rfl,rfl⟩ := ran
    refine ⟨_,_,?_,edit_brief (entry_put rfl) rfl numbered.unused rfl (.inr ⟨rfl,rfl⟩)⟩
    rw [numbered.unused]
    exact .recalled away
  · rename_i busy here
    simp only [brief,write,Prod.mk.injEq] at ran
    obtain ⟨rfl,rfl,rfl⟩ := ran
    refine ⟨_,_,?_,edit_brief (entry_put rfl) rfl numbered.unused rfl (.inr ⟨rfl,rfl⟩)⟩
    rw [numbered.unused]
    exact .remember busy here

theorem retry_does (numbered : b.Numbered) (ran : b.retry lock = (next,effects)) :
    ∃ e after, Does b .retry b.nextCall lock effects e after next := by
  unfold retry at ran
  dsimp only at ran
  rw [entry_counted] at ran
  split at ran
  · rename_i asking
    simp only [change,write,Prod.mk.injEq] at ran
    obtain ⟨rfl,rfl⟩ := ran
    refine ⟨_,_,?_,edit_brief (entry_put rfl) rfl numbered.unused rfl (.inl rfl)⟩
    rw [numbered.unused]
    exact .signal asking.1 (by simpa using asking.2)
  · rename_i known
    simp only [write,Prod.mk.injEq] at ran
    obtain ⟨rfl,rfl⟩ := ran
    refine ⟨_,_,?_,edit_brief (entry_put rfl) rfl numbered.unused rfl (.inl rfl)⟩
    rw [numbered.unused]
    exact .stale fun asking => by simpa [asking] using known

theorem begin_does {purpose : Purpose} (numbered : b.Numbered)
    (ran : b.begin purpose lock = (k,next,effects)) :
    ∃ e after, Does b (.begin purpose) k lock effects e after next := by
  cases purpose with
  | acquire => exact acquire_does numbered ran
  | release => exact release_does numbered ran
  | revoke => exact revoke_does numbered ran

theorem answer_does {reply : Except LockFault Reply} (ran : b.answer k reply = some next) :
    ∃ lock e after, Does b (.answer reply) k lock [] e after next := by
  unfold answer at ran
  cases found : b.calls.find? k with
  | none => simp [found] at ran
  | some call =>
      simp only [found,Option.bind_eq_bind,Option.bind_some] at ran
      split at ran
      · rename_i place
        cases Option.some.inj ran
        refine ⟨call.lock,_,_,?_,edit_put (entry_same rfl) rfl rfl (.inl ⟨rfl,by simp [found]⟩)⟩
        rw [found]
        exact .askAnswered place rfl
      · rename_i place
        cases Option.some.inj ran
        refine ⟨call.lock,_,_,?_,edit_put (entry_same rfl) rfl rfl (.inl ⟨rfl,by simp [found]⟩)⟩
        rw [found]
        exact .returnAnswered place rfl
      · cases ran

section advance
variable {call : Call} {outcome : Outcome}

theorem watch_does {place : Place} (found : b.calls.find? k = some call)
    (looks : (call.place = .arriving ∨ call.place = .parked) ∧ place = .looking ∨
      (call.place = .queued ∨ call.place = .dozing) ∧ place = .watching) :
    ∃ e after, Does b .advance k call.lock [] e after (b.watch k call place) := by
  refine ⟨_,_,?_,edit_put (entry_put rfl) rfl rfl (.inl ⟨rfl,by simp [found]⟩)⟩
  rw [found]
  rcases looks with ⟨place,rfl⟩ | ⟨place,rfl⟩
  · exact .watchLock place rfl
  · exact .watchSignal place rfl

theorem look_does (found : b.calls.find? k = some call) (place : call.place = .looking)
    (ran : b.look k call = (effects,next)) :
    ∃ e after, Does b .advance k call.lock effects e after next := by
  unfold look at ran
  dsimp only at ran
  split at ran
  · rename_i free
    simp only [finish,write,Prod.mk.injEq] at ran
    obtain ⟨rfl,rfl⟩ := ran
    refine ⟨_,_,?_,edit_remove rfl rfl rfl rfl⟩
    rw [found]
    exact .hit place rfl free
  · rename_i idle
    simp only [move,write,Prod.mk.injEq] at ran
    obtain ⟨rfl,rfl⟩ := ran
    refine ⟨_,_,?_,edit_put (entry_put rfl) rfl rfl (.inl ⟨rfl,by simp [found]⟩)⟩
    rw [found]
    exact .turnAsking place rfl idle
  · rename_i taken used
    simp only [move,Prod.mk.injEq] at ran
    obtain ⟨rfl,rfl⟩ := ran
    refine ⟨_,_,?_,edit_put (entry_same rfl) rfl rfl (.inl ⟨rfl,by simp [found]⟩)⟩
    rw [found]
    have busy : (b.entry call.lock).state.busy = true := by
      cases state : (b.entry call.lock).state <;> simp_all [LockState.busy]
    exact .park place rfl busy

theorem settleAcquire_does (found : b.calls.find? k = some call) (place : call.place = .settling outcome)
    (ran : b.settleAcquire k call outcome = (effects,next)) :
    ∃ e after, Does b .advance k call.lock effects e after next := by
  unfold settleAcquire at ran
  dsimp only at ran
  split at ran
  · simp only [finish,write,Prod.mk.injEq] at ran
    obtain ⟨rfl,rfl⟩ := ran
    refine ⟨_,_,?_,edit_remove rfl rfl rfl rfl⟩
    rw [found]
    exact .got place rfl
  · simp only [change,finish,write,Prod.mk.injEq] at ran
    obtain ⟨rfl,rfl⟩ := ran
    refine ⟨_,_,?_,edit_remove rfl rfl rfl rfl⟩
    rw [found]
    exact .gaveUp place rfl

theorem settleReturn_does (found : b.calls.find? k = some call) (place : call.place = .closing outcome)
    (ran : b.settleReturn k call outcome = (effects,next)) :
    ∃ e after, Does b .advance k call.lock effects e after next := by
  simp only [settleReturn,change,finish,write,Prod.mk.injEq] at ran
  obtain ⟨rfl,rfl⟩ := ran
  refine ⟨_,_,?_,edit_remove rfl rfl rfl rfl⟩
  rw [found]
  cases outcome with
  | ok => exact .closed place rfl
  | error fault => exact .reopened place rfl

theorem advance_does (ran : b.advance k = some (effects,next)) :
    ∃ lock e after, Does b .advance k lock effects e after next := by
  unfold advance at ran
  cases found : b.calls.find? k with
  | none => simp [found] at ran
  | some call =>
      refine ⟨call.lock,?_⟩
      simp only [found,Option.bind_eq_bind,Option.bind_some] at ran
      cases place : call.place with
      | arriving =>
          simp only [place] at ran
          cases Option.some.inj ran
          exact watch_does found (.inl ⟨.inl place,rfl⟩)
      | looking =>
          simp only [place] at ran
          exact look_does found place (Option.some.inj ran)
      | parked =>
          simp only [place] at ran
          split at ran
          · cases ran
          · cases Option.some.inj ran
            exact watch_does found (.inl ⟨.inr place,rfl⟩)
      | asking =>
          simp only [place] at ran
          cases Option.some.inj ran
          refine ⟨_,_,?_,edit_put (entry_same rfl) rfl rfl (.inl ⟨rfl,by simp [found]⟩)⟩
          rw [found]
          exact .ask place rfl
      | asked => simp [place] at ran
      | queued =>
          simp only [place] at ran
          cases Option.some.inj ran
          exact watch_does found (.inr ⟨.inl place,rfl⟩)
      | watching =>
          simp only [place] at ran
          split at ran
          · rename_i set
            cases Option.some.inj ran
            refine ⟨_,_,?_,edit_put (entry_put rfl) rfl rfl (.inl ⟨rfl,by simp [found]⟩)⟩
            rw [found]
            exact .heed place rfl set
          · rename_i unset
            cases Option.some.inj ran
            refine ⟨_,_,?_,edit_put (entry_same rfl) rfl rfl (.inl ⟨rfl,by simp [found]⟩)⟩
            rw [found]
            exact .doze place rfl (by simpa using unset)
      | dozing =>
          simp only [place] at ran
          split at ran
          · cases ran
          · cases Option.some.inj ran
            exact watch_does found (.inr ⟨.inr place,rfl⟩)
      | settling outcome =>
          simp only [place] at ran
          exact settleAcquire_does found place (Option.some.inj ran)
      | returning =>
          simp only [place] at ran
          cases Option.some.inj ran
          refine ⟨_,_,?_,edit_put (entry_same rfl) rfl rfl (.inl ⟨rfl,by simp [found]⟩)⟩
          rw [found]
          exact .send place rfl _ (by cases b.hooked <;> simp)
      | returned => simp [place] at ran
      | closing outcome =>
          simp only [place] at ran
          exact settleReturn_does found place (Option.some.inj ran)

end advance
end LockLender.Borrower
