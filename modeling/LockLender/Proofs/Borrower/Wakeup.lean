import LockLender.Proofs.Borrower.Life

namespace LockLender

theorem LockState.busy_iff {s : LockState} : s.busy = true ↔ s = .held ∨ s = .acquiring ∨ s = .releasing := by
  cases s <;> simp [busy]

namespace Borrower

variable {id : ClientId} {threshold : Nat} {hooked : Bool} {past : List Deed} {b next : Borrower} {input : Input}
  {k : Nat} {lock : LockId} {effects : List Effect} {e : Entry} {after : Option Call} {now : Deed}

def Asleep (b : Borrower) (k : Nat) : Prop :=
  ∃ call, b.calls.find? k = some call ∧ (call.place = .parked ∨ call.place = .dozing) ∧
    k ∈ (b.entry call.lock).watchers

def still (b : Borrower) : Bool := b.calls.all fun (k,_) => (b.advance k).isNone

theorem still_iff : b.still = true ↔ ∀ k, b.advance k = none := by
  unfold still
  rw [List.all_eq_true]
  constructor
  · intro stuck k
    cases found : b.calls.find? k with
    | none => simp [advance,found]
    | some call => simpa using stuck _ (Table.mem_of_find? found)
  · rintro stuck ⟨k,call⟩ _
    simp [stuck k]

theorem Asleep.stuck (asleep : b.Asleep k) : b.advance k = none := by
  obtain ⟨call,found,place,registered⟩ := asleep
  exact (advance_eq_none found).mpr (.inl ⟨place,registered⟩)

theorem Does.wakes (done : Does b input k lock effects e after next) {j : Nat} (differ : j ≠ k)
    (registered : j ∈ (b.entry lock).watchers) :
    j ∈ e.watchers ∨ .wake (b.entry lock).watchers ∈ effects := by
  have act := done.act
  generalize b.calls.find? k = before at act
  cases act with
  | watchLock | watchSignal => exact .inl (List.mem_append_left _ registered)
  | hit | turnAsking | heed => exact .inl ((List.mem_erase_of_ne differ).mpr registered)
  | keep | signal | gaveUp | closed | reopened => exact .inr List.mem_cons_self
  | _ => exact .inl registered

theorem Asleep.other {prompt : Prompt} (asleep : b.Asleep k) (ran : b.prompted prompt = some (next,effects))
    {j : Nat} (done : Does b prompt.input j lock effects e after next) (names : prompt.Names j lock) : k ≠ j := by
  rintro rfl
  have stuck := asleep.stuck
  obtain ⟨call,found,place,_⟩ := asleep
  have act := done.act
  rw [found] at act
  cases prompt with
  | begin | retry => cases act
  | advance =>
      cases names
      simp [prompted,stuck] at ran
  | answer =>
      cases act with
      | askAnswered away | returnAnswered away => simp [away] at place

theorem Life.awake (life : Life id threshold hooked past b) : b.Awake := by
  induction life with
  | start begins =>
      cases begins
      exact new_awake id threshold hooked
  | step life _ ran ih =>
      obtain ⟨_,_,_,_,does,_⟩ := prompted_does (Life.sound life).numbered ran
      exact does.awake ih

theorem Life.woken (life : Life id threshold hooked past b) (member : now ∈ past) (asleep : now.before.Asleep k) :
    now.after.Asleep k ∨ ∃ calls, .wake calls ∈ now.effects ∧ k ∈ calls := by
  obtain ⟨_,earlier,_,ran⟩ := life.of_mem member
  obtain ⟨j,lock,e,after,does,names⟩ := prompted_does (Life.sound earlier).numbered ran
  have differ := asleep.other ran does names
  obtain ⟨call,found,place,registered⟩ := asleep
  have kept : now.after.calls.find? k = some call := (does.edit.calls k differ).trans found
  by_cases own : call.lock = lock
  · subst own
    rcases does.wakes differ registered with there | woken
    · exact .inl ⟨call,kept,place,by rwa [does.edit.entry]⟩
    · exact .inr ⟨_,woken,registered⟩
  · exact .inl ⟨call,kept,place,by rwa [does.edit.entries _ own]⟩

theorem Life.busy_of_caller (life : Life id threshold hooked past b) (stuck : ∀ k, b.advance k = none)
    (waits : (b.callers lock).Nonempty) : (b.entry lock).state.busy = true := by
  obtain ⟨k,caller⟩ := waits
  obtain ⟨call,found,rfl,purpose⟩ := (mem_callers life.sound.numbered).mp caller
  have engaged {s : LockState} (duty : call.place.duty = some s) : (b.entry call.lock).state = s :=
    life.sound.fits call.lock k s (crew_eq_some.mpr ⟨call,found,rfl,duty⟩)
  rcases (advance_eq_none found).mp (stuck k) with ⟨parked | dozing,registered⟩ | asked | returned
  · exact life.awake.parked k call found parked registered
  · rw [engaged (by rw [dozing]; rfl)]
    rfl
  · rw [engaged (by rw [asked]; rfl)]
    rfl
  · rw [engaged (by rw [returned]; rfl)]
    rfl

-- A call that sleeps is woken by a change to its lock and by nothing else, and
-- when no call can go on, those that sleep have nothing to take and nothing to
-- ask for.
theorem Life.no_lost_wakeup (life : Life id threshold hooked past b) :
    (∀ now ∈ past, ∀ k, now.before.Asleep k →
      now.after.Asleep k ∨ ∃ calls, .wake calls ∈ now.effects ∧ k ∈ calls) ∧
    ((∀ k, b.advance k = none) →
      (∀ k call, b.calls.find? k = some call →
        (call.place = .parked → (b.entry call.lock).state = .held ∨ (b.entry call.lock).state = .acquiring ∨
          (b.entry call.lock).state = .releasing) ∧
        (call.place = .dozing → (b.entry call.lock).signal = false)) ∧
      ∀ lock, (b.callers lock).Nonempty → (b.entry lock).state ≠ .idle ∧ (b.entry lock).state ≠ .cachedFree) := by
  refine ⟨fun now member k => life.woken member,fun stuck => ⟨fun k call found => ?_,fun lock waits => ?_⟩⟩
  · have sleeps := (advance_eq_none found).mp (stuck k)
    constructor
    · intro parked
      simp only [parked,reduceCtorEq,or_false,true_and] at sleeps
      exact LockState.busy_iff.mp (life.awake.parked k call found parked sleeps)
    · intro dozing
      simp only [dozing,reduceCtorEq,or_false,or_true,true_and] at sleeps
      exact life.awake.dozing k call found dozing sleeps
  · have busy := life.busy_of_caller stuck waits
    constructor <;> intro rest <;> simp [rest,LockState.busy] at busy

def naps : List Prompt :=
  [.begin .acquire jar,.begin .acquire jar,.advance 0,.advance 0,.advance 0,.advance 1,.advance 1,
    .answer 0 (.error (.malformed "cut")),.advance 0,.begin .acquire jar,.advance 1,.advance 1,.advance 1,
    .answer 1 (.ok .retry),.advance 1,.advance 1,.advance 2,.advance 2]

theorem no_lost_wakeup_napping :
    ((∀ k, (led naps).2.advance k = none) ∧ ((led naps).2.callers jar).Nonempty) ∧
    (∀ now ∈ (led naps).1, ∀ k, now.before.Asleep k →
      now.after.Asleep k ∨ ∃ calls, .wake calls ∈ now.effects ∧ k ∈ calls) ∧
    (∀ k call, (led naps).2.calls.find? k = some call →
      (call.place = .parked → ((led naps).2.entry call.lock).state = .held ∨
        ((led naps).2.entry call.lock).state = .acquiring ∨ ((led naps).2.entry call.lock).state = .releasing) ∧
      (call.place = .dozing → ((led naps).2.entry call.lock).signal = false)) ∧
    ∀ lock, ((led naps).2.callers lock).Nonempty →
      ((led naps).2.entry lock).state ≠ .idle ∧ ((led naps).2.entry lock).state ≠ .cachedFree := by
  have stuck : ∀ k, (led naps).2.advance k = none := still_iff.mp (by decide)
  have waits : ((led naps).2.callers jar).Nonempty := ⟨2,by decide⟩
  exact ⟨⟨stuck,waits⟩,((led_life naps).no_lost_wakeup).1,((led_life naps).no_lost_wakeup).2 stuck⟩

end Borrower
end LockLender
