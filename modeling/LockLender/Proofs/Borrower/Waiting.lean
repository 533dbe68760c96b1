import Mathlib.Data.Finset.Card
import LockLender.Proofs.Borrower.Sound

namespace LockLender.Borrower

def acquires (b : Borrower) : LockId → Nat → Option Unit :=
  b.crew fun _ call => if call.purpose = .acquire then some () else none

def callers (b : Borrower) (lock : LockId) : Finset Nat :=
  (Finset.range b.nextCall).filter fun k => (b.acquires lock k).isSome

def Counted (b : Borrower) : Prop := ∀ lock, (b.entry lock).waiting = (b.callers lock).card

-- A call that is registered for the next change may sleep only while there is
-- nothing for it to do.
structure Awake (b : Borrower) : Prop where
  parked : ∀ k call, b.calls.find? k = some call → call.place = .parked →
    k ∈ (b.entry call.lock).watchers → (b.entry call.lock).state.busy = true
  dozing : ∀ k call, b.calls.find? k = some call → call.place = .dozing →
    k ∈ (b.entry call.lock).watchers → (b.entry call.lock).signal = false

variable {b next : Borrower} {input : Input} {k : Nat} {lock : LockId} {effects : List Effect}
  {e : Entry} {after : Option Call}

theorem mem_callers (numbered : b.Numbered) : k ∈ b.callers lock ↔
    ∃ call, b.calls.find? k = some call ∧ call.lock = lock ∧ call.purpose = .acquire := by
  rw [callers,Finset.mem_filter,Finset.mem_range]
  simp only [Option.isSome_iff_exists,acquires,crew_eq_some]
  constructor
  · rintro ⟨_,_,call,found,own,seen⟩
    refine ⟨call,found,own,?_⟩
    by_contra other
    simp [other] at seen
  · rintro ⟨call,found,own,purpose⟩
    exact ⟨numbered _ _ found,(),call,found,own,by simp [purpose]⟩

def seeks (call : Option Call) : Bool := call.any (·.purpose == .acquire)

theorem Does.waiting (done : Does b input k lock effects e after next) (sound : b.Sound) :
    seeks (b.calls.find? k) = seeks after ∧ e.waiting = (b.entry lock).waiting ∨
    seeks (b.calls.find? k) = false ∧ seeks after = true ∧ e.waiting = (b.entry lock).waiting + 1 ∨
    seeks (b.calls.find? k) = true ∧ seeks after = false ∧ e.waiting = (b.entry lock).waiting - 1 := by
  have purposed := sound.purposed k
  have act := done.act
  generalize b.calls.find? k = before at act purposed ⊢
  cases act with
  | acquire => exact .inr (.inl ⟨rfl,rfl,rfl⟩)
  | hit place | got place | gaveUp place =>
      have purpose := purposed _ rfl
      rw [place] at purpose
      exact .inr (.inr ⟨by simpa [seeks,Place.duty] using purpose,rfl,rfl⟩)
  | closed place | reopened place =>
      have purpose := purposed _ rfl
      rw [place] at purpose
      exact .inl ⟨by simpa [seeks,Place.duty] using purpose,rfl⟩
  | _ => exact .inl ⟨rfl,rfl⟩

theorem Does.mem_callers_rest (done : Does b input k lock effects e after next) (sound : b.Sound)
    {other : LockId} {j : Nat} (apart : other ≠ lock ∨ j ≠ k) :
    j ∈ next.callers other ↔ j ∈ b.callers other := by
  have same : next.acquires other j = b.acquires other j := by
    by_cases here : other = lock
    · subst here
      exact done.crew_rest _ (apart.resolve_left (by simp))
    · exact done.crew_other _ here j
  have bounded (c : Borrower) (numbered : c.Numbered) : j ∈ c.callers other ↔ (c.acquires other j).isSome := by
    simp only [callers,Finset.mem_filter,Finset.mem_range,and_iff_right_iff_imp]
    intro seen
    obtain ⟨_,seen⟩ := Option.isSome_iff_exists.mp seen
    obtain ⟨call,found,_⟩ := crew_eq_some.mp seen
    exact numbered _ _ found
  rw [bounded next (done.numbered sound.numbered),bounded b sound.numbered,same]

theorem Does.mem_callers_before (done : Does b input k lock effects e after next) (sound : b.Sound) :
    k ∈ b.callers lock ↔ seeks (b.calls.find? k) = true := by
  have act := done.act
  rw [mem_callers sound.numbered]
  cases found : b.calls.find? k with
  | none => simp [seeks]
  | some call =>
      rw [found] at act
      simp [seeks,act.own_before]

theorem Does.mem_callers_after (done : Does b input k lock effects e after next) (sound : b.Sound) :
    k ∈ next.callers lock ↔ seeks after = true := by
  have act := done.act
  rw [mem_callers (done.numbered sound.numbered),done.edit.call]
  cases after with
  | none => simp [seeks]
  | some call => simp [seeks,act.own_after]

theorem Does.counted (done : Does b input k lock effects e after next) (sound : b.Sound)
    (counted : b.Counted) : next.Counted := by
  intro other
  by_cases here : other = lock
  · subst here
    rw [done.edit.entry]
    have before := done.mem_callers_before sound
    have later := done.mem_callers_after sound
    have rest {j : Nat} (differ : j ≠ k) : j ∈ next.callers other ↔ j ∈ b.callers other :=
      done.mem_callers_rest sound (.inr differ)
    rcases done.waiting sound with ⟨seeking,waiting⟩ | ⟨was,is,waiting⟩ | ⟨was,is,waiting⟩
    · have same : next.callers other = b.callers other := by
        ext j
        by_cases acting : j = k
        · rw [acting,later,before,seeking]
        · exact rest acting
      rw [waiting,same,counted other]
    · have added : next.callers other = insert k (b.callers other) := by
        ext j
        by_cases acting : j = k
        · simp [acting,later,is]
        · simp [acting,rest acting]
      rw [waiting,added,Finset.card_insert_of_notMem (by simp [before,was]),counted other]
    · have dropped : next.callers other = (b.callers other).erase k := by
        ext j
        by_cases acting : j = k
        · simp [acting,later,is]
        · simp [acting,rest acting]
      rw [waiting,dropped,Finset.card_erase_of_mem (before.mpr was),counted other]
  · have same : next.callers other = b.callers other := by
      ext j
      exact done.mem_callers_rest sound (.inl here)
    rw [done.edit.entries other here,same]
    exact counted other

theorem Does.registered (done : Does b input k lock effects e after next) {j : Nat} (differ : j ≠ k)
    (member : j ∈ e.watchers) : j ∈ (b.entry lock).watchers ∧
      ((b.entry lock).state.busy = true → e.state.busy = true) ∧
      ((b.entry lock).signal = false → e.signal = false) := by
  have act := done.act
  generalize b.calls.find? k = before at act
  cases act with
  | watchLock | watchSignal => exact ⟨by simpa [differ] using member,fun busy => busy,fun unset => unset⟩
  | heed => exact ⟨List.mem_of_mem_erase member,fun busy => busy,fun unset => unset⟩
  | hit => exact ⟨List.mem_of_mem_erase member,fun _ => rfl,fun unset => unset⟩
  | turnAsking => exact ⟨List.mem_of_mem_erase member,fun _ => rfl,fun _ => rfl⟩
  | giveBack | surrender | got => exact ⟨member,fun _ => rfl,fun unset => unset⟩
  | keep | signal | gaveUp | closed | reopened => cases member
  | _ => exact ⟨member,fun busy => busy,fun unset => unset⟩

theorem Does.asleep (done : Does b input k lock effects e after next) {call : Call} (present : after = some call) :
    (call.place = .parked → e.state.busy = true) ∧ (call.place = .dozing → e.signal = false) := by
  have act := done.act
  subst present
  generalize b.calls.find? k = before at act
  cases act with
  | park _ _ busy => exact ⟨fun _ => busy,nofun⟩
  | doze _ _ unset => exact ⟨nofun,fun _ => unset⟩
  | @askAnswered reply _ =>
      cases reply with
      | error => exact ⟨nofun,nofun⟩
      | ok reply => cases reply <;> exact ⟨nofun,nofun⟩
  | @returnAnswered reply _ =>
      cases reply with
      | error => exact ⟨nofun,nofun⟩
      | ok reply => cases reply <;> exact ⟨nofun,nofun⟩
  | _ => exact ⟨nofun,nofun⟩

theorem Does.still (done : Does b input k lock effects e after next) (place : Place) (still : Entry → Prop)
    (others : ∀ j, j ≠ k → j ∈ e.watchers → j ∈ (b.entry lock).watchers ∧ (still (b.entry lock) → still e))
    (own : ∀ call, after = some call → call.place = place → still e)
    (before : ∀ j call, b.calls.find? j = some call → call.place = place →
      j ∈ (b.entry call.lock).watchers → still (b.entry call.lock)) :
    ∀ j call, next.calls.find? j = some call → call.place = place →
      j ∈ (next.entry call.lock).watchers → still (next.entry call.lock) := by
  intro j call found there member
  by_cases here : call.lock = lock
  · subst here
    rw [done.edit.entry] at member ⊢
    by_cases same : j = k
    · subst same
      exact own call (done.edit.call.symm.trans found) there
    · rw [done.edit.calls j same] at found
      obtain ⟨registered,kept⟩ := others j same member
      exact kept (before j call found there registered)
  · have differ : j ≠ k := by
      rintro rfl
      have act := done.act
      rw [done.edit.call] at found
      rw [found] at act
      exact here act.own_after
    rw [done.edit.calls j differ] at found
    rw [done.edit.entries _ here] at member ⊢
    exact before j call found there member

theorem Does.awake (done : Does b input k lock effects e after next) (awake : b.Awake) : next.Awake := by
  constructor
  · refine done.still .parked (fun e => e.state.busy = true) ?_ ?_ awake.parked
    · intro j differ member
      have kept := done.registered differ member
      exact ⟨kept.1,kept.2.1⟩
    · intro call present
      exact (done.asleep present).1
  · refine done.still .dozing (fun e => e.signal = false) ?_ ?_ awake.dozing
    · intro j differ member
      have kept := done.registered differ member
      exact ⟨kept.1,kept.2.2⟩
    · intro call present
      exact (done.asleep present).2

theorem advance_eq_none {call : Call} (found : b.calls.find? k = some call) : b.advance k = none ↔
    (call.place = .parked ∨ call.place = .dozing) ∧ k ∈ (b.entry call.lock).watchers ∨
      call.place = .asked ∨ call.place = .returned := by
  unfold advance
  simp only [found,Option.bind_eq_bind,Option.bind_some,Option.pure_def]
  cases place : call.place with
  | parked | dozing => simp
  | watching =>
      simp only [reduceCtorEq,or_self,false_and,iff_false]
      split <;> exact Option.some_ne_none _
  | _ => simp

theorem new_counted (id : ClientId) (threshold : Nat) (hooked : Bool) : (new id threshold hooked).Counted := by
  intro lock
  rfl

theorem new_awake (id : ClientId) (threshold : Nat) (hooked : Bool) : (new id threshold hooked).Awake :=
  ⟨nofun,nofun⟩

end LockLender.Borrower
