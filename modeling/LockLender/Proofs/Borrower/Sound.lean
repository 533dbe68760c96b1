import LockLender.Proofs.Borrower.Act

namespace LockLender

def LockState.engaged : LockState → Bool
  | .acquiring | .releasing => true
  | .idle | .cachedFree | .held => false

namespace Borrower

-- The state in which a call at this place needs its lock to be.
def Place.duty : Place → Option LockState
  | .arriving | .looking | .parked => none
  | .asking | .asked | .queued | .watching | .dozing | .settling _ => some .acquiring
  | .returning | .returned | .closing _ => some .releasing

@[simp] theorem duty_afterAsk (reply : Except LockFault Reply) : (afterAsk reply).duty = some .acquiring := by
  cases reply with
  | error => rfl
  | ok reply => cases reply <;> rfl

@[simp] theorem duty_afterReturn (reply : Except LockFault Reply) :
    (afterReturn reply).duty = some .releasing := by
  cases reply with
  | error => rfl
  | ok reply => cases reply <;> rfl

def crew {α : Type} (b : Borrower) (view : Nat → Call → Option α) (lock : LockId) (k : Nat) : Option α :=
  (b.calls.find? k).bind fun call => if call.lock = lock then view k call else none

def duty (b : Borrower) : LockId → Nat → Option LockState := b.crew fun _ call => call.place.duty

variable {α : Type} {b next : Borrower} {input : Input} {k : Nat} {lock : LockId} {effects : List Effect}
  {e : Entry} {after : Option Call}

theorem crew_eq_some {view : Nat → Call → Option α} {a : α} :
    b.crew view lock k = some a ↔
      ∃ call, b.calls.find? k = some call ∧ call.lock = lock ∧ view k call = some a := by
  unfold crew
  cases found : b.calls.find? k with
  | none => simp
  | some call =>
      by_cases own : call.lock = lock <;> simp [own]

theorem Act.own_before {threshold : Nat} {before e : Entry} {call : Call}
    (act : Act threshold k lock input before (some call) effects e after) : call.lock = lock := by
  cases act <;> assumption

theorem Act.own_after {threshold : Nat} {before e : Entry} {call? : Option Call} {call : Call}
    (act : Act threshold k lock input before call? effects e (some call)) : call.lock = lock := by
  cases act <;> first | rfl | assumption

namespace Does

theorem crew_absent (done : Does b input k lock effects e after next) {other : LockId} (differ : other ≠ lock)
    (view : Nat → Call → Option α) : b.crew view other k = none ∧ next.crew view other k = none := by
  have absent (c : Borrower) (own : ∀ call, c.calls.find? k = some call → call.lock = lock) :
      c.crew view other k = none := by
    cases seen : c.crew view other k with
    | none => rfl
    | some a =>
        obtain ⟨call,found,there,_⟩ := crew_eq_some.mp seen
        exact absurd (there.symm.trans (own call found)) differ
  have act := done.act
  refine ⟨absent b fun call found => ?_,absent next fun call found => ?_⟩
  · rw [found] at act
    exact act.own_before
  · rw [done.edit.call] at found
    rw [found] at act
    exact act.own_after

theorem crew_other (done : Does b input k lock effects e after next) (view : Nat → Call → Option α)
    {other : LockId} (differ : other ≠ lock) (j : Nat) : next.crew view other j = b.crew view other j := by
  by_cases same : j = k
  · rw [same,(done.crew_absent differ view).1,(done.crew_absent differ view).2]
  · simp only [crew,done.edit.calls j same]

theorem crew_rest (done : Does b input k lock effects e after next) (view : Nat → Call → Option α)
    {j : Nat} (differ : j ≠ k) : next.crew view lock j = b.crew view lock j := by
  simp only [crew,done.edit.calls j differ]

theorem crew_before (done : Does b input k lock effects e after next) (view : Nat → Call → Option α) :
    b.crew view lock k = (b.calls.find? k).bind (view k) := by
  have act := done.act
  unfold crew
  cases found : b.calls.find? k with
  | none => rfl
  | some call =>
      rw [found] at act
      simp [act.own_before]

theorem crew_after (done : Does b input k lock effects e after next) (view : Nat → Call → Option α) :
    next.crew view lock k = after.bind (view k) := by
  have act := done.act
  unfold crew
  rw [done.edit.call]
  cases after with
  | none => rfl
  | some call => simp [act.own_after]

end Does

structure Sound (b : Borrower) : Prop where
  numbered : b.Numbered
  patient : 1 ≤ b.threshold
  purposed : ∀ k call, b.calls.find? k = some call →
    (call.purpose = .acquire ↔ call.place.duty ≠ some .releasing)
  fits : ∀ lock k s, b.duty lock k = some s → (b.entry lock).state = s
  sole : ∀ lock j k, b.duty lock j ≠ none → b.duty lock k ≠ none → j = k
  manned : ∀ lock, (b.entry lock).state.engaged = true → ∃ k, b.duty lock k = some (b.entry lock).state

theorem Does.at_work (done : Does b input k lock effects e after next) (sound : b.Sound) :
    ∀ call, b.calls.find? k = some call → ∀ s, call.place.duty = some s → (b.entry lock).state = s := by
  intro call found s duty
  apply sound.fits lock k s
  rw [Borrower.duty,done.crew_before,found]
  exact duty

def Shift (s : LockState) (d : Option LockState) (s' : LockState) (d' : Option LockState) : Prop :=
  s' = s ∧ d' = d ∨
    s.engaged = false ∧ d = none ∧ (d' = some s' ∨ d' = none ∧ s'.engaged = false) ∨
    d = some s ∧ d' = none ∧ s'.engaged = false

theorem Does.shift (done : Does b input k lock effects e after next) (sound : b.Sound) :
    Shift (b.entry lock).state (b.duty lock k) e.state (next.duty lock k) := by
  have state := done.at_work sound
  unfold duty
  rw [done.crew_before,done.crew_after]
  have act := done.act
  generalize b.calls.find? k = before at act state ⊢
  cases act with
  | acquire | misplaced | recalled | remember | stale => exact .inl ⟨rfl,rfl⟩
  | signal => exact .inl ⟨rfl,rfl⟩
  | giveBack held => exact .inr (.inl ⟨by rw [held]; rfl,rfl,.inl rfl⟩)
  | surrender free => exact .inr (.inl ⟨by rw [free]; rfl,rfl,.inl rfl⟩)
  | keep held => exact .inr (.inl ⟨by rw [held]; rfl,rfl,.inr ⟨rfl,rfl⟩⟩)
  | watchLock place => exact .inl ⟨rfl,by rcases place with place | place <;> simp [place,Place.duty]⟩
  | hit place _ free =>
      exact .inr (.inl ⟨by rw [free]; rfl,by simp [place,Place.duty],.inr ⟨rfl,rfl⟩⟩)
  | turnAsking place _ idle =>
      exact .inr (.inl ⟨by rw [idle]; rfl,by simp [place,Place.duty],.inl rfl⟩)
  | park place => exact .inl ⟨rfl,by simp [place,Place.duty]⟩
  | ask place => exact .inl ⟨rfl,by simp [place,Place.duty]⟩
  | watchSignal place => exact .inl ⟨rfl,by rcases place with place | place <;> simp [place,Place.duty]⟩
  | heed place => exact .inl ⟨rfl,by simp [place,Place.duty]⟩
  | doze place => exact .inl ⟨rfl,by simp [place,Place.duty]⟩
  | send place => exact .inl ⟨rfl,by simp [place,Place.duty]⟩
  | got place | gaveUp place | closed place | reopened place =>
      have state := state _ rfl _ (by rw [place]; rfl)
      exact .inr (.inr ⟨by simp only [Option.bind_some,place]; rw [state]; rfl,rfl,rfl⟩)
  | askAnswered place => exact .inl ⟨rfl,by simp only [Option.bind_some,place,duty_afterAsk]; rfl⟩
  | returnAnswered place => exact .inl ⟨rfl,by simp only [Option.bind_some,place,duty_afterReturn]; rfl⟩

theorem Does.purposed (done : Does b input k lock effects e after next) (sound : b.Sound) {call : Call}
    (present : after = some call) : call.purpose = .acquire ↔ call.place.duty ≠ some .releasing := by
  have before := sound.purposed k
  have act := done.act
  subst present
  generalize b.calls.find? k = was at act before
  cases act with
  | acquire | giveBack | surrender => simp [Place.duty]
  | watchLock place | watchSignal place =>
      rcases place with place | place <;> simpa [place,Place.duty] using before _ rfl
  | turnAsking place | park place | ask place | heed place | doze place | send place =>
      simpa [place,Place.duty] using before _ rfl
  | askAnswered place | returnAnswered place =>
      have purpose := before _ rfl
      rw [place] at purpose
      simpa [show Place.asked.duty = some .acquiring from rfl,
        show Place.returned.duty = some .releasing from rfl] using purpose

theorem Does.numbered (done : Does b input k lock effects e after next) (numbered : b.Numbered) :
    next.Numbered := by
  intro j call found
  by_cases same : j = k
  · subst same
    rw [done.edit.call] at found
    rcases done.edit.number with ⟨equal,gone | there⟩ | ⟨new,equal⟩
    · rw [gone] at found
      cases found
    · obtain ⟨old,was⟩ := Option.ne_none_iff_exists'.mp there
      have bound := numbered _ _ was
      omega
    · omega
  · rw [done.edit.calls j same] at found
    have bound := numbered _ _ found
    rcases done.edit.number with ⟨equal,_⟩ | ⟨_,equal⟩ <;> omega

theorem duty_engaged {s : LockState} (seen : b.duty lock k = some s) : s.engaged = true := by
  obtain ⟨call,_,_,duty⟩ := crew_eq_some.mp seen
  cases place : call.place <;> simp only [place,Place.duty,reduceCtorEq,Option.some.injEq] at duty <;>
    rw [← duty] <;> rfl

theorem Sound.unmanned (sound : b.Sound) (rest : (b.entry lock).state.engaged = false) :
    b.duty lock k = none := by
  cases seen : b.duty lock k with
  | none => rfl
  | some s =>
      have engaged := duty_engaged seen
      rw [sound.fits _ _ _ seen] at rest
      simp [rest] at engaged

theorem Does.duty_other (done : Does b input k lock effects e after next) {other : LockId}
    (differ : other ≠ lock) (j : Nat) : next.duty other j = b.duty other j := done.crew_other _ differ j

theorem Does.duty_rest (done : Does b input k lock effects e after next) {j : Nat} (differ : j ≠ k) :
    next.duty lock j = b.duty lock j := done.crew_rest _ differ

theorem Does.fits (done : Does b input k lock effects e after next) (sound : b.Sound) {j : Nat} {s : LockState}
    (seen : next.duty lock j = some s) : e.state = s := by
  have shift := done.shift sound
  by_cases same : j = k
  · subst same
    rcases shift with ⟨state,duty⟩ | ⟨_,_,duty | ⟨duty,_⟩⟩ | ⟨_,duty,_⟩
    · rw [state]
      exact sound.fits _ _ _ (duty ▸ seen)
    · rw [duty] at seen
      exact Option.some.inj seen
    all_goals rw [duty] at seen; cases seen
  · have old : b.duty lock j = some s := (done.duty_rest same).symm.trans seen
    rcases shift with ⟨state,_⟩ | ⟨rest,_⟩ | ⟨duty,_⟩
    · rw [state]
      exact sound.fits _ _ _ old
    · rw [sound.unmanned rest] at old
      cases old
    · exact absurd (sound.sole lock j k (by simp [old]) (by simp [duty])) same

theorem Does.sole (done : Does b input k lock effects e after next) (sound : b.Sound) {j : Nat}
    (one : next.duty lock j ≠ none) (two : next.duty lock k ≠ none) : j = k := by
  refine Classical.byContradiction fun differ => ?_
  have old : b.duty lock j ≠ none := fun none => one ((done.duty_rest differ).trans none)
  rcases done.shift sound with ⟨_,duty⟩ | ⟨rest,_⟩ | ⟨_,duty,_⟩
  · exact differ (sound.sole lock j k old (duty ▸ two))
  · exact old (sound.unmanned rest)
  · exact two duty

theorem Does.manned (done : Does b input k lock effects e after next) (sound : b.Sound)
    (engaged : e.state.engaged = true) : ∃ j, next.duty lock j = some e.state := by
  rcases done.shift sound with ⟨state,duty⟩ | ⟨_,_,duty | ⟨_,rest⟩⟩ | ⟨_,_,rest⟩
  · rw [state] at engaged ⊢
    obtain ⟨j,seen⟩ := sound.manned lock engaged
    refine ⟨j,?_⟩
    by_cases same : j = k
    · subst same
      exact duty.trans seen
    · exact (done.duty_rest same).trans seen
  · exact ⟨k,duty⟩
  all_goals simp [rest] at engaged

theorem Does.sound (done : Does b input k lock effects e after next) (sound : b.Sound) : next.Sound := by
  refine ⟨done.numbered sound.numbered,done.edit.threshold ▸ sound.patient,?_,?_,?_,?_⟩
  · intro j call found
    by_cases same : j = k
    · subst same
      exact done.purposed sound (done.edit.call.symm.trans found)
    · exact sound.purposed j call ((done.edit.calls j same).symm.trans found)
  · intro other j s seen
    by_cases here : other = lock
    · subst here
      rw [done.edit.entry]
      exact done.fits sound seen
    · rw [done.edit.entries other here]
      exact sound.fits _ _ _ ((done.duty_other here j).symm.trans seen)
  · intro other i j one two
    by_cases here : other = lock
    · subst here
      by_cases same : j = k
      · subst same
        exact done.sole sound one two
      · by_cases same' : i = k
        · subst same'
          exact (done.sole sound two one).symm
        · exact sound.sole other i j (done.duty_rest same' ▸ one) (done.duty_rest same ▸ two)
    · exact sound.sole other i j (done.duty_other here i ▸ one) (done.duty_other here j ▸ two)
  · intro other engaged
    by_cases here : other = lock
    · subst here
      rw [done.edit.entry] at engaged ⊢
      exact done.manned sound engaged
    · rw [done.edit.entries other here] at engaged ⊢
      obtain ⟨j,seen⟩ := sound.manned other engaged
      exact ⟨j,(done.duty_other here j).trans seen⟩

theorem new_sound (id : ClientId) (threshold : Nat) (hooked : Bool) : (new id threshold hooked).Sound := by
  have none (lock : LockId) (k : Nat) : (new id threshold hooked).duty lock k = none := rfl
  refine ⟨?_,Nat.le_max_right _ _,?_,?_,?_,?_⟩
  · intro k call found
    cases found
  · intro k call found
    cases found
  · intro lock k s seen
    rw [none] at seen
    cases seen
  · intro lock j k one
    exact absurd (none _ _) one
  · intro lock engaged
    cases engaged

end Borrower
end LockLender
