import LockLender.Gate
import LockLender.Proofs.Machine
import LockLender.Proofs.Table
import Mathlib.Data.FinEnum
import Mathlib.Data.Set.Card

namespace LockLender.Gate

inductive Move where
  | enter (client : ClientId) (lock : LockId)
  | advance (k : Nat)
  -- By anyone, whoever holds the lock.
  | release (client : ClientId) (lock : LockId)

def step (gate : Gate) : Move → Option (Gate × Option UInt64)
  | .enter client lock => some ((gate.enter client lock).2,none)
  | .advance k => (gate.advance k).map Prod.swap
  | .release _ lock => some ((gate.release lock).2,some (gate.release lock).2.stat)

-- What becomes of the caller and of the slot of its lock. A release that wakes
-- nobody has a number for its caller that nobody has.
inductive Act (k : Nat) (lock : LockId) :
    Move → Option Caller → Slot → Option UInt64 → Option Caller → Slot → Prop where
  | enter (client : ClientId) : Act k lock (.enter client lock) none s none (some ⟨client,lock,.looking⟩) s
  | take (place : c.place = .looking) (own : c.lock = lock) (free : s.held = false) (n : UInt64) :
      Act k lock (.advance k) (some c) s (some n) none { s with held := true }
  | turnAway (place : c.place = .looking) (own : c.lock = lock) (held : s.held = true) :
      Act k lock (.advance k) (some c) s none (some { c with place := .turnedAway }) s
  | heed (place : c.place = .turnedAway) (own : c.lock = lock) (permit : s.permit = true) :
      Act k lock (.advance k) (some c) s none (some { c with place := .looking }) { s with permit := false }
  | sleep (place : c.place = .turnedAway) (own : c.lock = lock) (unpermitted : s.permit = false) :
      Act k lock (.advance k) (some c) s none (some { c with place := .asleep }) { s with asleep := s.asleep ++ [k] }
  | ignore (client : ClientId) (free : s.held = false) (n : UInt64) :
      Act k lock (.release client lock) none s (some n) none s
  | leave (client : ClientId) (held : s.held = true) (nobody : s.asleep = []) (n : UInt64) :
      Act k lock (.release client lock) none s (some n) none { s with held := false, permit := true }
  | wake (client : ClientId) (held : s.held = true) (first : s.asleep = k :: rest) (place : c.place = .asleep)
      (own : c.lock = lock) (n : UInt64) :
      Act k lock (.release client lock) (some c) s (some n) (some { c with place := .looking })
        { s with held := false, asleep := rest }

structure Does (gate : Gate) (k : Nat) (lock : LockId) (move : Move) (answer : Option UInt64) (next : Gate) :
    Prop where
  act : Act k lock move (gate.callers.find? k) (gate.slot lock) answer (next.callers.find? k) (next.slot lock)
  callers : ∀ j, j ≠ k → next.callers.find? j = gate.callers.find? j
  slots : ∀ other, other ≠ lock → next.slot other = gate.slot other
  count : next.count + (gate.slot lock).held.toNat = gate.count + (next.slot lock).held.toNat
  fresh : next.callers.find? k ≠ none → k < next.nextCaller
  grown : gate.nextCaller ≤ next.nextCaller

def held (gate : Gate) : Set LockId := {lock | gate.isHeld lock = true}

structure Sound (gate : Gate) : Prop where
  below : gate.callers.Below gate.nextCaller
  asleep : ∀ k lock, k ∈ (gate.slot lock).asleep ↔
    ∃ caller, gate.callers.find? k = some caller ∧ caller.place = .asleep ∧ caller.lock = lock
  once : ∀ lock, (gate.slot lock).asleep.Nodup
  counted : gate.count = gate.held.ncard

abbrev Moment := Deed Gate Move (Option UInt64)

abbrev doors : Machine Gate Move (Option UInt64) where
  begins := (· = {})
  step := step

abbrev Run : List Moment → Gate → Prop := doors.Runs

variable {gate next : Gate} {past : List Moment} {now : Moment} {move : Move} {answer : Option UInt64} {k : Nat}
  {lock : LockId} {c : Caller} {s : Slot}

instance : Finite LockId := Finite.of_injective LockId.number fun one two same => by
  cases one
  cases two
  cases same
  rfl

theorem Sound.count_pos (sound : gate.Sound) (held : (gate.slot lock).held = true) : 0 < gate.count := by
  rw [sound.counted]
  exact (Set.ncard_pos (Set.toFinite _)).mpr ⟨lock,held⟩

section
variable {after : Option Caller} (slots : next.slots = gate.slots.put lock s)
  (count : next.count + (gate.slot lock).held.toNat = gate.count + s.held.toNat)
  (number : next.nextCaller = gate.nextCaller)
include slots count number

theorem does_slot (callers : ∀ j, j ≠ k → next.callers.find? j = gate.callers.find? j)
    (act : Act k lock move (gate.callers.find? k) (gate.slot lock) answer (next.callers.find? k) s)
    (fresh : next.callers.find? k ≠ none → k < gate.nextCaller) : gate.Does k lock move answer next := by
  have here : next.slot lock = s := by simp [slot,slots]
  constructor
  · rwa [here]
  · exact callers
  · intro other differ
    simp [slot,slots,Table.find?_put_ne _ _ differ]
  · rw [here,count]
  · rwa [number]
  · rw [number]

theorem does_put (sound : gate.Sound) (found : gate.callers.find? k = some c) {c' : Caller}
    (act : Act k lock move (some c) (gate.slot lock) answer (some c') s)
    (callers : next.callers = gate.callers.put k c') : gate.Does k lock move answer next := by
  apply does_slot slots count number
  · intro j differ
    rw [callers,Table.find?_put_ne _ _ differ]
  · rwa [found,callers,Table.find?_put_self]
  · exact fun _ => sound.below k c found

theorem does_remove (found : gate.callers.find? k = some c)
    (act : Act k lock move (some c) (gate.slot lock) answer none s)
    (callers : next.callers = gate.callers.remove k) : gate.Does k lock move answer next := by
  apply does_slot slots count number
  · intro j differ
    rw [callers,Table.find?_remove_ne _ differ]
  · rwa [found,callers,Table.find?_remove_self]
  · rw [callers,Table.find?_remove_self]
    exact fun there => absurd rfl there

end

theorem enter_does (sound : gate.Sound) (client : ClientId) (lock : LockId) :
    gate.Does gate.nextCaller lock (.enter client lock) none (gate.enter client lock).2 := by
  unfold enter
  constructor
  · rw [sound.below.unused,Table.find?_put_self]
    exact .enter client
  · exact fun j differ => Table.find?_put_ne _ _ differ
  · exact fun _ _ => rfl
  · rfl
  · exact fun _ => Nat.lt_succ_self _
  · exact Nat.le_succ _

theorem advance_does (sound : gate.Sound) (ran : gate.advance k = some (answer,next)) :
    ∃ lock, gate.Does k lock (.advance k) answer next := by
  obtain ⟨c,found,ran⟩ := Option.bind_eq_some_iff.mp ran
  refine ⟨c.lock,?_⟩
  dsimp only at ran
  split at ran
  · rename_i looking
    split at ran
    · rename_i held
      cases ran
      exact does_put rfl rfl rfl sound found (.turnAway looking rfl held) rfl
    · rename_i free
      cases ran
      simp only [Bool.not_eq_true] at free
      exact does_remove rfl (by simp [free]) rfl found (.take looking rfl free _) rfl
  · rename_i away
    split at ran
    · rename_i permit
      cases ran
      exact does_put rfl rfl rfl sound found (.heed away rfl permit) rfl
    · rename_i unpermitted
      cases ran
      exact does_put rfl rfl rfl sound found (.sleep away rfl (by simpa using unpermitted)) rfl
  · cases ran

theorem release_does (sound : gate.Sound) (client : ClientId) (lock : LockId) :
    ∃ k, gate.Does k lock (.release client lock) (some (gate.release lock).2.stat) (gate.release lock).2 := by
  have unused := sound.below.unused
  have ignored (free : (gate.slot lock).held = false) (n : UInt64) :
      gate.Does gate.nextCaller lock (.release client lock) (some n) gate := by
    constructor
    · rw [unused]
      exact .ignore client free n
    · exact fun _ _ => rfl
    · exact fun _ _ => rfl
    · rfl
    · exact fun there => absurd unused there
    · exact Nat.le_refl _
  unfold release
  cases found : gate.slots.find? lock with
  | none => exact ⟨_,ignored (by simp [slot,found]) _⟩
  | some s =>
      have here : gate.slot lock = s := by simp [slot,found]
      dsimp only
      split
      · rename_i free
        exact ⟨_,ignored (by simpa [here] using free) _⟩
      · rename_i held
        have held : s.held = true := by simpa using held
        have positive := sound.count_pos (here ▸ held)
        have count : gate.count - 1 + (gate.slot lock).held.toNat = gate.count + false.toNat := by
          simp only [here,held,Bool.toNat_true,Bool.toNat_false]
          omega
        split
        · rename_i nobody
          refine ⟨gate.nextCaller,does_slot rfl count rfl (fun _ _ => rfl) ?_ ?_⟩
          · rw [here,unused]
            exact .leave client held nobody _
          · exact fun there => absurd unused there
        · rename_i k rest first
          obtain ⟨c,there,asleep,own⟩ := (sound.asleep k lock).mp (by simp [here,first])
          simp only [there]
          refine ⟨k,does_put rfl count rfl sound there ?_ rfl⟩
          rw [here]
          exact .wake client held first asleep own _

theorem step_does (sound : gate.Sound) (ran : gate.step move = some (next,answer)) :
    ∃ k lock, gate.Does k lock move answer next := by
  cases move with
  | enter client lock =>
      cases ran
      exact ⟨_,lock,enter_does sound client lock⟩
  | advance k =>
      obtain ⟨_,advanced,same⟩ := Option.map_eq_some_iff.mp ran
      cases same
      obtain ⟨lock,does⟩ := advance_does sound advanced
      exact ⟨k,lock,does⟩
  | release client lock =>
      cases ran
      obtain ⟨k,does⟩ := release_does sound client lock
      exact ⟨k,lock,does⟩

theorem Act.own {before after : Option Caller} {s' : Slot} (act : Act k lock move before s answer after s') :
    (∀ c, before = some c → c.lock = lock) ∧ ∀ c, after = some c → c.lock = lock := by
  cases act with
  | enter => exact ⟨nofun,fun c made => by cases made; rfl⟩
  | take _ own => exact ⟨fun c made => by cases made; exact own,nofun⟩
  | turnAway _ own | heed _ own | sleep _ own | wake _ _ _ _ own =>
      exact ⟨fun c made => by cases made; exact own,fun c made => by cases made; exact own⟩
  | ignore | leave => exact ⟨nofun,nofun⟩

theorem Act.listed {before after : Option Caller} {s' : Slot} (act : Act k lock move before s answer after s')
    (once : s.asleep.Nodup) (listed : k ∈ s.asleep ↔ ∃ c, before = some c ∧ c.place = .asleep) :
    (∀ j, j ≠ k → (j ∈ s'.asleep ↔ j ∈ s.asleep)) ∧ (k ∈ s'.asleep ↔ ∃ c, after = some c ∧ c.place = .asleep) ∧
      s'.asleep.Nodup := by
  cases act with
  | enter => exact ⟨fun _ _ => Iff.rfl,by simpa using listed,once⟩
  | take place | turnAway place | heed place => exact ⟨fun _ _ => Iff.rfl,by simpa [place] using listed,once⟩
  | sleep place =>
      have unlisted : k ∉ s.asleep := by simp [listed,place]
      refine ⟨fun j differ => by simp [differ],by simp,?_⟩
      exact List.nodup_append.mpr ⟨once,by simp,by grind⟩
  | ignore => exact ⟨fun _ _ => Iff.rfl,by simpa using listed,once⟩
  | leave _ _ nobody => exact ⟨fun _ _ => Iff.rfl,by simp [nobody],once⟩
  | wake _ _ first =>
      rw [first] at once ⊢
      have new := List.nodup_cons.mp once
      exact ⟨fun j differ => by simp [differ],by simpa using new.1,new.2⟩

theorem ncard_split (locks : Set LockId) (lock : LockId) (b : Bool) (here : b = true ↔ lock ∈ locks) :
    locks.ncard = (locks \ {lock}).ncard + b.toNat := by
  cases b with
  | false =>
      have absent : lock ∉ locks := fun there => nomatch here.mpr there
      rw [Set.sdiff_singleton_eq_self absent]
      rfl
  | true => exact (Set.ncard_sdiff_singleton_add_one (here.mp rfl) (Set.toFinite _)).symm

theorem Does.sound (does : gate.Does k lock move answer next) (sound : gate.Sound) : next.Sound := by
  have own := does.act.own
  have listed : k ∈ (gate.slot lock).asleep ↔ ∃ c, gate.callers.find? k = some c ∧ c.place = .asleep := by
    rw [sound.asleep]
    exact ⟨fun ⟨c,found,place,_⟩ => ⟨c,found,place⟩,fun ⟨c,found,place⟩ => ⟨c,found,place,own.1 c found⟩⟩
  obtain ⟨others,mine,once⟩ := does.act.listed (sound.once lock) listed
  constructor
  case below =>
    intro j c found
    by_cases same : j = k
    · subst same
      exact does.fresh (by simp [found])
    · exact Nat.lt_of_lt_of_le (sound.below j c (does.callers j same ▸ found)) does.grown
  case asleep =>
    intro j other
    by_cases here : other = lock
    · subst here
      by_cases same : j = k
      · subst same
        rw [mine]
        exact ⟨fun ⟨c,found,place⟩ => ⟨c,found,place,own.2 c found⟩,fun ⟨c,found,place,_⟩ => ⟨c,found,place⟩⟩
      · rw [others j same,does.callers j same,sound.asleep]
    · rw [does.slots other here,sound.asleep]
      by_cases same : j = k
      · subst same
        constructor
        · rintro ⟨c,found,_,rfl⟩
          exact absurd (own.1 c found) here
        · rintro ⟨c,found,_,rfl⟩
          exact absurd (own.2 c found) here
      · rw [does.callers j same]
  case once =>
    intro other
    by_cases here : other = lock
    · subst here
      exact once
    · rw [does.slots other here]
      exact sound.once other
  case counted =>
    have rest : next.held \ {lock} = gate.held \ {lock} := by
      ext other
      by_cases here : other = lock
      · simp [here]
      · simp [held,isHeld,here,does.slots other here]
    have before := ncard_split gate.held lock (gate.slot lock).held Iff.rfl
    have after := ncard_split next.held lock (next.slot lock).held Iff.rfl
    have count := does.count
    have counted := sound.counted
    rw [rest] at after
    omega

theorem start_sound : Sound {} := by
  constructor
  · exact fun k c found => nomatch found
  · intro k lock
    simp [slot,Table.find?]
  · intro lock
    simp [slot,Table.find?]
  · have none : held {} = ∅ := by
      ext lock
      simp [held,isHeld,slot,Table.find?]
    rw [none,Set.ncard_empty]

theorem Run.sound (run : Run past gate) : gate.Sound := by
  induction run with
  | start begins =>
      cases begins
      exact start_sound
  | step _ _ ran ih =>
      obtain ⟨k,lock,does⟩ := step_does ih ran
      exact does.sound ih

theorem Run.does (run : Run (now :: past) gate) :
    Run past now.before ∧ now.after = gate ∧ ∃ k lock, now.before.Does k lock now.act now.effects now.after := by
  obtain ⟨earlier,_,ran,same⟩ := run.latest
  exact ⟨earlier,same,step_does (Run.sound earlier) ran⟩

def door : LockId := ⟨7⟩
def shed : LockId := ⟨9⟩

-- Ada has the door and Bob is turned away; a stranger's release falls before he
-- sleeps, and Cyd, who came later, takes the door before Bob looks again. So he
-- sleeps after all, and the shed is Dan's.
def crowd : List Move :=
  [.enter ⟨"ada"⟩ door,.advance 0,.enter ⟨"bob"⟩ door,.advance 1,.release ⟨"eve"⟩ door,.enter ⟨"cyd"⟩ door,.advance 2,
    .advance 1,.advance 1,.advance 1,.release ⟨"eve"⟩ ⟨0⟩,.enter ⟨"dan"⟩ shed,.advance 3]

def crowded : List Moment × Gate := doors.follow [] {} crowd

theorem crowded_run : Run crowded.1 crowded.2 := doors.follow_runs (.start rfl) crowd

end LockLender.Gate
