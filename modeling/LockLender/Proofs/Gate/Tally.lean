import LockLender.Proofs.Gate.Deed

namespace LockLender.Gate

namespace Moment

def takes (now : Moment) (lock : LockId) : Bool :=
  match now.act with
  | .advance k => now.effects.isSome && (now.before.callers.find? k).any fun caller => caller.lock = lock
  | _ => false

def frees (now : Moment) (lock : LockId) : Bool :=
  match now.act with
  | .release _ other => other = lock && now.before.isHeld lock && !now.after.isHeld lock
  | _ => false

end Moment

structure Tally (past : List Moment) (gate : Gate) : Prop where
  counted : gate.count = {lock | gate.isHeld lock = true}.ncard
  empty : gate.count = 0 ↔ ∀ lock, gate.isHeld lock = false
  -- The answers are words, so that they can tell the count unless each of the
  -- locks that have a name is held.
  stated : ∀ free, gate.isHeld free = false →
    gate.stat.toNat = gate.count ∧ (gate.stat = 0 ↔ ∀ lock, gate.isHeld lock = false)
  lowered : ∀ lock, gate.isHeld lock = true → (gate.release lock).2.count + 1 = gate.count
  balanced : ∀ lock, past.countP (·.takes lock) = past.countP (·.frees lock) + if gate.isHeld lock then 1 else 0
  freed : ∀ lock later second middle first earlier, past = later ++ second :: (middle ++ first :: earlier) →
    second.takes lock = true → first.takes lock = true → ∃ now ∈ middle, now.frees lock = true

variable {gate next : Gate} {move : Move} {answer : Option UInt64} {k : Nat} {lock other : LockId} {past : List Moment}
  {now : Moment}

theorem Act.released {client : ClientId} {before after : Option Caller} {s s' : Slot}
    (act : Act k lock (.release client lock) before s answer after s') : s'.held = false := by
  cases act with
  | ignore _ free => exact free
  | leave | wake => rfl

theorem Does.flips (does : gate.Does k lock move answer next) (other : LockId) :
    Moment.takes ⟨gate,move,answer,next⟩ other = (!gate.isHeld other && next.isHeld other) ∧
      Moment.frees ⟨gate,move,answer,next⟩ other = (gate.isHeld other && !next.isHeld other) := by
  have act := does.act
  have same (differ : other ≠ lock) := does.slots other differ
  unfold Moment.takes Moment.frees isHeld
  generalize found : gate.callers.find? k = before at act
  generalize next.callers.find? k = after at act
  generalize here : gate.slot lock = s at act
  generalize there : next.slot lock = s' at act
  by_cases own : other = lock
  · subst own
    cases act <;> simp_all
  · have differ := Ne.symm own
    cases act <;> simp_all

theorem Run.balanced (run : Run past gate) (lock : LockId) :
    past.countP (·.takes lock) = past.countP (·.frees lock) + if gate.isHeld lock then 1 else 0 := by
  induction run with
  | start begins =>
      cases begins
      rfl
  | @step past gate next answer move run _ ran ih =>
      obtain ⟨k,own,does⟩ := step_does (Run.sound run) ran
      obtain ⟨takes,frees⟩ := does.flips lock
      simp only [List.countP_cons,takes,frees]
      cases before : gate.isHeld lock <;> cases after : next.isHeld lock <;> simp_all

theorem Run.takes_turn (run : Run (now :: past) gate) (takes : now.takes lock = true) :
    now.before.isHeld lock = false ∧ gate.isHeld lock = true := by
  obtain ⟨_,rfl,k,own,does⟩ := run.does
  have flips := (does.flips lock).1
  change now.takes lock = _ at flips
  rw [takes] at flips
  simpa using flips.symm

theorem Run.freed_between (run : Run past gate) (later middle earlier : List Moment) (second first : Moment)
    (order : past = later ++ second :: (middle ++ first :: earlier)) (again : second.takes lock = true)
    (taken : first.takes lock = true) : ∃ now ∈ middle, now.frees lock = true := by
  subst order
  obtain ⟨_,atSecond⟩ := run.of_append
  obtain ⟨atMiddle,_⟩ := atSecond.latest
  obtain ⟨_,atFirst⟩ := atMiddle.of_append
  have free := (Run.takes_turn atSecond again).1
  have held := (Run.takes_turn atFirst taken).2
  have before := Run.balanced atFirst lock
  have after := Run.balanced atMiddle lock
  rw [held] at before
  rw [free,List.countP_append,List.countP_append] at after
  have some : 0 < middle.countP (·.frees lock) := by
    simp only [if_true,Bool.false_eq_true,if_false] at before after
    omega
  exact List.countP_pos_iff.mp some

theorem ncard_held_lt (free : gate.isHeld lock = false) : gate.held.ncard < 2 ^ 64 := by
  have absent : gate.held ≠ Set.univ := by
    intro all
    have there : lock ∈ gate.held := all ▸ Set.mem_univ lock
    exact Bool.false_ne_true (free.symm.trans there)
  have named : Nat.card LockId ≤ Nat.card (Fin (2 ^ 64)) := by
    apply Nat.card_le_card_of_injective fun lock : LockId => lock.number.toFin
    intro one two same
    cases one
    cases two
    simpa [UInt64.toFin_inj] using same
  rw [Nat.card_fin] at named
  exact Nat.lt_of_lt_of_le (Set.ncard_lt_card absent) named

theorem Sound.empty (sound : gate.Sound) : gate.count = 0 ↔ ∀ lock, gate.isHeld lock = false := by
  rw [sound.counted,Set.ncard_eq_zero (Set.toFinite _),Set.eq_empty_iff_forall_notMem]
  simp [held]

theorem Sound.stated (sound : gate.Sound) (free : gate.isHeld lock = false) : gate.stat.toNat = gate.count := by
  have few := ncard_held_lt free
  rw [← sound.counted] at few
  exact UInt64.toNat_ofNat_of_lt' few

theorem Sound.lowered (sound : gate.Sound) (held : gate.isHeld lock = true) :
    (gate.release lock).2.count + 1 = gate.count := by
  obtain ⟨k,does⟩ := release_does sound ⟨""⟩ lock
  have free := does.act.released
  have count := does.count
  have held : (gate.slot lock).held = true := held
  simpa [free,held] using count

-- The counter is right at any time, and no lock is had twice at once.
theorem Run.tally (run : Run past gate) : Tally past gate := by
  have sound := run.sound
  constructor
  case counted => exact sound.counted
  case empty => exact sound.empty
  case stated =>
    intro free isFree
    have stated := sound.stated isFree
    refine ⟨stated,?_⟩
    rw [← sound.empty,← stated,← UInt64.toNat_inj]
    rfl
  case lowered => exact fun lock held => sound.lowered held
  case balanced => exact run.balanced
  case freed => exact fun lock later second middle first earlier => run.freed_between later middle earlier second first

theorem tally_crowded : (Run crowded.1 crowded.2 ∧ crowded.2.count = 2 ∧ crowded.1.countP (·.takes door) = 2 ∧
    crowded.1.countP (·.frees door) = 1) ∧ Tally crowded.1 crowded.2 :=
  ⟨⟨crowded_run,by decide⟩,crowded_run.tally⟩

end LockLender.Gate
