import LockLender.Proofs.Gate.Deed

namespace LockLender.Gate

structure Awake (gate : Gate) : Prop where
  permit : ∀ lock, (gate.slot lock).permit = true → (gate.slot lock).asleep = []
  heard : ∀ k c, gate.callers.find? k = some c → c.place ≠ .looking → (gate.slot c.lock).held = false →
    (gate.slot c.lock).permit = true ∨ ∃ j d, gate.callers.find? j = some d ∧ d.lock = c.lock ∧ d.place = .looking

variable {gate next : Gate} {past : List Moment} {move : Move} {answer : Option UInt64} {k : Nat} {lock : LockId}

theorem Act.permit {before after : Option Caller} {s s' : Slot} (act : Act k lock move before s answer after s')
    (nobody : s.permit = true → s.asleep = []) : s'.permit = true → s'.asleep = [] := by
  cases act with
  | enter | take | turnAway | ignore => exact nobody
  | heed => exact nofun
  | sleep _ _ unpermitted => simp [unpermitted]
  | leave _ _ nobody => exact fun _ => nobody
  | wake _ _ first =>
      intro permit
      simp [nobody permit] at first

theorem Act.heard {before after : Option Caller} {s s' : Slot} (act : Act k lock move before s answer after s')
    (free : s'.held = false) : s'.permit = true ∨ (∃ c, after = some c ∧ c.lock = lock ∧ c.place = .looking) ∨
      s.held = false ∧ s'.permit = s.permit ∧ (after = none ∨ ∃ c, before = some c ∧ c.place = .turnedAway) ∧
        ∀ c, before = some c → c.place ≠ .looking := by
  cases act with
  | enter client => exact .inr (.inl ⟨_,rfl,rfl,rfl⟩)
  | take | turnAway => simp_all
  | heed _ own | wake _ _ _ _ own => exact .inr (.inl ⟨_,rfl,own,rfl⟩)
  | sleep place => exact .inr (.inr ⟨free,rfl,.inr ⟨_,rfl,place⟩,by simp [place]⟩)
  | ignore => exact .inr (.inr ⟨free,rfl,.inl rfl,nofun⟩)
  | leave => exact .inl rfl

theorem Does.awake (does : gate.Does k lock move answer next) (awake : gate.Awake) : next.Awake := by
  have own := does.act.own
  -- What was said at a lock still holds when the caller that moves was not the one to look.
  have still {at_ : LockId} (permit : (next.slot at_).permit = (gate.slot at_).permit)
      (other : ∀ c, gate.callers.find? k = some c → c.lock = at_ → c.place ≠ .looking)
      (heard : (gate.slot at_).permit = true ∨
        ∃ j d, gate.callers.find? j = some d ∧ d.lock = at_ ∧ d.place = .looking) :
      (next.slot at_).permit = true ∨ ∃ j d, next.callers.find? j = some d ∧ d.lock = at_ ∧ d.place = .looking := by
    rcases heard with permitted | ⟨j,d,found,there,looking⟩
    · exact .inl (permit.trans permitted)
    · have differ : j ≠ k := fun same => other d (same ▸ found) there looking
      exact .inr ⟨j,d,(does.callers j differ).trans found,there,looking⟩
  constructor
  · intro other
    by_cases here : other = lock
    · subst here
      exact does.act.permit (awake.permit other)
    · rw [does.slots other here]
      exact awake.permit other
  · intro j c found place free
    by_cases here : c.lock = lock
    · subst here
      rcases does.act.heard free with permit | ⟨d,made,there,looking⟩ | ⟨wasFree,permit,away,others⟩
      · exact .inl permit
      · exact .inr ⟨k,d,made,there,looking⟩
      · apply still permit fun d was _ => others d was
        by_cases same : j = k
        · subst same
          rcases away with gone | ⟨d,was,turnedAway⟩
          · cases gone.symm.trans found
          · have there := own.1 d was
            rw [← there] at wasFree ⊢
            exact awake.heard j d was (by simp [turnedAway]) wasFree
        · exact awake.heard j c ((does.callers j same).symm.trans found) place wasFree
    · have differ : j ≠ k := fun same => here (own.2 c (same ▸ found))
      have slots := does.slots c.lock here
      rw [slots] at free
      apply still (by rw [slots]) fun d was there => absurd (there.symm.trans (own.1 d was)) here
      exact awake.heard j c ((does.callers j differ).symm.trans found) place free

theorem start_awake : Awake {} := by
  constructor
  · intro lock
    simp [slot,Table.find?]
  · intro k c found
    cases found

theorem Run.awake (run : Run past gate) : gate.Awake := by
  induction run with
  | start begins =>
      cases begins
      exact start_awake
  | step run _ ran ih =>
      obtain ⟨k,lock,does⟩ := step_does (Run.sound run) ran
      exact does.awake ih

theorem advance_eq_none {c : Caller} (found : gate.callers.find? k = some c) :
    gate.advance k = none ↔ c.place = .asleep := by
  unfold advance
  rw [found]
  cases place : c.place with
  | looking => by_cases held : (gate.slot c.lock).held <;> simp [place,held]
  | turnedAway => by_cases permit : (gate.slot c.lock).permit <;> simp [place,permit]
  | asleep => simp [place]

-- When no caller of a lock can go on, they are all asleep and the lock is held.
theorem Run.no_sleeper_at_free_lock (run : Run past gate) (lock : LockId)
    (still : ∀ k c, gate.callers.find? k = some c → c.lock = lock → gate.advance k = none) :
    ∀ k c, gate.callers.find? k = some c → c.lock = lock → c.place = .asleep ∧ gate.isHeld lock = true := by
  have asleep (k : Nat) (c : Caller) (found : gate.callers.find? k = some c) (here : c.lock = lock) :
      c.place = .asleep := (advance_eq_none found).mp (still k c found here)
  intro k c found here
  have place := asleep k c found here
  refine ⟨place,?_⟩
  cases held : gate.isHeld lock with
  | true => rfl
  | false =>
      subst here
      rcases run.awake.heard k c found (by simp [place]) held with permit | ⟨j,d,there,own,looking⟩
      · have listed := (run.sound.asleep k c.lock).mpr ⟨c,found,place,rfl⟩
        rw [run.awake.permit c.lock permit] at listed
        cases listed
      · cases looking.symm.trans (asleep j d there own)

theorem no_sleeper_at_free_lock_crowded :
    (Run crowded.1 crowded.2 ∧
      ∀ k c, crowded.2.callers.find? k = some c → c.lock = door → crowded.2.advance k = none) ∧
    ∃ k c, crowded.2.callers.find? k = some c ∧ c.place = .asleep ∧ crowded.2.isHeld door = true := by
  have still (k : Nat) (c : Caller) (found : crowded.2.callers.find? k = some c) (here : c.lock = door) :
      crowded.2.advance k = none := by
    have alone : (k,c) ∈ [(1,(⟨⟨"bob"⟩,door,.asleep⟩ : Caller))] := Table.mem_of_find? found
    cases List.mem_singleton.mp alone
    decide
  have sleeper := crowded_run.no_sleeper_at_free_lock door still 1 ⟨⟨"bob"⟩,door,.asleep⟩ (by decide) rfl
  exact ⟨⟨crowded_run,still⟩,1,_,by decide,sleeper⟩

end LockLender.Gate
