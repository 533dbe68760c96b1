import LockLender.Proofs.Borrower.Waiting

namespace LockLender

inductive Leg where
  | outside
  | asking
  | holding
  | leaving
  -- The release has returned well; a call has failed.
  | finished
  | failed
  deriving DecidableEq, Repr

namespace Leg
open Borrower

def after (still well : Leg) : Option Outcome → Leg
  | none => still
  | some (.ok ()) => well
  | some (.error _) => .failed

def onward (begins : Purpose → Bool) (ended : Purpose → Option Outcome) : Leg → Leg
  | .outside => if begins .acquire then .asking else .outside
  | .asking => after .asking .holding (ended .acquire)
  | .holding => if begins .release then after .leaving .finished (ended .release) else .holding
  | .leaving => after .leaving .finished (ended .release)
  | .finished => .finished
  | .failed => .failed

def present : Leg → Bool
  | .finished | .failed => false
  | _ => true

def turn : Leg → Purpose → Bool
  | .outside,.acquire | .holding,.release => true
  | _,_ => false

theorem onward_rest {begins : Purpose → Bool} {ended : Purpose → Option Outcome} (leg : Leg)
    (begun : ∀ purpose, begins purpose = false) (unended : ∀ purpose, ended purpose = none) :
    leg.onward begins ended = leg := by
  cases leg <;> simp [onward,begun,unended,after]

end Leg

namespace Borrower

def on (b : Borrower) (lock : LockId) : Nat → Option Call := b.crew (fun _ call => some call) lock

structure Sole (calls : Nat → Option Call) (k : Nat) (call : Call) : Prop where
  here : calls k = some call
  rest : ∀ j, j ≠ k → calls j = none

-- How the client stands when its caller has come so far. Where a reply was lost
-- it may be wrong about the lock, and its caller's call is about to fail.
inductive Stand (accord recalled : Prop) (e : Entry) (calls : Nat → Option Call) : Leg → Prop where
  | outside (alone : ∀ k, calls k = none) (idle : e.state = .idle) (told : e.revoked = true ↔ recalled)
      (agreed : accord) : Stand accord recalled e calls .outside
  | asking (k : Nat) (call : Call) (sole : Sole calls k call) (purpose : call.purpose = .acquire)
      (state : e.state = .idle ∨ e.state = .acquiring) (told : e.revoked = true ↔ recalled)
      (agreed : accord ∨ ∃ fault, call.place = .settling (.error fault)) : Stand accord recalled e calls .asking
  | holding (alone : ∀ k, calls k = none) (held : e.state = .held) (told : e.revoked = true ↔ recalled)
      (agreed : accord) : Stand accord recalled e calls .holding
  | leaving (k : Nat) (call : Call) (sole : Sole calls k call) (purpose : call.purpose = .release)
      (duty : call.place.duty = some .releasing) (told : recalled)
      (agreed : accord ∨ ∃ fault, call.place = .closing (.error fault)) : Stand accord recalled e calls .leaving
  | finished (alone : ∀ k, calls k = none) (lies : e.state = .cachedFree ∧ ¬ recalled ∨ e.state = .idle ∧ recalled)
      (agreed : accord) : Stand accord recalled e calls .finished
  | failed : Stand accord recalled e calls .failed

def Effect.outcome? (purpose : Purpose) (lock : LockId) : Effect → Option Outcome
  | .done _ ended third outcome => if ended = purpose ∧ third = lock then some outcome else none
  | _ => none

def ends (lock : LockId) (effects : List Effect) (purpose : Purpose) : Option Outcome :=
  effects.findSome? (Effect.outcome? purpose lock)

-- What comes to the client on a leg of its caller's, and what it does to the
-- accord and to the recalls so far.
structure Passage (input : Input) (leg : Leg) (begins : Purpose → Bool) (accord accord' recalled recalled' : Prop) :
    Prop where
  turn : ∀ purpose, input = .begin purpose → purpose ≠ .revoke → leg.turn purpose = true
  begun : ∀ purpose, purpose ≠ .revoke → (begins purpose = true ↔ input = .begin purpose)
  present : input = .begin .revoke ∨ input = .retry → leg.present = true
  kept : (accord → accord') ∨ ∃ fault, input = .answer (.error fault)
  told : recalled' ↔ recalled ∨ input = .begin .revoke

variable {b next : Borrower} {input : Input} {k j : Nat} {lock : LockId} {effects : List Effect} {e : Entry}
  {after : Option Call} {accord accord' recalled recalled' : Prop} {call : Call} {leg : Leg}
  {begins : Purpose → Bool}

theorem Stand.mono {calls : Nat → Option Call} (stand : Stand accord recalled e calls leg) (kept : accord → accord')
    (same : recalled ↔ recalled') : Stand accord' recalled' e calls leg := by
  cases stand with
  | outside alone idle told agreed => exact .outside alone idle (told.trans same) (kept agreed)
  | asking k call sole purpose state told agreed =>
      exact .asking k call sole purpose state (told.trans same) (agreed.imp_left kept)
  | holding alone held told agreed => exact .holding alone held (told.trans same) (kept agreed)
  | leaving k call sole purpose duty told agreed =>
      exact .leaving k call sole purpose duty (same.mp told) (agreed.imp_left kept)
  | finished alone lies agreed => exact .finished alone (by rwa [← same]) (kept agreed)
  | failed => exact .failed

namespace Passage

theorem unbegun (passage : Passage input leg begins accord accord' recalled recalled') (purpose : Purpose)
    (own : purpose ≠ .revoke) (other : input ≠ .begin purpose) : begins purpose = false := by
  cases begun : begins purpose with
  | false => rfl
  | true => exact absurd ((passage.begun purpose own).mp begun) other

theorem agreed (passage : Passage input leg begins accord accord' recalled recalled')
    (other : ∀ fault, input ≠ .answer (.error fault)) (agreed : accord) : accord' := by
  rcases passage.kept with kept | ⟨fault,answer⟩
  · exact kept agreed
  · exact absurd answer (other fault)

-- A reply that is lost is the one thing that may end the accord.
theorem answered {reply : Except LockFault Reply}
    (passage : Passage (.answer reply) leg begins accord accord' recalled recalled') (agreed : accord) :
    accord' ∨ ∃ fault, reply = .error fault := by
  rcases passage.kept with kept | ⟨fault,answer⟩
  · exact .inl (kept agreed)
  · cases answer
    exact .inr ⟨fault,rfl⟩

theorem told_same (passage : Passage input leg begins accord accord' recalled recalled')
    (other : input ≠ .begin .revoke) : recalled ↔ recalled' := by
  rw [passage.told,or_iff_left other]

theorem calm (passage : Passage input leg begins accord accord' recalled recalled')
    (still : ∀ purpose, leg.turn purpose = true → input ≠ .begin purpose) :
    ∀ purpose, input = .begin purpose → purpose = .revoke := by
  intro purpose begun
  by_contra other
  exact still purpose (passage.turn purpose begun other) begun

end Passage

theorem Counted.unsought (counted : b.Counted) (sound : b.Sound) (alone : ∀ k, b.on lock k = none) :
    (b.entry lock).waiting = 0 := by
  rw [counted lock,Finset.card_eq_zero,Finset.eq_empty_iff_forall_notMem]
  intro k sought
  obtain ⟨call,found,own,_⟩ := (mem_callers sound.numbered).mp sought
  have seen : b.on lock k = some call := crew_eq_some.mpr ⟨call,found,own,rfl⟩
  rw [alone] at seen
  cases seen

namespace Does

theorem on_before (done : Does b input k lock effects e after next) : b.on lock k = b.calls.find? k := by
  unfold on
  rw [done.crew_before]
  cases b.calls.find? k <;> rfl

theorem on_after (done : Does b input k lock effects e after next) : next.on lock k = after := by
  unfold on
  rw [done.crew_after]
  cases after <;> rfl

theorem on_rest (done : Does b input k lock effects e after next) (differ : j ≠ k) :
    next.on lock j = b.on lock j := done.crew_rest _ differ

theorem alone_after (done : Does b input k lock effects e after next) (rest : ∀ j, j ≠ k → b.on lock j = none)
    (gone : after = none) (j : Nat) : next.on lock j = none := by
  by_cases same : j = k
  · rw [same,done.on_after,gone]
  · rw [done.on_rest same,rest j same]

theorem sole_after (done : Does b input k lock effects e after next) (rest : ∀ j, j ≠ k → b.on lock j = none)
    (there : after = some call) : Sole (next.on lock) k call := by
  refine ⟨done.on_after.trans there,fun j differ => ?_⟩
  rw [done.on_rest differ,rest j differ]

theorem sole_brief (done : Does b input k lock effects e after next) (sole : Sole (b.on lock) j call)
    (acting : k ≠ j) (gone : after = none) : Sole (next.on lock) j call := by
  refine ⟨by rw [done.on_rest acting.symm,sole.here],fun i differ => ?_⟩
  by_cases same : i = k
  · rw [same,done.on_after,gone]
  · rw [done.on_rest same,sole.rest i differ]

theorem callback (done : Does b input k lock effects e after next) (unused : b.calls.find? k = none)
    (calm : ∀ purpose, input = .begin purpose → purpose = .revoke) (busy : (b.entry lock).state ≠ .cachedFree) :
    after = none ∧ e.state = (b.entry lock).state ∧
      (e.revoked = true ↔ (b.entry lock).revoked = true ∨
        input = .begin .revoke ∧ (b.entry lock).state ≠ .releasing) ∧
      ∀ purpose, purpose ≠ .revoke → ends lock effects purpose = none := by
  have act := done.act
  rw [unused] at act
  cases act with
  | acquire | misplaced | giveBack | keep => cases calm _ rfl
  | surrender free => exact absurd free busy
  | recalled away =>
      exact ⟨rfl,rfl,by simp [away],fun purpose other => by simp [ends,Effect.outcome?,other.symm]⟩
  | remember _ here =>
      exact ⟨rfl,rfl,by simp [here],fun purpose other => by simp [ends,Effect.outcome?,other.symm]⟩
  | signal | stale => exact ⟨rfl,rfl,by simp,fun _ _ => rfl⟩

theorem ends_other (done : Does b input k lock effects e after next) {other : LockId} (differ : other ≠ lock)
    (purpose : Purpose) : ends other effects purpose = none := by
  have act := done.act
  generalize b.calls.find? k = before at act
  cases act with
  | send place own hooks only => rcases only with rfl | rfl <;> rfl
  | _ => simp [ends,Effect.outcome?,differ.symm]

section
variable (done : Does b input k lock effects e after next)
  (passage : Passage input leg begins accord accord' recalled recalled')

include done passage

theorem agreed_unused (unused : b.calls.find? k = none) (agreed : accord) : accord' := by
  refine passage.agreed ?_ agreed
  rintro fault rfl
  have act := done.act
  rw [unused] at act
  cases act

theorem stand_outside (start : leg = .outside) (alone : ∀ k, b.on lock k = none)
    (idle : (b.entry lock).state = .idle) (told : (b.entry lock).revoked = true ↔ recalled) (agreed : accord) :
    Stand accord' recalled' e (next.on lock) (leg.onward begins (ends lock effects)) := by
  subst start
  have unused : b.calls.find? k = none := done.on_before.symm.trans (alone k)
  have agreed := done.agreed_unused passage unused agreed
  by_cases begun : input = .begin .acquire
  · subst begun
    have act := done.act
    rw [unused] at act
    simp only [Leg.onward,(passage.begun .acquire nofun).mpr rfl,if_true]
    cases act with
    | acquire =>
        exact .asking k _ (done.sole_after (fun j _ => alone j) rfl) rfl (.inl idle)
          (told.trans (passage.told_same nofun)) (.inl agreed)
  · have calm := passage.calm fun purpose turn => by cases purpose <;> first | exact begun | cases turn
    obtain ⟨gone,state,revoked,_⟩ := done.callback unused calm (by simp [idle])
    simp only [Leg.onward,passage.unbegun .acquire nofun begun]
    exact .outside (done.alone_after (fun j _ => alone j) gone) (state.trans idle)
      (by simp [revoked,told,passage.told,idle]) agreed

theorem stand_asking_own (start : leg = .asking) (sound : b.Sound) (sole : Sole (b.on lock) k call)
    (purpose : call.purpose = .acquire)
    (state : (b.entry lock).state = .idle ∨ (b.entry lock).state = .acquiring)
    (told : (b.entry lock).revoked = true ↔ recalled)
    (agreed : accord ∨ ∃ fault, call.place = .settling (.error fault)) :
    Stand accord' recalled' e (next.on lock) (leg.onward begins (ends lock effects)) := by
  subst start
  have act := done.act
  have seen : b.calls.find? k = some call := done.on_before.symm.trans sole.here
  have here (there : call.place.duty = some .releasing) : False := by
    have away := done.at_work sound call seen _ there
    rcases state with state | state <;> rw [state] at away <;> cases away
  rw [seen] at act
  have calm : input ≠ .begin .revoke := by
    rintro rfl
    cases act
  have told := told.trans (passage.told_same calm)
  have well (other : ∀ fault, call.place ≠ .settling (.error fault)) (own : ∀ reply, input ≠ .answer reply) :
      accord' := passage.agreed (fun fault => own _) (agreed.resolve_right fun doomed => doomed.elim other)
  -- A call that goes on asks as before.
  have on {place : Place} (there : after = some { call with place })
      (state : e.state = .idle ∨ e.state = .acquiring) (revoked : e.revoked = (b.entry lock).revoked)
      (unended : ends lock effects .acquire = none) (agreed : accord' ∨ ∃ fault, place = .settling (.error fault)) :
      Stand accord' recalled' e (next.on lock) (Leg.onward begins (ends lock effects) .asking) := by
    simp only [Leg.onward,unended]
    exact .asking k _ (done.sole_after sole.rest there) purpose state (by rw [revoked]; exact told) agreed
  cases act with
  | watchLock place =>
      exact on rfl state rfl rfl (.inl (well (by rcases place with place | place <;> rw [place] <;> nofun) nofun))
  | hit place own free =>
      rcases state with state | state <;> rw [state] at free <;> cases free
  | turnAsking place => exact on rfl (.inr rfl) rfl rfl (.inl (well (by rw [place]; nofun) nofun))
  | park place => exact on rfl state rfl rfl (.inl (well (by rw [place]; nofun) nofun))
  | ask place => exact on rfl state rfl rfl (.inl (well (by rw [place]; nofun) nofun))
  | watchSignal place =>
      exact on rfl state rfl rfl (.inl (well (by rcases place with place | place <;> rw [place] <;> nofun) nofun))
  | heed place => exact on rfl state rfl rfl (.inl (well (by rw [place]; nofun) nofun))
  | doze place => exact on rfl state rfl rfl (.inl (well (by rw [place]; nofun) nofun))
  | got place =>
      simp only [Leg.onward,ends,List.findSome?_cons,Effect.outcome?,purpose,and_self,if_true]
      exact .holding (done.alone_after sole.rest rfl) rfl told (well (by rw [place]; nofun) nofun)
  | gaveUp =>
      simp only [Leg.onward,ends,List.findSome?_cons,Effect.outcome?,purpose,and_self,if_true]
      exact .failed
  | send place | closed place | reopened place | returnAnswered place => exact (here (by rw [place]; rfl)).elim
  | @askAnswered _ _ reply place =>
      have before := agreed.resolve_right fun ⟨fault,doomed⟩ => by simp [place] at doomed
      refine on rfl state rfl rfl ((passage.answered before).imp_right ?_)
      rintro ⟨fault,rfl⟩
      exact ⟨fault,rfl⟩

theorem stand_leaving_own (start : leg = .leaving) (sole : Sole (b.on lock) k call)
    (purpose : call.purpose = .release) (duty : call.place.duty = some .releasing) (told : recalled)
    (agreed : accord ∨ ∃ fault, call.place = .closing (.error fault)) :
    Stand accord' recalled' e (next.on lock) (leg.onward begins (ends lock effects)) := by
  subst start
  have act := done.act
  have seen : b.calls.find? k = some call := done.on_before.symm.trans sole.here
  have told : recalled' := passage.told.mpr (.inl told)
  rw [seen] at act
  have well (other : ∀ fault, call.place ≠ .closing (.error fault)) (own : ∀ reply, input ≠ .answer reply) :
      accord' := passage.agreed (fun fault => own _) (agreed.resolve_right fun doomed => doomed.elim other)
  cases act with
  | watchLock place | watchSignal place => rcases place with place | place <;> simp [place,Place.duty] at duty
  | hit place | turnAsking place | park place | ask place | heed place | doze place | got place | gaveUp place
  | askAnswered place => simp [place,Place.duty] at duty
  | send place _ hooks only =>
      have unended : ends lock (hooks ++ [.giveBack k lock]) .release = none := by
        rcases only with rfl | rfl <;> rfl
      simp only [Leg.onward,unended]
      refine .leaving k _ (done.sole_after sole.rest rfl) purpose rfl told (.inl (well ?_ ?_))
      · rw [place]
        intro fault same
        cases same
      · intro reply same
        cases same
  | closed place =>
      simp only [Leg.onward,ends,List.findSome?_cons,Effect.outcome?,purpose,and_self,if_true]
      refine .finished (done.alone_after sole.rest rfl) (.inr ⟨rfl,told⟩) (well ?_ ?_)
      · rw [place]
        intro fault same
        cases same
      · intro reply same
        cases same
  | reopened =>
      simp only [Leg.onward,ends,List.findSome?_cons,Effect.outcome?,purpose,and_self,if_true]
      exact .failed
  | @returnAnswered _ _ reply place =>
      simp only [Leg.onward,ends,List.findSome?_nil]
      have before := agreed.resolve_right (by
        rintro ⟨fault,doomed⟩
        simp [place] at doomed)
      refine .leaving k _ (done.sole_after sole.rest rfl) purpose (duty_afterReturn _) told
        ((passage.answered before).imp_right ?_)
      rintro ⟨fault,rfl⟩
      exact ⟨fault,rfl⟩

theorem stand_holding (start : leg = .holding) (sound : b.Sound) (counted : b.Counted)
    (alone : ∀ k, b.on lock k = none) (held : (b.entry lock).state = .held)
    (told : (b.entry lock).revoked = true ↔ recalled) (agreed : accord) :
    Stand accord' recalled' e (next.on lock) (leg.onward begins (ends lock effects)) := by
  subst start
  have unused : b.calls.find? k = none := done.on_before.symm.trans (alone k)
  have agreed := done.agreed_unused passage unused agreed
  by_cases begun : input = .begin .release
  · subst begun
    have same := passage.told_same nofun
    have act := done.act
    rw [unused] at act
    simp only [Leg.onward,(passage.begun .release nofun).mpr rfl,if_true]
    cases act with
    | misplaced unheld => exact absurd held unheld
    | giveBack _ wanted =>
        exact .leaving k _ (done.sole_after (fun j _ => alone j) rfl) rfl rfl (same.mp (told.mp wanted)) (.inl agreed)
    | keep _ needed =>
        simp only [ends,List.findSome?_cons,Effect.outcome?,and_self,if_true]
        refine .finished (done.alone_after (fun j _ => alone j) rfl) (.inl ⟨rfl,fun recalled => ?_⟩) agreed
        have few := needed (told.mpr (same.mpr recalled))
        rw [counted.unsought sound alone] at few
        exact absurd (Nat.le_trans sound.patient few) (by decide)
  · have calm := passage.calm fun purpose turn => by cases purpose <;> first | exact begun | cases turn
    obtain ⟨gone,state,revoked,_⟩ := done.callback unused calm (by simp [held])
    simp only [Leg.onward,passage.unbegun .release nofun begun]
    exact .holding (done.alone_after (fun j _ => alone j) gone) (state.trans held)
      (by simp [revoked,told,passage.told,held]) agreed

theorem stand (sound : b.Sound) (counted : b.Counted)
    (stand : Stand accord recalled (b.entry lock) (b.on lock) leg) :
    Stand accord' recalled' (next.entry lock) (next.on lock) (leg.onward begins (ends lock effects)) := by
  rw [done.edit.entry]
  cases stand with
  | outside alone idle told agreed => exact done.stand_outside passage rfl alone idle told agreed
  | asking j call sole purpose state told agreed =>
      by_cases acting : k = j
      · subst acting
        exact done.stand_asking_own passage rfl sound sole purpose state told agreed
      · have unused : b.calls.find? k = none := done.on_before.symm.trans (sole.rest k acting)
        have busy : (b.entry lock).state ≠ .cachedFree ∧ (b.entry lock).state ≠ .releasing := by
          rcases state with state | state <;> simp [state]
        obtain ⟨gone,same,revoked,unended⟩ := done.callback unused (passage.calm nofun) busy.1
        simp only [Leg.onward,unended .acquire nofun]
        exact .asking j call (done.sole_brief sole acting gone) purpose (by rw [same]; exact state)
          (by simp [revoked,told,passage.told,busy.2])
          (agreed.imp_left (done.agreed_unused passage unused))
  | holding alone held told agreed => exact done.stand_holding passage rfl sound counted alone held told agreed
  | leaving j call sole purpose duty told agreed =>
      by_cases acting : k = j
      · subst acting
        exact done.stand_leaving_own passage rfl sole purpose duty told agreed
      · have unused : b.calls.find? k = none := done.on_before.symm.trans (sole.rest k acting)
        have away : (b.entry lock).state = .releasing := by
          obtain ⟨_,found,own,seen⟩ := crew_eq_some.mp sole.here
          cases seen
          exact sound.fits lock j _ (crew_eq_some.mpr ⟨call,found,own,duty⟩)
        obtain ⟨gone,_,_,unended⟩ := done.callback unused (passage.calm nofun) (by simp [away])
        simp only [Leg.onward,unended .release nofun]
        exact .leaving j call (done.sole_brief sole acting gone) purpose duty (passage.told.mpr (.inl told))
          (agreed.imp_left (done.agreed_unused passage unused))
  | finished alone =>
      have unused : b.calls.find? k = none := done.on_before.symm.trans (alone k)
      have act := done.act
      rw [unused] at act
      cases act with
      | acquire | misplaced | giveBack | keep => cases passage.turn _ rfl nofun
      | surrender | recalled | remember => cases passage.present (.inl rfl)
      | signal | stale => cases passage.present (.inr rfl)
  | failed => exact .failed

end
end Does
end Borrower
end LockLender
