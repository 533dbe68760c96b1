import LockLender.Proofs.Borrower.Seat
import LockLender.Proofs.Borrower.Waiting
import LockLender.Proofs.Machine

namespace LockLender

def LockState.leads : LockState → LockState → Bool
  | .idle,.acquiring => true
  | .acquiring,.held | .acquiring,.idle => true
  | .held,.cachedFree | .held,.releasing => true
  | .cachedFree,.held | .cachedFree,.releasing => true
  | .releasing,.idle | .releasing,.cachedFree => true
  | _,_ => false

namespace Borrower

inductive Prompt where
  | begin (purpose : Purpose) (lock : LockId)
  | retry (lock : LockId)
  | advance (call : Nat)
  | answer (call : Nat) (reply : Except LockFault Reply)

def prompted (b : Borrower) : Prompt → Option (Borrower × List Effect)
  | .begin purpose lock => some (b.begin purpose lock).2
  | .retry lock => some (b.retry lock)
  | .advance k => (b.advance k).map Prod.swap
  | .answer k reply => (b.answer k reply).map (·,[])

abbrev Deed := LockLender.Deed Borrower Prompt (List Effect)

abbrev alone (id : ClientId) (threshold : Nat) (hooked : Bool) : Machine Borrower Prompt (List Effect) where
  begins := (· = .new id threshold hooked)
  step := prompted

abbrev Life (id : ClientId) (threshold : Nat) (hooked : Bool) : List Deed → Borrower → Prop :=
  (alone id threshold hooked).Runs

def Prompt.input : Prompt → Input
  | .begin purpose _ => .begin purpose
  | .retry _ => .retry
  | .advance _ => .advance
  | .answer _ reply => .answer reply

def Prompt.Names (k : Nat) (lock : LockId) : Prompt → Prop
  | .begin _ other | .retry other => other = lock
  | .advance j | .answer j _ => j = k

def Prompt.gives : Prompt → List LockId
  | .begin .release lock => [lock]
  | _ => []

def inUse : List Deed → List LockId
  | [] => []
  | now :: past => (inUse past).diff now.act.gives ++ now.effects.filterMap Effect.acquired

def honest : List Deed → Bool
  | [] => true
  | now :: past => now.act.gives.all (· ∈ inUse past) && honest past

def workers (b : Borrower) (s : LockState) (lock : LockId) : Finset Nat :=
  (Finset.range b.nextCall).filter fun k => b.duty lock k = some s

def Place.away : Place → Bool
  | .asked | .returned => true
  | _ => false

def unanswered (b : Borrower) (lock : LockId) : Finset Nat :=
  (Finset.range b.nextCall).filter fun k => b.crew (fun _ call => some call.place.away) lock k = some true

-- On its own a client has its replies at once.
def silent : Replies := fun _ => none

variable {id : ClientId} {threshold : Nat} {hooked : Bool} {past : List Deed} {b next : Borrower} {input : Input}
  {prompt : Prompt} {k : Nat} {lock : LockId} {effects : List Effect} {e : Entry} {after : Option Call} {now : Deed}

theorem prompted_does (numbered : b.Numbered) (ran : b.prompted prompt = some (next,effects)) :
    ∃ k lock e after, Does b prompt.input k lock effects e after next ∧ prompt.Names k lock := by
  cases prompt with
  | begin purpose lock =>
      rcases acted : b.begin purpose lock with ⟨k,later,done⟩
      simp only [prompted,acted,Option.some.injEq,Prod.mk.injEq] at ran
      obtain ⟨rfl,rfl⟩ := ran
      obtain ⟨e,after,does⟩ := begin_does numbered acted
      exact ⟨k,lock,e,after,does,rfl⟩
  | retry lock =>
      obtain ⟨e,after,does⟩ := retry_does numbered (Option.some.inj ran)
      exact ⟨_,lock,e,after,does,rfl⟩
  | advance k =>
      obtain ⟨⟨done,later⟩,acted,same⟩ := Option.map_eq_some_iff.mp ran
      cases same
      obtain ⟨lock,e,after,does⟩ := advance_does acted
      exact ⟨k,lock,e,after,does,rfl⟩
  | answer k reply =>
      obtain ⟨later,acted,same⟩ := Option.map_eq_some_iff.mp ran
      cases same
      obtain ⟨lock,e,after,does⟩ := answer_does acted
      exact ⟨k,lock,e,after,does,rfl⟩

theorem Life.sound (life : Life id threshold hooked past b) : b.Sound := by
  induction life with
  | start begins =>
      cases begins
      exact new_sound id threshold hooked
  | step _ _ ran ih =>
      obtain ⟨_,_,_,_,does,_⟩ := prompted_does ih.numbered ran
      exact does.sound ih

theorem Life.counted (life : Life id threshold hooked past b) : b.Counted := by
  induction life with
  | start begins =>
      cases begins
      exact new_counted id threshold hooked
  | step life _ ran ih =>
      obtain ⟨_,_,_,_,does,_⟩ := prompted_does (Life.sound life).numbered ran
      exact does.counted (Life.sound life) ih

section
variable (sound : b.Sound)
include sound

theorem Sound.workers_card {s : LockState} (engaged : s.engaged = true) :
    (b.workers s lock).card = if (b.entry lock).state = s then 1 else 0 := by
  split
  · rename_i state
    subst state
    obtain ⟨k,duty⟩ := sound.manned lock engaged
    apply Finset.card_eq_one.mpr
    refine ⟨k,Finset.eq_singleton_iff_unique_mem.mpr ⟨?_,?_⟩⟩
    · obtain ⟨call,found,_⟩ := crew_eq_some.mp duty
      exact Finset.mem_filter.mpr ⟨Finset.mem_range.mpr (sound.numbered _ _ found),duty⟩
    · intro j member
      have other := (Finset.mem_filter.mp member).2
      exact sound.sole lock j k (by simp [other]) (by simp [duty])
  · rename_i differ
    apply Finset.card_eq_zero.mpr
    apply Finset.eq_empty_of_forall_notMem
    intro k member
    exact differ (sound.fits lock k s (Finset.mem_filter.mp member).2)

theorem Sound.unanswered_card (lock : LockId) : (b.unanswered lock).card ≤ 1 := by
  have engaged {k : Nat} (member : k ∈ b.unanswered lock) : b.duty lock k ≠ none := by
    obtain ⟨call,found,own,away⟩ := crew_eq_some.mp (Finset.mem_filter.mp member).2
    intro none
    unfold duty crew at none
    rw [found,Option.bind_some,if_pos own] at none
    cases place : call.place <;> simp [place,Place.away,Place.duty] at away none
  apply Finset.card_le_one.mpr
  intro j one k two
  exact sound.sole lock j k (engaged one) (engaged two)

theorem Does.leads (done : Does b input k lock effects e after next) :
    e.state = (b.entry lock).state ∨ (b.entry lock).state.leads e.state = true := by
  have state := done.at_work sound
  have act := done.act
  generalize b.calls.find? k = before at act state
  cases act with
  | giveBack held | keep held => exact .inr (by rw [held]; rfl)
  | surrender free | hit _ _ free => exact .inr (by rw [free]; rfl)
  | turnAsking _ _ idle => exact .inr (by rw [idle]; rfl)
  | got place | gaveUp place | closed place | reopened place =>
      exact .inr (by rw [state _ rfl _ (by rw [place]; rfl)]; rfl)
  | _ => exact .inl rfl

theorem Does.gains (done : Does b input k lock effects e after next) (stays : input ≠ .begin .release) :
    ∃ got : Bool, effects.filterMap Effect.acquired = (if got then [lock] else []) ∧
      (if (next.entry lock).state = .held then 1 else 0) =
        (if (b.entry lock).state = .held then 1 else 0) + if got then 1 else 0 := by
  have quiet : silent k = none := rfl
  have before := sound.stage_holds silent lock
  have later := (done.sound sound).stage_holds silent lock
  rw [← before,← later]
  cases input with
  | answer reply =>
      have act := done.act
      generalize b.calls.find? k = was at act
      cases act with
      | askAnswered | returnAnswered =>
          rw [before,later,done.edit.entry]
          exact ⟨false,rfl,rfl⟩
  | begin | retry | advance =>
      obtain ⟨got,step,gained⟩ := done.seat_step sound quiet nofun
      exact ⟨got,gained,step.holds stays⟩

theorem Does.drops (done : Does b (.begin .release) k lock effects e after next)
    (held : (b.entry lock).state = .held) :
    effects.filterMap Effect.acquired = [] ∧ (next.entry lock).state ≠ .held := by
  have quiet : silent k = none := rfl
  have before := sound.stage_holds silent lock
  have later := (done.sound sound).stage_holds silent lock
  obtain ⟨got,step,gained⟩ := done.seat_step sound quiet nofun
  cases got with
  | true => cases step
  | false =>
      have one : (b.seat silent lock).stage.holds = 1 := before.trans (if_pos held)
      obtain ⟨_,none⟩ := step.releases (one ▸ Nat.one_pos)
      refine ⟨gained,fun still => ?_⟩
      have again : (next.seat silent lock).stage.holds = 1 := later.trans (if_pos still)
      rw [none] at again
      cases again

theorem Does.uncounts (done : Does b input k lock effects e after next) (counted : b.Counted) {j : Nat}
    {other : LockId} {outcome : Outcome} (ended : .done j .acquire other outcome ∈ effects) :
    other = lock ∧ e.waiting + 1 = (b.entry lock).waiting := by
  have purposed := sound.purposed k
  have waited : seeks (b.calls.find? k) = true → 0 < (b.entry lock).waiting := by
    intro seeking
    rw [counted lock]
    exact Finset.card_pos.mpr ⟨k,(done.mem_callers_before sound).mpr seeking⟩
  have act := done.act
  generalize b.calls.find? k = before at act purposed waited
  cases act with
  | hit place | got place | gaveUp place =>
      have purpose := (purposed _ rfl).mpr (by rw [place]; intro same; cases same)
      have positive := waited (by simp [seeks,purpose])
      simp only [List.mem_cons,List.not_mem_nil,or_false,reduceCtorEq,false_or,Effect.done.injEq] at ended
      exact ⟨ended.2.2.1,Nat.sub_add_cancel positive⟩
  | closed place | reopened place =>
      simp only [List.mem_cons,List.not_mem_nil,or_false,reduceCtorEq,false_or,Effect.done.injEq] at ended
      exact absurd (by rw [place]; rfl) ((purposed _ rfl).mp ended.2.1.symm)
  | send _ _ hooks only =>
      rcases only with rfl | rfl <;> simp at ended
  | _ => simp at ended

end

theorem Prompt.gives_cases (names : prompt.Names k lock) :
    prompt.input = .begin .release ∧ prompt.gives = [lock] ∨
      prompt.input ≠ .begin .release ∧ prompt.gives = [] := by
  cases prompt with
  | begin purpose other =>
      cases names
      cases purpose with
      | release => exact .inl ⟨rfl,rfl⟩
      | acquire | revoke => exact .inr ⟨nofun,rfl⟩
  | retry | advance | answer => exact .inr ⟨nofun,rfl⟩

theorem Life.inUse_count (life : Life id threshold hooked past b) (honesty : honest past = true) (lock : LockId) :
    (inUse past).count lock = if (b.entry lock).state = .held then 1 else 0 := by
  induction life generalizing lock with
  | start begins =>
      cases begins
      rfl
  | @step past b next effects prompt life _ ran ih =>
      simp only [honest,Bool.and_eq_true,List.all_eq_true,decide_eq_true_eq] at honesty
      obtain ⟨own,honesty⟩ := honesty
      obtain ⟨k,acting,e,after,does,names⟩ := prompted_does (Life.sound life).numbered ran
      rw [inUse,List.count_append,List.count_diff,ih honesty]
      rcases Prompt.gives_cases names with ⟨release,gives⟩ | ⟨stays,gives⟩
      · have held : (b.entry acting).state = .held := by
          by_contra unheld
          have member := List.count_pos_iff.mpr (own acting (by simp [gives]))
          rw [ih honesty,if_neg unheld] at member
          cases member
        rw [release] at does
        obtain ⟨none,dropped⟩ := does.drops (Life.sound life) held
        by_cases here : lock = acting
        · simp [gives,none,here,held,dropped]
        · simp [gives,none,does.edit.entries lock here,Ne.symm here]
      · obtain ⟨got,gained,holds⟩ := does.gains (Life.sound life) stays
        by_cases here : lock = acting
        · rw [here,holds,gained]
          cases got <;> simp [gives]
        · rw [gained,does.edit.entries lock here]
          cases got <;> simp [gives,Ne.symm here]

def eve : ClientId := ⟨"eve"⟩
def jar : LockId := ⟨3⟩

def led (prompts : List Prompt) : List Deed × Borrower := (alone eve 2 true).follow [] (.new eve 2 true) prompts

theorem led_life (prompts : List Prompt) : Life eve 2 true (led prompts).1 (led prompts).2 :=
  (alone eve 2 true).follow_runs (.start rfl) prompts

-- What a client knows of a lock is right whatever it is told: the state says
-- which call is at work on the lock and whether a caller has it, and the count
-- says how many wait for it.
theorem Life.state_tells (life : Life id threshold hooked past b) (honesty : honest past = true) :
    (∀ lock,
      (b.workers .acquiring lock).card = (if (b.entry lock).state = .acquiring then 1 else 0) ∧
      (b.workers .releasing lock).card = (if (b.entry lock).state = .releasing then 1 else 0) ∧
      (inUse past).count lock = (if (b.entry lock).state = .held then 1 else 0) ∧
      (b.unanswered lock).card ≤ 1 ∧
      (b.entry lock).waiting = (b.callers lock).card) ∧
    ∀ now ∈ past, ∀ lock,
      (∀ k outcome, .done k .acquire lock outcome ∈ now.effects →
        (now.after.entry lock).waiting + 1 = (now.before.entry lock).waiting) ∧
      ((now.after.entry lock).state = (now.before.entry lock).state ∨
        (now.before.entry lock).state.leads (now.after.entry lock).state = true) := by
  refine ⟨fun lock => ⟨?_,?_,?_,?_,?_⟩,fun now member lock => ?_⟩
  · exact life.sound.workers_card rfl
  · exact life.sound.workers_card rfl
  · exact life.inUse_count honesty lock
  · exact life.sound.unanswered_card lock
  · exact life.counted lock
  · obtain ⟨_,before,_,ran⟩ := life.of_mem member
    obtain ⟨k,acting,e,after,does,_⟩ := prompted_does (Life.sound before).numbered ran
    constructor
    · intro j outcome ended
      obtain ⟨same,uncounts⟩ := does.uncounts (Life.sound before) (Life.counted before) ended
      rw [same,does.edit.entry]
      exact uncounts
    · by_cases here : lock = acting
      · rw [here,does.edit.entry]
        exact does.leads (Life.sound before)
      · exact .inl (congrArg Entry.state (does.edit.entries lock here))

-- The first caller's request fails after a revoke, the second one's is granted
-- late, the lock does not go back, and a third caller finds it here.
def trials : List Prompt :=
  [.begin .acquire jar,.begin .acquire jar,.retry jar,.advance 0,.advance 0,.advance 1,.advance 1,.advance 0,
    .begin .revoke jar,.answer 0 (.error (.malformed "cut")),.advance 0,.advance 1,.advance 1,.advance 1,
    .answer 1 (.ok .retry),.advance 1,.retry jar,.advance 1,.advance 1,.begin .acquire jar,.begin .release jar,.advance 4,
    .answer 4 (.ok .granted),.advance 4,.advance 3,.advance 3]

theorem state_tells_tried :
    (honest (led trials).1 = true ∧ inUse (led trials).1 = [jar] ∧ ((led trials).2.entry jar).revoked = true) ∧
    (∀ lock,
      ((led trials).2.workers .acquiring lock).card =
        (if ((led trials).2.entry lock).state = .acquiring then 1 else 0) ∧
      ((led trials).2.workers .releasing lock).card =
        (if ((led trials).2.entry lock).state = .releasing then 1 else 0) ∧
      (inUse (led trials).1).count lock = (if ((led trials).2.entry lock).state = .held then 1 else 0) ∧
      ((led trials).2.unanswered lock).card ≤ 1 ∧
      ((led trials).2.entry lock).waiting = ((led trials).2.callers lock).card) ∧
    ∀ now ∈ (led trials).1, ∀ lock,
      (∀ k outcome, .done k .acquire lock outcome ∈ now.effects →
        (now.after.entry lock).waiting + 1 = (now.before.entry lock).waiting) ∧
      ((now.after.entry lock).state = (now.before.entry lock).state ∨
        (now.before.entry lock).state.leads (now.after.entry lock).state = true) :=
  ⟨by decide,(led_life trials).state_tells (by decide)⟩

end Borrower
end LockLender
