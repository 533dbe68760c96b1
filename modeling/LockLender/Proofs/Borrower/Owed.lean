import LockLender.Proofs.Borrower.Life

namespace LockLender.Borrower

variable {id : ClientId} {threshold : Nat} {hooked : Bool} {past : List Deed} {b next : Borrower} {input : Input}
  {prompt : Prompt} {k : Nat} {lock : LockId} {effects : List Effect} {e : Entry} {after : Option Call} {now : Deed}

def Entry.Owed (e : Entry) : Prop := e.state = .releasing ∨ e.revoked = true

def Prompt.revokes (lock : LockId) : Prompt → Bool
  | .begin .revoke other => other = lock
  | _ => false

-- The lock was given back: the call that asked for that takes note of it.
def Deed.returns (now : Deed) (lock : LockId) : Bool :=
  match now.act with
  | .advance k =>
    match now.before.calls.find? k with
    | some ⟨_,other,.closing (.ok ())⟩ => other = lock
    | _ => false
  | _ => false

def takesBack : Except LockFault Reply → Bool
  | .ok .released | .ok (.noSuchLock _) => true
  | _ => false

def recalled (lock : LockId) : List Deed → Bool
  | [] => false
  | now :: past => now.act.revokes lock || recalled lock past && !now.returns lock

theorem takesBack_iff {reply : Except LockFault Reply} :
    takesBack reply = true ↔ afterReturn reply = .closing (.ok ()) := by
  cases reply with
  | error => simp [takesBack,afterReturn]
  | ok reply => cases reply <;> simp [takesBack,afterReturn]

theorem Act.closing {threshold : Nat} {before : Entry} {was : Option Call} {call : Call}
    (act : Act threshold k lock input before was effects e (some call)) (place : call.place = .closing (.ok ())) :
    ∃ reply, input = .answer reply ∧ takesBack reply = true := by
  cases act with
  | returnAnswered => exact ⟨_,rfl,takesBack_iff.mpr place⟩
  | askAnswered =>
      have duty := congrArg Place.duty place
      rw [duty_afterAsk] at duty
      cases duty
  | _ => cases place

-- Nothing but the server's word that it has the lock ends a return well.
theorem Life.closing_answered {call : Call} (life : Life id threshold hooked past b)
    (found : b.calls.find? k = some call) (place : call.place = .closing (.ok ())) :
    ∃ now ∈ past, ∃ reply, now.act = .answer k reply ∧ takesBack reply = true := by
  induction life with
  | start begins =>
      cases begins
      cases found
  | @step past b next effects prompt life _ ran ih =>
      obtain ⟨j,acting,e,after,does,names⟩ := prompted_does (Life.sound life).numbered ran
      by_cases same : k = j
      · subst same
        rw [does.edit.call] at found
        subst found
        obtain ⟨reply,answers,good⟩ := does.act.closing place
        cases prompt with
        | answer i given =>
            cases names
            cases answers
            exact ⟨_,List.mem_cons_self,reply,rfl,good⟩
        | begin | retry | advance => cases answers
      · rw [does.edit.calls k same] at found
        obtain ⟨now,member,answered⟩ := ih found
        exact ⟨now,List.mem_cons_of_mem _ member,answered⟩

theorem Life.returns_answered (life : Life id threshold hooked (now :: past) b) (returns : now.returns lock = true) :
    ∃ deed ∈ past, ∃ k reply, now.act = .advance k ∧ deed.act = .answer k reply ∧ takesBack reply = true := by
  cases life with
  | step life _ ran =>
      unfold Deed.returns at returns
      split at returns
      · rename_i k prompt
        split at returns
        · rename_i found
          obtain ⟨deed,member,reply,answered,good⟩ := Life.closing_answered life found rfl
          exact ⟨deed,member,k,reply,prompt,answered,good⟩
        · cases returns
      · cases returns

theorem Does.revoked (done : Does b (.begin .revoke) k lock effects e after next) : e.Owed := by
  have act := done.act
  generalize b.calls.find? k = was at act
  cases act with
  | surrender => exact .inl rfl
  | recalled away => exact .inl away
  | remember => exact .inr rfl

theorem Does.owes (done : Does b input k lock effects e after next) (sound : b.Sound) (owed : (b.entry lock).Owed)
    (unreturned : ∀ call, input = .advance → b.calls.find? k = some call → call.place ≠ .closing (.ok ())) :
    e.Owed := by
  have state := done.at_work sound
  -- Only a lock on its way back goes without the flag.
  have flag (here : (b.entry lock).state ≠ .releasing) : (b.entry lock).revoked = true := owed.resolve_left here
  have act := done.act
  generalize b.calls.find? k = was at act state unreturned
  cases act with
  | giveBack | surrender => exact .inl rfl
  | remember | reopened => exact .inr rfl
  | keep held => exact .inr (flag (by simp [held]))
  | hit _ _ free => exact .inr (flag (by simp [free]))
  | turnAsking _ _ idle => exact .inr (flag (by simp [idle]))
  | got place | gaveUp place =>
      have state := state _ rfl _ (by rw [place]; rfl)
      exact .inr (flag (by simp [state]))
  | closed place => exact absurd place (unreturned _ rfl rfl)
  | _ => exact owed

theorem Prompt.revokes_input (names : prompt.Names k lock) {other : LockId} (revokes : prompt.revokes other = true) :
    prompt.input = .begin .revoke ∧ other = lock := by
  cases prompt with
  | begin purpose third =>
      cases names
      cases purpose with
      | revoke => exact ⟨rfl,(of_decide_eq_true revokes).symm⟩
      | acquire | release => cases revokes
  | retry | advance | answer => cases revokes

theorem Life.owed (life : Life id threshold hooked past b) (wanted : recalled lock past = true) :
    (b.entry lock).Owed := by
  induction life with
  | start begins =>
      cases begins
      cases wanted
  | @step past b next effects prompt life _ ran ih =>
      obtain ⟨k,acting,e,after,does,names⟩ := prompted_does (Life.sound life).numbered ran
      simp only [recalled,Bool.or_eq_true,Bool.and_eq_true,Bool.not_eq_true'] at wanted
      rcases wanted with now | ⟨before,unreturned⟩
      · obtain ⟨revoke,rfl⟩ := Prompt.revokes_input names now
        rw [revoke] at does
        rw [does.edit.entry]
        exact does.revoked
      · by_cases here : lock = acting
        · subst here
          rw [does.edit.entry]
          refine does.owes (Life.sound life) (ih before) ?_
          intro call advances found closing
          have act := does.act
          rw [found] at act
          have own := act.own_before
          obtain ⟨purpose,other,place⟩ := call
          cases own
          cases closing
          cases prompt with
          | advance j =>
              cases names
              simp [Deed.returns,found] at unreturned
          | begin | retry | answer => cases advances
        · rw [does.edit.entries lock here]
          exact ih before

theorem Life.threshold_eq (life : Life id threshold hooked past b) : b.threshold = max threshold 1 := by
  induction life with
  | start begins =>
      cases begins
      rfl
  | step life _ ran ih =>
      obtain ⟨_,_,_,_,does,_⟩ := prompted_does (Life.sound life).numbered ran
      exact does.edit.threshold.trans ih

theorem release_gives (sound : b.Sound) (held : (b.entry lock).state = .held) (wanted : (b.entry lock).revoked = true)
    (few : (b.entry lock).waiting < b.threshold) : ∃ k next, b.begin .release lock = (k,next,[]) ∧
      (next.entry lock).state = .releasing ∧ next.calls.find? k = some ⟨.release,lock,.returning⟩ := by
  rcases ran : b.begin .release lock with ⟨k,next,effects⟩
  obtain ⟨e,after,does⟩ := begin_does sound.numbered ran
  have entry := does.edit.entry
  have call := does.edit.call
  have act := does.act
  generalize b.calls.find? k = was at act
  cases act with
  | misplaced unheld => exact absurd held unheld
  | keep _ needed => exact absurd few (Nat.not_lt.mpr (needed wanted))
  | giveBack => exact ⟨k,next,rfl,by rw [entry],call⟩

theorem Act.returning {threshold : Nat} {before : Entry} {call : Call}
    (act : Act threshold k lock input before (some call) effects e after) (place : call.place = .returning) :
    input = .advance := by
  cases act with
  | askAnswered asked =>
      rw [place] at asked
      cases asked
  | returnAnswered returned =>
      rw [place] at returned
      cases returned
  | _ => rfl

theorem Life.returning {further : List Deed} {call : Call} (life : Life id threshold hooked (further ++ now :: past) b)
    (found : now.after.calls.find? k = some call) (place : call.place = .returning)
    (waits : ∀ deed ∈ further, deed.act ≠ .advance k) : b.calls.find? k = some call := by
  induction further generalizing b with
  | nil =>
      cases life with
      | step => exact found
  | cons deed further ih =>
      cases life with
      | @step _ before _ _ prompt life _ ran =>
          have there := ih life fun other member => waits other (List.mem_cons_of_mem _ member)
          obtain ⟨j,acting,e,after,does,names⟩ := prompted_does (Life.sound life).numbered ran
          by_cases same : k = j
          · subst same
            have act := does.act
            rw [there] at act
            have advances := act.returning place
            cases prompt with
            | advance =>
                cases names
                exact absurd rfl (waits _ List.mem_cons_self)
            | begin | retry | answer => cases advances
          · rw [does.edit.calls k same]
            exact there

theorem returning_sends {call : Call} (found : b.calls.find? k = some call) (place : call.place = .returning) :
    ∃ effects next, b.advance k = some (effects,next) ∧ .giveBack k call.lock ∈ effects := by
  unfold advance
  simp only [found,Option.bind_eq_bind,Option.bind_some,place]
  exact ⟨_,_,rfl,List.mem_append_right _ (List.mem_singleton.mpr rfl)⟩

-- A revoke stays in mind until the lock has gone back, whatever fails meanwhile,
-- and a release that finds few callers waiting does nothing but send the lock back.
theorem Life.revoke_remembered (life : Life id threshold hooked past b) (wanted : recalled lock past = true) :
    ((b.entry lock).state = .releasing ∨ (b.entry lock).revoked = true) ∧
    ((b.entry lock).state = .held → (b.entry lock).waiting < max threshold 1 →
      ∃ k next, b.begin .release lock = (k,next,[]) ∧ (next.entry lock).state = .releasing ∧
        ∀ further later, Life id threshold hooked (further ++ ⟨b,.begin .release lock,[],next⟩ :: past) later →
          (∀ deed ∈ further, deed.act ≠ .advance k) →
          ∃ effects last, later.advance k = some (effects,last) ∧ .giveBack k lock ∈ effects) := by
  have owed := life.owed wanted
  refine ⟨owed,fun held few => ?_⟩
  have flag : (b.entry lock).revoked = true := owed.resolve_left (by simp [held])
  obtain ⟨k,next,ran,state,call⟩ := release_gives life.sound held flag (life.threshold_eq ▸ few)
  refine ⟨k,next,ran,state,?_⟩
  intro further later life waits
  exact returning_sends (life.returning call rfl waits) rfl

theorem revoke_remembered_tried :
    (recalled jar (led trials).1 = true ∧ ((led trials).2.entry jar).state = .held ∧
      ((led trials).2.entry jar).waiting < max 2 1) ∧
    (((led trials).2.entry jar).state = .releasing ∨ ((led trials).2.entry jar).revoked = true) ∧
    (((led trials).2.entry jar).state = .held → ((led trials).2.entry jar).waiting < max 2 1 →
      ∃ k next, (led trials).2.begin .release jar = (k,next,[]) ∧ (next.entry jar).state = .releasing ∧
        ∀ further later,
          Life eve 2 true (further ++ ⟨(led trials).2,.begin .release jar,[],next⟩ :: (led trials).1) later →
          (∀ deed ∈ further, deed.act ≠ .advance k) →
          ∃ effects last, later.advance k = some (effects,last) ∧ .giveBack k jar ∈ effects) :=
  ⟨by decide,(led_life trials).revoke_remembered (by decide)⟩

end LockLender.Borrower
