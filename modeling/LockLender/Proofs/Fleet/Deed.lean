import LockLender.Fleet
import LockLender.Proofs.Borrower.Waiting
import LockLender.Proofs.Lender.Loan

namespace LockLender.Fleet
open Borrower

inductive Acts (fleet : Fleet) (client : ClientId) (input : Input) (k : Nat) (lock : LockId)
    (effects : List Effect) : Fleet → Prop where
  | intro (b next : Borrower) (e : Entry) (after : Option Call) (member : fleet.members.find? client = some b)
      (does : b.Does input k lock effects e after next) :
      Acts fleet client input k lock effects (fleet.record client next effects).1

inductive Did (fleet : Fleet) : Move → List Happening → Fleet → Prop where
  | begin (acts : fleet.Acts client (.begin purpose) k lock effects next) :
      Did fleet (.begin client purpose lock) (effects.map (client,·)) next
  | retry (acts : fleet.Acts client .retry k lock effects next) :
      Did fleet (.retry client lock) (effects.map (client,·)) next
  | advance (acts : fleet.Acts client .advance k lock effects next) :
      Did fleet (.advance client k) (effects.map (client,·)) next
  | serve (later : Lender) (told : List Notice) (out : fleet.requests.find? (client,k) = some request)
      (served : fleet.lender.serve request = (reply,told,later)) :
      Did fleet (.serve client k) [] ({ fleet with
        requests := fleet.requests.remove (client,k)
        replies := fleet.replies.put (client,k) (.ok reply) }.dispatch later told)
  | refuse (out : fleet.requests.find? (client,k) = some request) :
      Did fleet (.refuse client k fault) [] { fleet with
        requests := fleet.requests.remove (client,k)
        replies := fleet.replies.put (client,k) (.error fault) }
  | deliver (back : fleet.replies.find? (client,k) = some reply)
      (acts : { fleet with replies := fleet.replies.remove (client,k) }.Acts client (.answer reply) k lock [] next) :
      Did fleet (.deliver client k) [] next
  | lose (back : fleet.replies.find? (client,k) = some reply)
      (acts : { fleet with replies := fleet.replies.remove (client,k) }.Acts
        client (.answer (.error fault)) k lock [] next) :
      Did fleet (.lose client k fault) [] next
  | post (due : fleet.errands.find? n = some ⟨notice :: rest,false⟩) :
      Did fleet (.post n) [] { fleet with
        errands := fleet.errands.put n ⟨notice :: rest,true⟩
        notices := fleet.notices.put fleet.nextNotice notice
        nextNotice := fleet.nextNotice + 1 }
  | revoke (due : fleet.notices.find? n = some (.revoke client lock))
      (acts : { fleet with notices := fleet.notices.remove n }.Acts client (.begin .revoke) k lock effects next) :
      Did fleet (.arrive n) (effects.map (client,·)) next
  | signal (due : fleet.notices.find? n = some (.retry client lock))
      (acts : { fleet with notices := fleet.notices.remove n }.Acts client .retry k lock effects next) :
      Did fleet (.arrive n) (effects.map (client,·)) next
  | discard (due : fleet.notices.find? n = some notice) :
      Did fleet (.discard n) [] { fleet with notices := fleet.notices.remove n }
  | settle (due : fleet.errands.find? n = some ⟨notice :: rest,true⟩) :
      Did fleet (.settle n ok) [] { fleet with
        lender := fleet.lender.noticed notice ok
        errands := if rest = [] then fleet.errands.remove n else fleet.errands.put n ⟨rest,false⟩ }
  | direct (later : Lender) (told : List Notice) (served : fleet.lender.serve request = (reply,told,later)) :
      Did fleet (.direct request) [] (fleet.dispatch later told)

def Staffed (fleet : Fleet) : Prop :=
  ∀ client b, fleet.members.find? client = some b → b.Sound ∧ b.Counted ∧ b.Awake

variable {fleet next : Fleet} {client : ClientId} {lock : LockId} {k : Nat} {move : Move}
  {happenings : List Happening}

theorem begin_acts {purpose : Purpose} (staffed : fleet.Staffed)
    (ran : fleet.begin client purpose lock = some (next,happenings)) :
    ∃ k effects, fleet.Acts client (.begin purpose) k lock effects next ∧
      happenings = effects.map (client,·) := by
  unfold begin at ran
  cases member : fleet.members.find? client with
  | none => simp [member] at ran
  | some b =>
      rcases began : b.begin purpose lock with ⟨k,later,effects⟩
      obtain ⟨e,after,does⟩ := begin_does (staffed _ _ member).1.numbered began
      simp only [member,began,Option.bind_eq_bind,Option.bind_some,Option.pure_def,Option.some.injEq] at ran
      have acts := Acts.intro _ _ _ _ member does
      rw [ran] at acts
      exact ⟨_,_,acts,(congrArg Prod.snd ran).symm⟩

theorem retry_acts (staffed : fleet.Staffed) (ran : fleet.retry client lock = some (next,happenings)) :
    ∃ k effects, fleet.Acts client .retry k lock effects next ∧ happenings = effects.map (client,·) := by
  unfold retry at ran
  cases member : fleet.members.find? client with
  | none => simp [member] at ran
  | some b =>
      rcases retried : b.retry lock with ⟨later,effects⟩
      obtain ⟨e,after,does⟩ := retry_does (staffed _ _ member).1.numbered retried
      simp only [member,retried,Option.bind_eq_bind,Option.bind_some,Option.pure_def,Option.some.injEq] at ran
      have acts := Acts.intro _ _ _ _ member does
      rw [ran] at acts
      exact ⟨_,_,acts,(congrArg Prod.snd ran).symm⟩

theorem answer_acts {reply : Except LockFault Reply}
    (ran : fleet.answer client k reply = some (next,happenings)) :
    ∃ lock, { fleet with replies := fleet.replies.remove (client,k) }.Acts client (.answer reply) k lock [] next ∧
      happenings = [] := by
  unfold answer at ran
  cases member : fleet.members.find? client with
  | none => simp [member] at ran
  | some b =>
      cases answered : b.answer k reply with
      | none => simp [member,answered] at ran
      | some later =>
          obtain ⟨lock,e,after,does⟩ := answer_does answered
          simp only [member,answered,Option.bind_eq_bind,Option.bind_some,Option.pure_def,
            Option.some.injEq] at ran
          have acts : Acts { fleet with replies := fleet.replies.remove (client,k) } client (.answer reply) k lock []
              _ := .intro _ _ _ _ member does
          rw [ran] at acts
          exact ⟨lock,acts,(congrArg Prod.snd ran).symm⟩

theorem step_did (staffed : fleet.Staffed) (ran : fleet.step move = some (next,happenings)) :
    fleet.Did move happenings next := by
  cases move with
  | begin client purpose lock =>
      obtain ⟨k,effects,acts,rfl⟩ := begin_acts staffed ran
      exact .begin acts
  | retry client lock =>
      obtain ⟨k,effects,acts,rfl⟩ := retry_acts staffed ran
      exact .retry acts
  | advance client k =>
      simp only [step] at ran
      cases member : fleet.members.find? client with
      | none => simp [member] at ran
      | some b =>
          cases advanced : b.advance k with
          | none => simp [member,advanced] at ran
          | some outcome =>
              obtain ⟨effects,later⟩ := outcome
              obtain ⟨lock,e,after,does⟩ := advance_does advanced
              simp only [member,advanced,Option.bind_eq_bind,Option.bind_some,Option.pure_def,
                Option.some.injEq] at ran
              have acts := Acts.intro _ _ _ _ member does
              rw [ran] at acts
              have effected := congrArg Prod.snd ran
              change effects.map (client,·) = happenings at effected
              rw [← effected]
              exact .advance acts
  | serve client k =>
      simp only [step] at ran
      cases out : fleet.requests.find? (client,k) with
      | none => simp [out] at ran
      | some request =>
          simp only [out,Option.bind_eq_bind,Option.bind_some,Option.pure_def,Option.some.injEq,
            Prod.mk.injEq] at ran
          obtain ⟨rfl,rfl⟩ := ran
          exact .serve _ _ out rfl
  | refuse client k fault =>
      simp only [step] at ran
      cases out : fleet.requests.find? (client,k) with
      | none => simp [out] at ran
      | some request =>
          simp only [out,Option.bind_eq_bind,Option.bind_some,Option.pure_def,Option.some.injEq,
            Prod.mk.injEq] at ran
          obtain ⟨rfl,rfl⟩ := ran
          exact .refuse out
  | deliver client k =>
      simp only [step] at ran
      cases back : fleet.replies.find? (client,k) with
      | none => simp [back] at ran
      | some reply =>
          simp only [back,Option.bind_eq_bind,Option.bind_some] at ran
          obtain ⟨lock,acts,rfl⟩ := answer_acts ran
          exact .deliver back acts
  | lose client k fault =>
      simp only [step] at ran
      cases back : fleet.replies.find? (client,k) with
      | none => simp [back] at ran
      | some reply =>
          simp only [back,Option.bind_eq_bind,Option.bind_some] at ran
          obtain ⟨lock,acts,rfl⟩ := answer_acts ran
          exact .lose back acts
  | post n =>
      simp only [step] at ran
      cases due : fleet.errands.find? n with
      | none => simp [due] at ran
      | some errand =>
          obtain ⟨_ | ⟨notice,rest⟩,_ | _⟩ := errand
          · simp [due] at ran
          · simp [due] at ran
          · simp only [due,Option.bind_eq_bind,Option.bind_some,List.head?_cons,Bool.false_eq_true,if_false,
              Option.pure_def,Option.some.injEq,Prod.mk.injEq] at ran
            obtain ⟨rfl,rfl⟩ := ran
            exact .post due
          · simp [due] at ran
  | arrive n =>
      simp only [step] at ran
      cases due : fleet.notices.find? n with
      | none => simp [due] at ran
      | some notice =>
          obtain ⟨client,callback⟩ := notice
          simp only [due,Option.bind_eq_bind,Option.bind_some] at ran
          cases callback with
          | revoke lock =>
              obtain ⟨k,effects,acts,rfl⟩ := begin_acts (by exact staffed) ran
              exact .revoke due acts
          | retry lock =>
              obtain ⟨k,effects,acts,rfl⟩ := retry_acts (by exact staffed) ran
              exact .signal due acts
  | discard n =>
      simp only [step] at ran
      cases due : fleet.notices.find? n with
      | none => simp [due] at ran
      | some notice =>
          simp only [due,Option.bind_eq_bind,Option.bind_some,Option.pure_def,Option.some.injEq,
            Prod.mk.injEq] at ran
          obtain ⟨rfl,rfl⟩ := ran
          exact .discard due
  | settle n ok =>
      simp only [step] at ran
      cases due : fleet.errands.find? n with
      | none => simp [due] at ran
      | some errand =>
          obtain ⟨_ | ⟨notice,rest⟩,_ | _⟩ := errand
          · simp [due] at ran
          · simp [due] at ran
          · simp [due] at ran
          · simp only [due,Option.bind_eq_bind,Option.bind_some,List.head?_cons,List.tail_cons,Bool.not_true,
              Bool.false_eq_true,if_false,Option.pure_def,Option.some.injEq,Prod.mk.injEq] at ran
            obtain ⟨rfl,rfl⟩ := ran
            have did : fleet.Did (.settle n ok) [] _ := .settle due
            cases rest <;> exact did
  | direct request =>
      simp only [step,Option.some.injEq,Prod.mk.injEq] at ran
      obtain ⟨rfl,rfl⟩ := ran
      exact .direct _ _ rfl

end LockLender.Fleet
