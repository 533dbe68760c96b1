import LockLender.Proofs.Borrower.Toll
import LockLender.Proofs.Fleet.Accord

namespace LockLender
open Borrower

inductive Parting where
  | hook
  | sent
  deriving DecidableEq, Repr

def Borrower.Effect.parting (lock : LockId) : Effect → Option Parting
  | .hook other => if other = lock then some .hook else none
  | .giveBack _ other => if other = lock then some .sent else none
  | _ => none

namespace Borrower
variable {b next : Borrower} {prompt : Prompt} {input : Input} {k : Nat} {lock third : LockId} {effects : List Effect}
  {e before : Entry} {call? after : Option Call} {call : Call} {threshold : Nat}

theorem Act.partings (act : Act threshold k lock input before call? effects e after) :
    (∀ third, effects.filterMap (Effect.parting third) = []) ∨
      input = .advance ∧ ∃ call, call? = some call ∧ call.place = .returning := by
  cases act with
  | send place => exact .inr ⟨rfl,_,rfl,place⟩
  | _ => exact .inl fun _ => rfl

theorem advance_returning (found : b.calls.find? k = some call) (place : call.place = .returning)
    (ran : b.advance k = some (effects,next)) :
    effects = (if b.hooked then [.hook call.lock] else []) ++ [.giveBack k call.lock] := by
  simp only [advance,found,Option.bind_eq_bind,Option.bind_some,place] at ran
  cases Option.some.inj ran
  rfl

theorem prompted_partings (sound : b.Sound) (hooked : b.hooked = true)
    (ran : b.prompted prompt = some (next,effects)) (third : LockId) :
    effects.filterMap (Effect.parting third) = [] ∨ effects.filterMap (Effect.parting third) = [.hook,.sent] := by
  obtain ⟨k,lock,e,after,does,names⟩ := prompted_does sound.numbered ran
  rcases does.act.partings with none | ⟨advances,call,found,place⟩
  · exact .inl (none third)
  · cases prompt with
    | advance j =>
        cases names
        obtain ⟨⟨done,later⟩,acted,same⟩ := Option.map_eq_some_iff.mp ran
        cases same
        rw [advance_returning found place acted,if_pos hooked]
        by_cases here : call.lock = third
        · exact .inr (by simp [Effect.parting,here])
        · exact .inl (by simp [Effect.parting,here])
    | begin | retry | answer => cases advances

theorem Act.hooks (act : Act threshold k lock input before call? effects e after) (hook : .hook third ∈ effects) :
    third = lock ∧ input = .advance ∧ .giveBack k lock ∈ effects ∧
      ∃ call, call? = some call ∧ call.lock = lock ∧ call.place = .returning ∧
        after = some { call with place := .returned } := by
  cases act with
  | send place own hooks only =>
      refine ⟨?_,rfl,by simp,_,rfl,own,place,rfl⟩
      rcases only with rfl | rfl
      · simp at hook
      · simpa using hook
  | _ => simp at hook

theorem Act.returned (act : Act threshold k lock input before (some call) effects e after)
    (place : call.place = .returned) : ∃ reply, input = .answer reply := by
  cases act with
  | askAnswered | returnAnswered => exact ⟨_,rfl⟩
  | watchLock stands | watchSignal stands => rcases stands with stands | stands <;> simp [place] at stands
  | hit stands | turnAsking stands | park stands | ask stands | heed stands | doze stands | got stands
  | gaveUp stands | send stands | closed stands | reopened stands => simp [place] at stands

theorem Call.due_of_returning (place : call.place = .returning) (reply : Option (Except LockFault Reply)) :
    call.due reply = .returning := by
  unfold due
  cases reply <;> simp [place]

theorem Does.release_unheld (does : b.Does (.begin .release) k lock effects e after next)
    (unheld : (b.entry lock).state ≠ .held) :
    effects.filterMap Effect.acquired = [] ∧ (next.entry lock).state ≠ .held := by
  have entry := does.edit.entry
  have act := does.act
  generalize b.calls.find? k = was at act
  cases act with
  | misplaced => exact ⟨rfl,entry ▸ unheld⟩
  | giveBack held | keep held => exact absurd held unheld

end Borrower
namespace Fleet

-- No request fails but before it reaches the lender, and nobody but the clients
-- and the lender speaks.
def Move.candid : Move → Bool
  | .begin _ .revoke _ | .retry .. | .lose .. | .direct (.acquire ..) | .direct (.release ..) => false
  | _ => true

def candid (past : History) : Bool := past.all (·.act.candid)

def Moment.gets (now : Moment) : List Hold := now.effects.filterMap Happening.gets

def Moment.partings (now : Moment) (client : ClientId) (lock : LockId) : List Parting :=
  (now.effects.filter (·.1 = client)).filterMap (·.2.parting lock)

def partings (client : ClientId) (lock : LockId) : History → List Parting
  | [] => []
  | now :: past => partings client lock past ++ now.partings client lock

variable {past later earlier : History} {fleet next before : Fleet} {client actor other : ClientId} {input : Input}
  {j k : Nat} {lock third : LockId} {effects : List Effect} {move : Move} {happenings : List Happening} {now : Moment}
  {b : Borrower} {call : Call}

inductive Enacts (members : Table ClientId Borrower) : List Happening → Table ClientId Borrower → Prop where
  | rest : Enacts members [] members
  | act (actor : ClientId) (b later : Borrower) (prompt : Prompt) (effects : List Effect)
      (member : members.find? actor = some b) (ran : b.prompted prompt = some (later,effects)) :
      Enacts members (effects.map (actor,·)) (members.put actor later)

theorem begin_enacts {purpose : Purpose} (ran : fleet.begin client purpose lock = some (next,happenings)) :
    Enacts fleet.members happenings next.members := by
  unfold begin at ran
  cases member : fleet.members.find? client with
  | none => simp [member] at ran
  | some b =>
      simp only [member,Option.bind_eq_bind,Option.bind_some,Option.pure_def] at ran
      cases Option.some.inj ran
      exact .act client b _ (.begin purpose lock) _ member rfl

theorem retry_enacts (ran : fleet.retry client lock = some (next,happenings)) :
    Enacts fleet.members happenings next.members := by
  unfold retry at ran
  cases member : fleet.members.find? client with
  | none => simp [member] at ran
  | some b =>
      simp only [member,Option.bind_eq_bind,Option.bind_some,Option.pure_def] at ran
      cases Option.some.inj ran
      exact .act client b _ (.retry lock) _ member rfl

theorem answer_enacts {reply : Except LockFault Reply} (ran : fleet.answer client k reply = some (next,happenings)) :
    Enacts fleet.members happenings next.members := by
  unfold answer at ran
  cases member : fleet.members.find? client with
  | none => simp [member] at ran
  | some b =>
      cases answered : b.answer k reply with
      | none => simp [member,answered] at ran
      | some later =>
          simp only [member,answered,Option.bind_eq_bind,Option.bind_some,Option.pure_def] at ran
          cases Option.some.inj ran
          exact .act client b later (.answer k reply) [] member (by simp [prompted,answered])

theorem step_enacts (staffed : fleet.Staffed) (ran : fleet.step move = some (next,happenings)) :
    Enacts fleet.members happenings next.members := by
  cases move with
  | begin client purpose lock => exact begin_enacts ran
  | retry client lock => exact retry_enacts ran
  | advance client k =>
      simp only [step] at ran
      cases member : fleet.members.find? client with
      | none => simp [member] at ran
      | some b =>
          cases advanced : b.advance k with
          | none => simp [member,advanced] at ran
          | some outcome =>
              obtain ⟨effects,later⟩ := outcome
              simp only [member,advanced,Option.bind_eq_bind,Option.bind_some,Option.pure_def] at ran
              cases Option.some.inj ran
              exact .act client b later (.advance k) effects member (by simp [prompted,advanced])
  | deliver client k =>
      simp only [step] at ran
      cases back : fleet.replies.find? (client,k) with
      | none => simp [back] at ran
      | some reply =>
          simp only [back,Option.bind_eq_bind,Option.bind_some] at ran
          exact answer_enacts ran
  | lose client k fault =>
      simp only [step] at ran
      cases back : fleet.replies.find? (client,k) with
      | none => simp [back] at ran
      | some reply =>
          simp only [back,Option.bind_eq_bind,Option.bind_some] at ran
          exact answer_enacts ran
  | arrive n =>
      simp only [step] at ran
      cases due : fleet.notices.find? n with
      | none => simp [due] at ran
      | some notice =>
          obtain ⟨client,callback⟩ := notice
          simp only [due,Option.bind_eq_bind,Option.bind_some] at ran
          cases callback with
          | revoke lock =>
              have acted := begin_enacts ran
              exact acted
          | retry lock =>
              have acted := retry_enacts ran
              exact acted
  | serve client k =>
      cases step_did staffed ran with
      | serve later told =>
          rw [(dispatch_frame _ later told).1]
          exact .rest
  | direct request =>
      cases step_did staffed ran with
      | direct later told =>
          rw [(dispatch_frame _ later told).1]
          exact .rest
  | refuse | post | discard | settle =>
      cases step_did staffed ran
      exact .rest

theorem partings_other (client : ClientId) (lock : LockId) (differ : client ≠ actor) (effects : List Effect) :
    Moment.partings ⟨fleet,move,effects.map (actor,·),next⟩ client lock = [] := by
  have none : (effects.map (actor,·)).filter (·.1 = client) = [] := by
    rw [List.filter_eq_nil_iff]
    intro happening member
    obtain ⟨_,_,rfl⟩ := List.mem_map.mp member
    simpa using Ne.symm differ
  simp [Moment.partings,none]

theorem partings_own (client : ClientId) (lock : LockId) (effects : List Effect) :
    Moment.partings ⟨fleet,move,effects.map (client,·),next⟩ client lock =
      effects.filterMap (Effect.parting lock) := by
  have all : (effects.map (client,·)).filter (·.1 = client) = effects.map (client,·) := by
    rw [List.filter_eq_self]
    intro happening member
    obtain ⟨_,_,rfl⟩ := List.mem_map.mp member
    simp
  simp [Moment.partings,all,List.filterMap_map]

theorem Course.hook_first (course : Course past fleet) (member : fleet.members.find? client = some b)
    (hooked : b.hooked = true) (lock : LockId) :
    ∃ n, partings client lock past = (List.replicate n [.hook,.sent]).flatten := by
  induction course generalizing b with
  | start => exact ⟨0,rfl⟩
  | @step past fleet next happenings move course _ ran ih =>
      have staffed := (Course.intact course).staffed
      have enacted := step_enacts staffed ran
      generalize found : next.members = members at enacted
      rw [found] at member
      cases enacted with
      | rest =>
          obtain ⟨n,before⟩ := ih member hooked
          exact ⟨n,by simp [Fleet.partings,Moment.partings,before]⟩
      | act actor old later prompt effects acting acted =>
          by_cases same : client = actor
          · subst same
            rw [Table.find?_put_self] at member
            cases member
            have hooked : old.hooked = true := (prompted_counts acted).hooked.symm.trans hooked
            obtain ⟨n,before⟩ := ih acting hooked
            rw [Fleet.partings,partings_own,before]
            rcases prompted_partings (staffed _ _ acting).1 hooked acted lock with none | both
            · exact ⟨n,by rw [none,List.append_nil]⟩
            · exact ⟨n + 1,by simp [both,List.replicate_succ']⟩
          · rw [Table.find?_put_ne _ _ same] at member
            obtain ⟨n,before⟩ := ih member hooked
            exact ⟨n,by rw [Fleet.partings,partings_other _ _ same,before,List.append_nil]⟩

theorem state_congr (members : next.members = fleet.members) (client : ClientId) (lock : LockId) :
    next.state client lock = fleet.state client lock := by
  unfold state entry
  rw [members]

theorem state_record (fleet : Fleet) (client : ClientId) (b : Borrower) (effects : List Effect) (other : ClientId)
    (lock : LockId) : (fleet.record client b effects).1.state other lock =
      if other = client then (b.entry lock).state else fleet.state other lock := by
  unfold state entry
  rw [members_record]
  by_cases same : other = client <;> simp [same]

theorem Acts.holds_count (acts : before.Acts actor input k third effects next) (staffed : before.Staffed)
    (gives : input = .begin .release ∧ move.gives = [(actor,third)] ∨ input ≠ .begin .release ∧ move.gives = [])
    (count : ∀ client lock, (holds past).count (client,lock) = if before.state client lock = .held then 1 else 0)
    (client : ClientId) (lock : LockId) :
    (holds (⟨fleet,move,effects.map (actor,·),next⟩ :: past)).count (client,lock) =
      if next.state client lock = .held then 1 else 0 := by
  cases acts with
  | intro b later e after member does =>
      have sound := (staffed _ _ member).1
      have was (lock : LockId) : before.state actor lock = (b.entry lock).state := by
        rw [state,entry_of_member member]
      have elsewhere (differ : (client,lock) ≠ (actor,third)) :
          (before.record actor later effects).1.state client lock = before.state client lock := by
        rw [state_record]
        by_cases same : client = actor
        · subst same
          rw [if_pos rfl,was,does.edit.entries lock fun same => differ (by rw [same])]
        · rw [if_neg same]
      have became : (before.record actor later effects).1.state actor third = (later.entry third).state := by
        rw [state_record,if_pos rfl]
      rcases gives with ⟨rfl,gives⟩ | ⟨stays,gives⟩
      · have none : effects.filterMap Effect.acquired = [] ∧ (later.entry third).state ≠ .held := by
          by_cases held : (b.entry third).state = .held
          · exact does.drops sound held
          · exact does.release_unheld held
        have gained : effects.filterMap Effect.acquired = if false then [third] else [] := none.1
        rw [holds_act fleet _ move actor gained,gives,count]
        by_cases here : (client,lock) = (actor,third)
        · cases here
          rw [became,if_neg none.2,List.count_singleton_self]
          split <;> rfl
        · rw [elsewhere here,List.count_eq_zero.mpr fun member => here (List.mem_singleton.mp member)]
          simp
      · obtain ⟨got,gained,holds⟩ := does.gains sound stays
        rw [holds_act fleet _ move actor gained,gives,count]
        by_cases here : (client,lock) = (actor,third)
        · cases here
          rw [became,holds,was]
          simp
        · rw [elsewhere here]
          simp [here]

theorem Course.holds_count (course : Course past fleet) (client : ClientId) (lock : LockId) :
    (holds past).count (client,lock) = if fleet.state client lock = .held then 1 else 0 := by
  induction course generalizing client lock with
  | start begins =>
      obtain ⟨roll,rfl⟩ := begins
      have idle : (Fleet.start roll).state client lock = .idle := by
        unfold state entry
        rw [start_member]
        cases roll.find? client <;> rfl
      rw [idle]
      rfl
  | @step past fleet next happenings move course _ ran ih =>
      have staffed := (Course.intact course).staffed
      cases step_did staffed ran with
      | @begin actor purpose k third effects next acts =>
          refine acts.holds_count staffed ?_ ih client lock
          cases purpose with
          | release => exact .inl ⟨rfl,rfl⟩
          | acquire | revoke => exact .inr ⟨nofun,rfl⟩
      | retry acts | advance acts => exact acts.holds_count staffed (.inr ⟨nofun,rfl⟩) ih client lock
      | revoke _ acts | signal _ acts => exact acts.holds_count staffed (.inr ⟨nofun,rfl⟩) ih client lock
      | deliver _ acts | lose _ acts => exact acts.holds_count staffed (.inr ⟨nofun,rfl⟩) ih client lock
      | serve later told =>
          rw [holds_quiet _ _ _ rfl,ih,state_congr (dispatch_frame _ later told).1]
          rfl
      | direct later told => rw [holds_quiet _ _ _ rfl,ih,state_congr (dispatch_frame _ later told).1]
      | refuse | post | discard | settle => exact (holds_quiet _ _ _ rfl _).trans (ih client lock)

theorem candid_sole (candid : move.candid = true) :
    move.poses client = false ∧ ¬ fleet.Loses client lock move := by
  have heard : ¬ fleet.Loses client lock move := by
    rintro ⟨k,fault,_,rfl,_⟩
    cases candid
  refine ⟨?_,heard⟩
  cases move with
  | begin _ purpose =>
      cases purpose with
      | acquire | release => rfl
      | revoke => cases candid
  | retry => cases candid
  | direct request =>
      cases request with
      | acquire | release => cases candid
      | stat => rfl
  | _ => rfl

theorem Course.agrees (course : Course past fleet) (honest : candid past = true) (client : ClientId) (lock : LockId) :
    fleet.Agrees client lock := by
  induction course with
  | start begins =>
      obtain ⟨roll,rfl⟩ := begins
      exact start_agrees roll client lock
  | step course _ ran ih =>
      obtain ⟨now,before⟩ := Bool.and_eq_true_iff.mp honest
      obtain ⟨sole,heard⟩ := candid_sole now
      have intact := Course.intact course
      exact (step_did intact.staffed ran).agrees intact (Course.orderly course lock) sole heard (ih before)

theorem Acts.hook (acts : fleet.Acts actor input k third effects next)
    (hook : (client,.hook lock) ∈ effects.map (actor,·)) :
    ∃ k call, fleet.call? client k = some call ∧ call.lock = lock ∧ call.place = .returning ∧
      (client,.giveBack k lock) ∈ effects.map (actor,·) ∧
      next.call? client k = some { call with place := .returned } := by
  obtain ⟨effect,done,same⟩ := List.mem_map.mp hook
  cases same
  cases acts with
  | intro b later e after member does =>
      obtain ⟨rfl,_,sends,call,found,own,place,became⟩ := does.act.hooks done
      refine ⟨k,call,?_,own,place,List.mem_map_of_mem sends,?_⟩
      · rw [call?_of_member member,found]
      · rw [call?_record member does,if_pos rfl,became]

theorem Did.hook (did : fleet.Did move happenings next) (hook : (client,.hook lock) ∈ happenings) :
    (∃ k call, fleet.call? client k = some call ∧ call.lock = lock ∧ call.place = .returning ∧
      (client,.giveBack k lock) ∈ happenings ∧ next.call? client k = some { call with place := .returned }) ∧
    next.lender = fleet.lender := by
  cases did with
  | begin acts | retry acts | advance acts => exact ⟨acts.hook hook,acts.post.1⟩
  | revoke _ acts | signal _ acts => exact ⟨acts.hook hook,acts.post.1⟩
  | _ => cases hook

theorem Acts.waits (acts : fleet.Acts actor input j third effects next) (waits : fleet.call? client k = some call)
    (place : call.place = .returned) (apart : (client,k) ≠ (actor,j) ∨ ∀ reply, input ≠ .answer reply) :
    next.call? client k = some call := by
  cases acts with
  | intro b later e after member does =>
      rw [call?_record member does]
      by_cases acting : (client,k) = (actor,j)
      · cases acting
        rw [call?_of_member member] at waits
        have act := does.act
        rw [waits] at act
        obtain ⟨reply,answered⟩ := act.returned place
        exact absurd answered (apart.resolve_left (by simp) reply)
      · rw [if_neg acting]
        exact waits

theorem Did.waits (did : fleet.Did move happenings next) (honest : move.candid = true)
    (undelivered : move ≠ .deliver client k) (waits : fleet.call? client k = some call)
    (place : call.place = .returned) : next.call? client k = some call := by
  cases did with
  | begin acts | retry acts | advance acts => exact acts.waits waits place (.inr nofun)
  | revoke _ acts | signal _ acts => exact acts.waits waits place (.inr nofun)
  | deliver _ acts =>
      refine acts.waits waits place (.inl fun same => undelivered ?_)
      cases same
      rfl
  | lose => cases honest
  | serve later told | direct later told =>
      unfold call?
      rw [(dispatch_frame _ later told).1]
      exact waits
  | refuse | post | discard | settle => exact waits

theorem Acts.gets (acts : fleet.Acts actor input k third effects next) (own : ∀ reply, input ≠ .answer reply)
    (staffed : fleet.Staffed) (mailed : fleet.Mailed)
    (got : (client,lock) ∈ (effects.map (actor,·)).filterMap Happening.gets) :
    (fleet.seat client lock).stage = .free ∨ (fleet.seat client lock).stage = .granted := by
  obtain ⟨took,step,acquired⟩ := acts.seat_step own staffed mailed
  rw [gets_map,acquired] at got
  cases took with
  | false => simp at got
  | true =>
      obtain ⟨rfl,rfl⟩ : client = actor ∧ lock = third := by simpa using got
      generalize fleet.seat client lock = before, next.seat client lock = after at step ⊢
      cases step with
      | hit free => exact .inl free
      | got granted => exact .inr granted

theorem Did.gets (did : fleet.Did move happenings next) (intact : fleet.Intact)
    (got : (client,lock) ∈ Moment.gets ⟨fleet,move,happenings,next⟩) :
    (fleet.seat client lock).stage = .free ∨ (fleet.seat client lock).stage = .granted := by
  cases did with
  | begin acts | retry acts | advance acts => exact acts.gets nofun intact.staffed intact.mailed got
  | revoke _ acts | signal _ acts => exact acts.gets nofun intact.staffed intact.mailed got
  | _ => cases got

theorem Moment.Deals.stays (deals : now.Deals lock) (own : now.before.owner lock = some client)
    (kept : now.request ≠ some (.release lock client)) : now.after.owner lock = some client := by
  unfold owner at own ⊢
  cases deals with
  | rest same => rw [same,own]
  | asked other status request asked =>
      generalize now.told = told, now.after.lender.loan lock = after at asked ⊢
      cases asked with
      | free free =>
          rw [own] at free
          cases free
      | own | again | queue => exact own
  | returned other request returned =>
      have apart : (now.before.lender.loan lock).owner ≠ some other := by
        intro same
        rw [own] at same
        cases same
        exact kept request
      generalize now.told = told, now.after.lender.loan lock = after at returned ⊢
      cases returned with
      | stranger => exact own
      | freed same | passed same => exact absurd same apart
  | failed n other _ _ _ lender =>
      rw [lender,(Lender.failed_changes _ _ _).1,Loan.forget_owner,own]

theorem Course.gets_owner (course : Course (now :: past) fleet) (honest : candid past = true)
    (got : (client,lock) ∈ now.gets) : now.before.owner lock = some client ∧
      now.before.state client lock ≠ .releasing := by
  cases course with
  | @step _ fleet _ _ move course _ ran =>
      have intact := Course.intact course
      have stage := (step_did intact.staffed ran).gets intact got
      have agrees := Course.agrees course honest client lock
      rw [← seat_state intact.staffed]
      rcases stage with free | granted
      · simp only [Agrees,Seat.Fits,free] at agrees
        exact ⟨agrees.2.1.mpr id,by simp [free,Stage.state]⟩
      · simp only [Agrees,Seat.Fits,granted] at agrees
        exact ⟨agrees.1,by simp [granted,Stage.state]⟩

theorem Course.hook_owner (course : Course (now :: past) fleet) (honest : candid past = true)
    (hook : (client,.hook lock) ∈ now.effects) : now.before.owner lock = some client ∧
      now.after.owner lock = some client ∧ ∃ k call, (client,.giveBack k lock) ∈ now.effects ∧
        call.lock = lock ∧ call.place = .returned ∧ now.after.call? client k = some call := by
  cases course with
  | @step _ before _ _ move course _ ran =>
      have intact := Course.intact course
      have did := step_did intact.staffed ran
      obtain ⟨⟨k,call,found,here,place,sends,became⟩,lender⟩ := did.hook hook
      have own : before.owner lock = some client := by
        have agrees := Course.agrees course honest client lock
        obtain ⟨b,member,found⟩ := Option.bind_eq_some_iff.mp found
        have stage : (before.seat client lock).stage = .returning := by
          rw [seat_of_member member,← here]
          apply (intact.staffed _ _ member).1.stage_of_due found
          rw [Call.due_of_returning place]
          rfl
        simp only [Agrees,Seat.Fits,stage] at agrees
        exact agrees.2.1.mpr id
      refine ⟨own,?_,k,{ call with place := .returned },sends,here,rfl,became⟩
      unfold owner at own ⊢
      rw [lender,own]

theorem state_releasing (staffed : fleet.Staffed) (waits : fleet.call? client k = some call)
    (place : call.place = .returned) : fleet.state client call.lock = .releasing := by
  obtain ⟨b,member,found⟩ := Option.bind_eq_some_iff.mp waits
  rw [state,entry_of_member member]
  apply (staffed _ _ member).1.fits call.lock k
  exact crew_eq_some.mpr ⟨call,found,rfl,by rw [place]; rfl⟩

theorem release_sole (intact : fleet.Intact) (waits : fleet.call? client k = some call)
    (place : call.place = .returned) (out : fleet.requests.find? (client,j) = some (.release call.lock client)) :
    j = k := by
  obtain ⟨b,member,found⟩ := Option.bind_eq_some_iff.mp waits
  have mail := intact.mailed client j
  rw [out,call?_of_member member] at mail
  obtain ⟨other,there,awaits⟩ := Option.bind_eq_some_iff.mp mail.of_request.1
  have same : other.place = .returned ∧ other.lock = call.lock := by
    unfold Call.awaits at awaits
    split at awaits <;> simp_all
  apply (intact.staffed _ _ member).1.sole call.lock
  · unfold duty
    rw [crew_eq_some.mpr ⟨other,there,same.2,by rw [same.1]; rfl⟩]
    exact Option.some_ne_none _
  · unfold duty
    rw [crew_eq_some.mpr ⟨call,found,rfl,by rw [place]; rfl⟩]
    exact Option.some_ne_none _

theorem Course.waits (course : Course (later ++ now :: earlier) fleet)
    (honest : candid (later ++ now :: earlier) = true) (undelivered : ∀ moment ∈ later, moment.act ≠ .deliver client k)
    (waits : now.after.call? client k = some call) (place : call.place = .returned) :
    fleet.call? client k = some call := by
  induction later generalizing fleet with
  | nil =>
      cases course
      exact waits
  | cons moment later ih =>
      cases course with
      | step course _ ran =>
          obtain ⟨move,before⟩ := Bool.and_eq_true_iff.mp honest
          have there := ih course before fun other member => undelivered other (List.mem_cons_of_mem _ member)
          exact (step_did (Course.intact course).staffed ran).waits move (undelivered _ List.mem_cons_self) there place

theorem Course.stays (course : Course (later ++ now :: earlier) fleet)
    (kept : ∀ moment ∈ later, moment.request ≠ some (.release lock client))
    (own : now.after.owner lock = some client) : fleet.owner lock = some client := by
  induction later generalizing fleet with
  | nil =>
      cases course
      exact own
  | cons moment later ih =>
      have deals := course.deals lock
      cases course with
      | step course _ ran =>
          have there := ih course fun other member => kept other (List.mem_cons_of_mem _ member)
          exact deals.stays there (kept _ List.mem_cons_self)

theorem candid_suffix (honest : candid past = true) (suffix : earlier <:+ past) : candid earlier = true :=
  List.all_eq_true.mpr fun now member => List.all_eq_true.mp honest now (suffix.subset member)

theorem Course.between {moment : Moment} (course : Course (later ++ now :: earlier) fleet)
    (honest : candid (later ++ now :: earlier) = true) (member : moment ∈ later) :
    ∃ mid, mid ⊆ later ∧ candid (mid ++ now :: earlier) = true ∧
      Course (mid ++ now :: earlier) moment.before ∧ Course (moment :: (mid ++ now :: earlier)) moment.after := by
  obtain ⟨last,mid,rfl⟩ := List.append_of_mem member
  have suffix : moment :: (mid ++ now :: earlier) <:+ (last ++ moment :: mid) ++ now :: earlier :=
    ⟨last,by simp⟩
  refine ⟨mid,fun _ member => by simp [member],?_,course.at_suffix suffix⟩
  exact candid_suffix honest ((List.suffix_cons moment _).trans suffix)

theorem Course.unheld (course : Course (later ++ now :: earlier) fleet)
    (honest : candid (later ++ now :: earlier) = true)
    (undelivered : ∀ moment ∈ later, moment.act ≠ .deliver client k)
    (waits : now.after.call? client k = some call) (place : call.place = .returned) :
    (client,call.lock) ∉ holds (later ++ now :: earlier) ∧
      (∀ moment ∈ later, (client,call.lock) ∉ moment.gets) ∧
      ∀ j, fleet.requests.find? (client,j) = some (.release call.lock client) → j = k := by
  have there := course.waits honest undelivered waits place
  refine ⟨?_,?_,fun j => release_sole course.intact there place⟩
  · rw [← List.count_eq_zero,course.holds_count,state_releasing course.intact.staffed there place]
    rfl
  · intro moment member got
    obtain ⟨mid,among,fair,before,after⟩ := course.between honest member
    have waiting := before.waits fair (fun other member => undelivered other (among member)) waits place
    exact (after.gets_owner fair got).2 (state_releasing before.intact.staffed waiting place)

theorem Course.unshared (course : Course (later ++ now :: earlier) fleet)
    (honest : candid (later ++ now :: earlier) = true)
    (kept : ∀ moment ∈ later, moment.request ≠ some (.release lock client))
    (own : now.after.owner lock = some client) :
    fleet.owner lock = some client ∧ ∀ moment ∈ later, ∀ other, other ≠ client → (other,lock) ∉ moment.gets := by
  refine ⟨course.stays kept own,?_⟩
  intro moment member other differ got
  obtain ⟨mid,among,fair,before,after⟩ := course.between honest member
  have lent := before.stays (fun other member => kept other (among member)) own
  exact differ (Option.some.inj ((after.gets_owner fair got).1.symm.trans lent))

-- The hook runs once before each request that gives the lock back, while the lock
-- still is the client's. No caller of the client has it from then on until the
-- reply is there, and nobody else gets it before the lender serves the request.
theorem Course.hook_guarded (course : Course past fleet) (honest : candid past = true) (client : ClientId)
    (lock : LockId) :
    (∀ b, fleet.members.find? client = some b → b.hooked = true →
      ∃ n, partings client lock past = (List.replicate n [.hook,.sent]).flatten) ∧
    ∀ later now earlier, past = later ++ now :: earlier → (client,.hook lock) ∈ now.effects →
      now.before.owner lock = some client ∧ ∃ k, (client,.giveBack k lock) ∈ now.effects ∧
        ((∀ moment ∈ later, moment.act ≠ .deliver client k) →
          (client,lock) ∉ holds past ∧ (∀ moment ∈ later, (client,lock) ∉ moment.gets) ∧
          ∀ j, fleet.requests.find? (client,j) = some (.release lock client) → j = k) ∧
        ((∀ moment ∈ later, moment.request ≠ some (.release lock client)) →
          fleet.owner lock = some client ∧
          ∀ moment ∈ later, ∀ other, other ≠ client → (other,lock) ∉ moment.gets) := by
  refine ⟨fun b member hooked => course.hook_first member hooked lock,?_⟩
  rintro later now earlier rfl hook
  have suffix : now :: earlier <:+ later ++ now :: earlier := List.suffix_append _ _
  have fair := candid_suffix honest ((List.suffix_cons now earlier).trans suffix)
  have there : Course (now :: earlier) now.after := (course.at_suffix suffix).2
  obtain ⟨own,owned,k,call,sends,rfl,place,waits⟩ := there.hook_owner fair hook
  refine ⟨own,k,sends,?_,?_⟩
  · exact fun undelivered => course.unheld honest undelivered waits place
  · exact fun kept => course.unshared honest kept owned

-- Bob waits for the lock. Ada's request to take it back is out when one of her
-- callers asks for it again.
def flushed : History × Fleet := followed [(ada,(1,true)),(bob,(1,true))]
  (asks ada 0 pen ++ asks bob 0 pen ++ [.advance bob 0] ++ tells 0 ++
    [.begin ada .release pen,.advance ada 2,.begin ada .acquire pen,.advance ada 3])

theorem hook_guarded_flushed : partings ada pen flushed.1 = [.hook,.sent] ∧ (ada,pen) ∉ holds flushed.1 ∧
    flushed.2.owner pen = some ada ∧
    ∃ now ∈ flushed.1, (ada,.hook pen) ∈ now.effects ∧ now.before.owner pen = some ada := by
  let now := flushed.1.get ⟨2,by decide⟩
  have split : flushed.1 = flushed.1.take 2 ++ now :: flushed.1.drop 3 := by
    rw [show now :: flushed.1.drop 3 = flushed.1.drop 2 by rfl,List.take_append_drop]
  have hook : (ada,.hook pen) ∈ now.effects := List.mem_of_mem_head? rfl
  have moves : (flushed.1.take 2).map (·.act) = [.advance ada 3,.begin ada .acquire pen] := rfl
  have undelivered (k : Nat) : ∀ moment ∈ flushed.1.take 2, moment.act ≠ .deliver ada k := by
    intro moment member same
    have among : moment.act ∈ (flushed.1.take 2).map (·.act) := List.mem_map_of_mem member
    rw [moves,same] at among
    simp at among
  have unserved : ∀ moment ∈ flushed.1.take 2, moment.request ≠ some (.release pen ada) := by decide
  have course : Course flushed.1 flushed.2 := followed_course _ _
  obtain ⟨own,k,_,unheld,unshared⟩ := (course.hook_guarded (by decide) ada pen).2 _ _ _ split hook
  exact ⟨by decide,(unheld (undelivered k)).1,(unshared unserved).1,now,split ▸ by simp,hook,own⟩

end Fleet
end LockLender
