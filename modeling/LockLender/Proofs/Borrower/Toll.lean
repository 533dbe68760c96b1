import LockLender.Proofs.Borrower.Owed
import LockLender.Proofs.Lock

namespace LockLender.Borrower

@[simp] def Effect.asked : Effect → Option LockId
  | .ask _ lock => some lock
  | _ => none

@[simp] def Effect.sent : Effect → Option LockId
  | .giveBack _ lock => some lock
  | _ => none

@[simp] def Place.looks : Place → Bool
  | .looking => true
  | _ => false

@[simp] def Place.closes : Place → Bool
  | .closing (.ok _) => true
  | _ => false

-- An acquire that was granted the lock, one that has its turn and will ask, a
-- call that will give the lock back, and one that has sent it.
@[simp] def Place.granted : Place → Bool
  | .settling (.ok _) => true
  | _ => false

@[simp] def Place.turning : Place → Bool
  | .asking => true
  | _ => false

@[simp] def Place.leaving : Place → Bool
  | .returning => true
  | _ => false

@[simp] def Place.gone : Place → Bool
  | .returned | .closing _ => true
  | _ => false

@[simp] def Place.sent : Place → Bool
  | .returned => true
  | _ => false

@[simp] def Place.failed : Place → Bool
  | .settling (.error _) | .closing (.error _) => true
  | _ => false

namespace Deed

def asked (now : Deed) : List LockId := now.effects.filterMap Effect.asked
def sent (now : Deed) : List LockId := now.effects.filterMap Effect.sent
def got (now : Deed) : List LockId := now.effects.filterMap Effect.acquired

def moved (now : Deed) (p : Place → Bool) : List LockId :=
  match now.act with
  | .advance k => ((now.before.calls.find? k).toList.filter fun call => p call.place).map (·.lock)
  | _ => []

-- The locks that an acquire found here unused, and those of which the server
-- has taken back what was sent.
def found (now : Deed) : List LockId :=
  (now.moved Place.looks).filter fun lock => (now.before.entry lock).state = .cachedFree

def returned (now : Deed) : List LockId := now.moved Place.closes

def completed (now : Deed) : List LockId :=
  match now.act with
  | .answer k reply =>
    ((now.before.calls.find? k).toList.filter fun call => call.place.sent && takesBack reply).map (·.lock)
  | _ => []

def wanted (now : Deed) : List LockId :=
  match now.act with
  | .begin .revoke lock => [lock]
  | _ => []

-- The server grants a lock at once or later, and takes back what it is sent.
def obliged (now : Deed) : Bool :=
  match now.act with
  | .answer k reply =>
    match (now.before.calls.find? k).map (·.place),reply with
    | some Place.asked,.ok .granted | some Place.asked,.ok .retry => true
    | some Place.returned,.ok .released | some Place.returned,.ok (.noSuchLock _) => true
    | _,_ => false
  | _ => true

end Deed

def standing (b : Borrower) (p : Place → Bool) (lock : LockId) : Finset Nat :=
  (Finset.range b.nextCall).filter fun k => b.crew (fun _ call => some (p call.place)) lock k = some true

def stands (p : Place → Bool) (call : Option Call) : Nat := if call.any (p ·.place) then 1 else 0

variable {b next : Borrower} {prompt : Prompt} {input : Input} {k : Nat} {lock : LockId} {effects : List Effect}
  {e : Entry} {after : Option Call} {id : ClientId} {threshold : Nat} {hooked : Bool} {past : List Deed}

structure Deed.Counts (now : Deed) : Prop where
  asked : now.after.stats.acquireRpcs = now.before.stats.acquireRpcs + now.asked.length
  sent : now.after.stats.releaseRpcs = now.before.stats.releaseRpcs + now.sent.length
  found : now.after.stats.cacheHits = now.before.stats.cacheHits + now.found.length
  wanted : now.after.stats.revokesReceived = now.before.stats.revokesReceived + now.wanted.length
  hooked : now.after.hooked = now.before.hooked

theorem begin_counts {purpose : Purpose} (ran : b.begin purpose lock = (k,next,effects)) :
    Deed.Counts ⟨b,.begin purpose lock,effects,next⟩ := by
  cases purpose with
  | acquire =>
      cases ran
      exact ⟨rfl,rfl,rfl,rfl,rfl⟩
  | release =>
      simp only [begin,release,brief,openCall,change] at ran
      split at ran
      · cases ran
        exact ⟨rfl,rfl,rfl,rfl,rfl⟩
      split at ran
      · cases ran
        exact ⟨rfl,rfl,rfl,rfl,rfl⟩
      split at ran
      · cases ran
        exact ⟨rfl,rfl,rfl,rfl,rfl⟩
      · cases ran
        exact ⟨rfl,rfl,rfl,rfl,rfl⟩
  | revoke =>
      simp only [begin,revoke,brief,openCall,write] at ran
      split at ran
      · cases ran
        exact ⟨rfl,rfl,rfl,rfl,rfl⟩
      · cases ran
        exact ⟨rfl,rfl,rfl,rfl,rfl⟩
      · cases ran
        exact ⟨rfl,rfl,rfl,rfl,rfl⟩

theorem retry_counts (ran : b.retry lock = (next,effects)) : Deed.Counts ⟨b,.retry lock,effects,next⟩ := by
  simp only [retry,change,write] at ran
  split at ran
  · cases ran
    exact ⟨rfl,rfl,rfl,rfl,rfl⟩
  · cases ran
    exact ⟨rfl,rfl,rfl,rfl,rfl⟩

theorem answer_counts {reply : Except LockFault Reply} (ran : b.answer k reply = some next) :
    Deed.Counts ⟨b,.answer k reply,[],next⟩ := by
  unfold answer at ran
  cases found : b.calls.find? k with
  | none => simp [found] at ran
  | some call =>
      simp only [found,Option.bind_eq_bind,Option.bind_some] at ran
      split at ran
      · cases Option.some.inj ran
        exact ⟨rfl,rfl,rfl,rfl,rfl⟩
      · cases Option.some.inj ran
        exact ⟨rfl,rfl,rfl,rfl,rfl⟩
      · cases ran

theorem look_counts {call : Call} (found : b.calls.find? k = some call) (place : call.place = .looking)
    (ran : b.look k call = (effects,next)) : Deed.Counts ⟨b,.advance k,effects,next⟩ := by
  simp only [look,finish,move,write] at ran
  split at ran
  · rename_i free
    cases ran
    exact ⟨rfl,rfl,by simp [Deed.found,Deed.moved,found,place,free],rfl,rfl⟩
  · rename_i idle
    cases ran
    exact ⟨rfl,rfl,by simp [Deed.found,Deed.moved,found,place,idle],rfl,rfl⟩
  · rename_i taken _
    cases ran
    have used : (b.entry call.lock).state ≠ .cachedFree := taken
    exact ⟨rfl,rfl,by simp [Deed.found,Deed.moved,found,place,used],rfl,rfl⟩

theorem advance_counts (ran : b.advance k = some (effects,next)) : Deed.Counts ⟨b,.advance k,effects,next⟩ := by
  unfold advance at ran
  cases found : b.calls.find? k with
  | none => simp [found] at ran
  | some call =>
      simp only [found,Option.bind_eq_bind,Option.bind_some] at ran
      have none (elsewhere : call.place.looks = false) (same : next.stats.cacheHits = b.stats.cacheHits) :
          next.stats.cacheHits = b.stats.cacheHits + (Deed.found ⟨b,.advance k,effects,next⟩).length := by
        simp [Deed.found,Deed.moved,found,elsewhere,same,-Place.looks]
      cases place : call.place with
      | looking =>
          simp only [place] at ran
          exact look_counts found place (Option.some.inj ran)
      | asked | returned => simp [place] at ran
      | arriving | asking | queued =>
          simp only [place] at ran
          cases Option.some.inj ran
          exact ⟨rfl,rfl,none (by rw [place]; rfl) rfl,rfl,rfl⟩
      | parked | dozing =>
          simp only [place] at ran
          split at ran
          · cases ran
          · cases Option.some.inj ran
            exact ⟨rfl,rfl,none (by rw [place]; rfl) rfl,rfl,rfl⟩
      | watching =>
          simp only [place] at ran
          split at ran
          · cases Option.some.inj ran
            exact ⟨rfl,rfl,none (by rw [place]; rfl) rfl,rfl,rfl⟩
          · cases Option.some.inj ran
            exact ⟨rfl,rfl,none (by rw [place]; rfl) rfl,rfl,rfl⟩
      | settling outcome =>
          simp only [place] at ran
          cases outcome with
          | ok =>
              cases Option.some.inj ran
              exact ⟨rfl,rfl,none (by rw [place]; rfl) rfl,rfl,rfl⟩
          | error =>
              cases Option.some.inj ran
              exact ⟨rfl,rfl,none (by rw [place]; rfl) rfl,rfl,rfl⟩
      | returning =>
          simp only [place] at ran
          cases Option.some.inj ran
          refine ⟨?_,?_,none (by rw [place]; rfl) rfl,rfl,rfl⟩
          · cases hooks : b.hooked <;> rfl
          · cases hooks : b.hooked <;> rfl
      | closing outcome =>
          simp only [place] at ran
          cases Option.some.inj ran
          exact ⟨rfl,rfl,none (by rw [place]; rfl) rfl,rfl,rfl⟩

theorem prompted_counts (ran : b.prompted prompt = some (next,effects)) : Deed.Counts ⟨b,prompt,effects,next⟩ := by
  cases prompt with
  | begin purpose lock =>
      rcases acted : b.begin purpose lock with ⟨k,later,done⟩
      simp only [prompted,acted,Option.some.injEq,Prod.mk.injEq] at ran
      obtain ⟨rfl,rfl⟩ := ran
      exact begin_counts acted
  | retry lock => exact retry_counts (Option.some.inj ran)
  | advance k =>
      obtain ⟨⟨done,later⟩,acted,same⟩ := Option.map_eq_some_iff.mp ran
      cases same
      exact advance_counts acted
  | answer k reply =>
      obtain ⟨later,acted,same⟩ := Option.map_eq_some_iff.mp ran
      cases same
      exact answer_counts acted

theorem mem_standing {p : Place → Bool} (numbered : b.Numbered) : k ∈ b.standing p lock ↔
    b.crew (fun _ call => some (p call.place)) lock k = some true := by
  rw [standing,Finset.mem_filter,Finset.mem_range,and_iff_right_iff_imp]
  intro seen
  obtain ⟨call,found,_⟩ := crew_eq_some.mp seen
  exact numbered _ _ found

theorem Does.standing_other (done : Does b input k lock effects e after next) (numbered : b.Numbered)
    {other : LockId} (differ : other ≠ lock) (p : Place → Bool) : next.standing p other = b.standing p other := by
  ext j
  rw [mem_standing (done.numbered numbered),mem_standing numbered,done.crew_other _ differ]

theorem Does.standing_card (done : Does b input k lock effects e after next) (numbered : b.Numbered)
    (p : Place → Bool) : (next.standing p lock).card + stands p (b.calls.find? k) =
      (b.standing p lock).card + stands p after := by
  have before : k ∈ b.standing p lock ↔ (b.calls.find? k).any (p ·.place) = true := by
    rw [mem_standing numbered,done.crew_before]
    cases b.calls.find? k <;> simp
  have later : k ∈ next.standing p lock ↔ after.any (p ·.place) = true := by
    rw [mem_standing (done.numbered numbered),done.crew_after]
    cases after <;> simp
  have rest : (next.standing p lock).erase k = (b.standing p lock).erase k := by
    ext j
    simp only [Finset.mem_erase,and_congr_right_iff]
    intro differ
    rw [mem_standing (done.numbered numbered),mem_standing numbered,done.crew_rest _ differ]
  have split (s : Finset Nat) : s.card = (s.erase k).card + if k ∈ s then 1 else 0 := by
    split
    · rename_i there
      exact (Finset.card_erase_add_one there).symm
    · rename_i absent
      rw [Finset.erase_eq_of_notMem absent]
      rfl
  simp only [stands,← before,← later]
  rw [split (next.standing p lock),split (b.standing p lock),rest]
  omega

structure Toll where
  asked : Nat := 0
  sent : Nat := 0
  got : Nat := 0
  found : Nat := 0
  returned : Nat := 0
  completed : Nat := 0
  wanted : Nat := 0

structure Deed.Pays (now : Deed) (lock : LockId) (toll : Toll) : Prop where
  asked : now.asked = List.replicate toll.asked lock
  sent : now.sent = List.replicate toll.sent lock
  got : now.got = List.replicate toll.got lock
  found : now.found = List.replicate toll.found lock
  returned : now.returned = List.replicate toll.returned lock
  completed : now.completed = List.replicate toll.completed lock
  wanted : now.wanted = List.replicate toll.wanted lock

@[simp] def Entry.busy (e : Entry) : Nat := if e.state ≠ .idle then 1 else 0
@[simp] def Entry.acquiring (e : Entry) : Nat := if e.state = .acquiring then 1 else 0
@[simp] def Entry.owing (e : Entry) : Nat := if e.revoked = true ∧ e.state ≠ .releasing then 1 else 0

structure Toll.Balances (toll : Toll) (before : Entry) (call : Option Call) (e : Entry) (after : Option Call) :
    Prop where
  asked : toll.asked + stands Place.turning after + before.busy =
    toll.returned + stands Place.turning call + e.busy
  sent : toll.returned + stands Place.gone after = toll.sent + stands Place.gone call
  completed : toll.completed + stands Place.closes call = toll.returned + stands Place.closes after
  wanted : toll.sent + stands Place.leaving after + e.owing ≤ toll.wanted + stands Place.leaving call + before.owing
  got : toll.got + stands Place.turning call + e.acquiring =
    toll.found + toll.asked + stands Place.turning after + before.acquiring

def Willing (b : Borrower) : Prop := ∀ k call, b.calls.find? k = some call → call.place.failed = false

theorem Does.pays_begin {purpose : Purpose} (done : Does b (.begin purpose) k lock effects e after next) :
    ∃ toll : Toll, Deed.Pays ⟨b,.begin purpose lock,effects,next⟩ lock toll ∧
      toll.Balances (b.entry lock) (b.calls.find? k) e after := by
  have act := done.act
  generalize b.calls.find? k = was at act
  cases act with
  | acquire => exact ⟨{},⟨rfl,rfl,rfl,rfl,rfl,rfl,rfl⟩,⟨rfl,rfl,rfl,Nat.le_refl _,rfl⟩⟩
  | misplaced => exact ⟨{},⟨rfl,rfl,rfl,rfl,rfl,rfl,rfl⟩,⟨rfl,rfl,rfl,Nat.le_refl _,rfl⟩⟩
  | giveBack held wanted =>
      refine ⟨{},⟨rfl,rfl,rfl,rfl,rfl,rfl,rfl⟩,?_⟩
      constructor <;> simp [stands,held,wanted]
  | keep held =>
      refine ⟨{},⟨rfl,rfl,rfl,rfl,rfl,rfl,rfl⟩,?_⟩
      constructor <;> simp [held]
  | surrender free =>
      refine ⟨{ wanted := 1 },⟨rfl,rfl,rfl,rfl,rfl,rfl,rfl⟩,?_⟩
      constructor <;> simp [stands,free]
  | recalled => exact ⟨{ wanted := 1 },⟨rfl,rfl,rfl,rfl,rfl,rfl,rfl⟩,⟨rfl,rfl,rfl,by simp,rfl⟩⟩
  | remember =>
      refine ⟨{ wanted := 1 },⟨rfl,rfl,rfl,rfl,rfl,rfl,rfl⟩,⟨rfl,rfl,rfl,?_,rfl⟩⟩
      simp only [Entry.owing]
      split <;> omega

theorem Does.moved (done : Does b .advance k lock effects e after next) (p : Place → Bool) :
    Deed.moved ⟨b,.advance k,effects,next⟩ p = List.replicate (stands p (b.calls.find? k)) lock := by
  have act := done.act
  cases found : b.calls.find? k with
  | none => simp [Deed.moved,found,stands]
  | some call =>
      rw [found] at act
      cases there : p call.place <;> simp [Deed.moved,found,stands,there,act.own_before]

theorem Does.completed {reply : Except LockFault Reply} (done : Does b (.answer reply) k lock effects e after next) :
    Deed.completed ⟨b,.answer k reply,effects,next⟩ =
      List.replicate (if takesBack reply then stands Place.sent (b.calls.find? k) else 0) lock := by
  have act := done.act
  cases found : b.calls.find? k with
  | none => simp [Deed.completed,found,stands]
  | some call =>
      rw [found] at act
      have own := act.own_before
      cases good : takesBack reply with
      | false => simp [Deed.completed,good]
      | true => cases there : call.place.sent <;> simp [Deed.completed,found,stands,there,good,own,-Place.sent]

def stepToll (e : Entry) (call : Option Call) : Toll where
  asked := stands Place.turning call
  sent := stands Place.leaving call
  got := stands Place.granted call + if e.state = .cachedFree then stands Place.looks call else 0
  found := if e.state = .cachedFree then stands Place.looks call else 0
  returned := stands Place.closes call

theorem Does.pays_advance (done : Does b .advance k lock effects e after next) (sound : b.Sound)
    (willing : b.Willing) :
    effects.filterMap Effect.asked = List.replicate (stands Place.turning (b.calls.find? k)) lock ∧
    effects.filterMap Effect.sent = List.replicate (stands Place.leaving (b.calls.find? k)) lock ∧
    effects.filterMap Effect.acquired = List.replicate (stepToll (b.entry lock) (b.calls.find? k)).got lock ∧
      (stepToll (b.entry lock) (b.calls.find? k)).Balances (b.entry lock) (b.calls.find? k) e after := by
  have state := done.at_work sound
  have purposed := sound.purposed k
  have willing := willing k
  have act := done.act
  generalize b.calls.find? k = was at act state purposed willing
  cases act with
  | watchLock place | watchSignal place =>
      rcases place with place | place
      · refine ⟨?_,?_,?_,⟨?_,?_,?_,?_,?_⟩⟩ <;> simp [stepToll,stands,place]
      · refine ⟨?_,?_,?_,⟨?_,?_,?_,?_,?_⟩⟩ <;> simp [stepToll,stands,place]
  | hit place own free =>
      have purpose := (purposed _ rfl).mpr (by simp [place,Place.duty])
      refine ⟨?_,?_,?_,⟨?_,?_,?_,?_,?_⟩⟩ <;> simp [stepToll,stands,place,free,purpose,Effect.acquired]
  | turnAsking place _ idle => refine ⟨?_,?_,?_,⟨?_,?_,?_,?_,?_⟩⟩ <;> simp [stepToll,stands,place,idle]
  | park place _ busy =>
      have used : (b.entry lock).state ≠ .cachedFree := by
        intro free
        simp [free,LockState.busy] at busy
      refine ⟨?_,?_,?_,⟨?_,?_,?_,?_,?_⟩⟩ <;> simp [stepToll,stands,place,used]
  | ask place | heed place | doze place =>
      refine ⟨?_,?_,?_,⟨?_,?_,?_,?_,?_⟩⟩ <;> simp [stepToll,stands,place,Effect.acquired]
  | got place =>
      have purpose := (purposed _ rfl).mpr (by simp [place,Place.duty])
      have state := state _ rfl _ (by rw [place]; rfl)
      refine ⟨?_,?_,?_,⟨?_,?_,?_,?_,?_⟩⟩ <;> simp [stepToll,stands,place,state,purpose,Effect.acquired]
  | gaveUp place => simp [place] at willing
  | send place _ hooks only =>
      rcases only with rfl | rfl
      · refine ⟨?_,?_,?_,⟨?_,?_,?_,?_,?_⟩⟩ <;> simp [stepToll,stands,place,Effect.acquired,List.filterMap_cons]
      · refine ⟨?_,?_,?_,⟨?_,?_,?_,?_,?_⟩⟩ <;> simp [stepToll,stands,place,Effect.acquired,List.filterMap_cons]
  | @closed _ call place =>
      have purpose : call.purpose ≠ .acquire := fun acquire => (purposed _ rfl).mp acquire (by rw [place]; rfl)
      have state := state _ rfl _ (by rw [place]; rfl)
      refine ⟨?_,?_,?_,⟨?_,?_,?_,?_,?_⟩⟩ <;> simp [stepToll,stands,place,state,purpose,Effect.acquired]
  | reopened place => simp [place] at willing

theorem Does.pays (done : Does b prompt.input k lock effects e after next) (names : prompt.Names k lock)
    (sound : b.Sound) (willing : b.Willing) : ∃ toll : Toll, Deed.Pays ⟨b,prompt,effects,next⟩ lock toll ∧
      toll.Balances (b.entry lock) (b.calls.find? k) e after := by
  cases prompt with
  | begin purpose other =>
      cases names
      exact done.pays_begin
  | retry other =>
      cases names
      have act : Act b.threshold k lock .retry (b.entry lock) (b.calls.find? k) effects e after := done.act
      generalize b.calls.find? k = was at act
      cases act with
      | signal | stale => exact ⟨{},⟨rfl,rfl,rfl,rfl,rfl,rfl,rfl⟩,⟨rfl,rfl,rfl,Nat.le_refl _,rfl⟩⟩
  | advance j =>
      cases names
      obtain ⟨asked,sent,got,balances⟩ := Does.pays_advance done sound willing
      refine ⟨stepToll (b.entry lock) (b.calls.find? k),⟨asked,sent,got,?_,Does.moved done _,rfl,rfl⟩,balances⟩
      simp only [Deed.found,Does.moved done,stepToll]
      split
      · rename_i free
        simp [free]
      · rename_i used
        simp [used]
  | answer j reply =>
      cases names
      have completed := Does.completed done
      have act : Act b.threshold k lock (.answer reply) (b.entry lock) (b.calls.find? k) effects e after := done.act
      obtain rfl : effects = [] := by
        generalize b.calls.find? k = was at act
        cases act <;> rfl
      refine ⟨{ completed := if takesBack reply then stands Place.sent (b.calls.find? k) else 0 },
        ⟨rfl,rfl,rfl,rfl,rfl,completed,rfl⟩,?_⟩
      generalize b.calls.find? k = was at act ⊢
      cases act with
      | askAnswered place => rcases reply with _ | _ | _ <;> constructor <;> simp [stands,place,afterAsk]
      | returnAnswered place =>
          rcases reply with _ | _ | _ <;> constructor <;> simp [stands,place,afterReturn,takesBack]

theorem Does.willing (done : Does b prompt.input k lock effects e after next) (names : prompt.Names k lock)
    (willing : b.Willing) (obliged : Deed.obliged ⟨b,prompt,effects,next⟩ = true) : next.Willing := by
  intro j call found
  by_cases same : j = k
  · subst same
    rw [done.edit.call] at found
    subst found
    have act := done.act
    cases prompt with
    | answer i reply =>
        cases names
        simp only [Deed.obliged] at obliged
        generalize b.calls.find? j = was at act obliged
        cases act with
        | askAnswered place =>
            simp only [Option.map_some,place] at obliged
            cases reply with
            | error => cases obliged
            | ok reply =>
                cases reply with
                | granted | retry => rfl
                | _ => cases obliged
        | returnAnswered place =>
            simp only [Option.map_some,place] at obliged
            cases reply with
            | error => cases obliged
            | ok reply =>
                cases reply with
                | released | noSuchLock => rfl
                | _ => cases obliged
    | begin | retry | advance =>
        generalize b.calls.find? j = was at act
        cases act <;> rfl
  · exact willing j call (done.edit.calls j same ▸ found)

-- What was paid for one lock since the beginning.
structure Ledger (past : List Deed) (b : Borrower) (lock : LockId) : Prop where
  asked : (past.flatMap Deed.asked).count lock + (b.standing Place.turning lock).card =
    (past.flatMap Deed.returned).count lock + (b.entry lock).busy
  sent : (past.flatMap Deed.returned).count lock + (b.standing Place.gone lock).card =
    (past.flatMap Deed.sent).count lock
  completed : (past.flatMap Deed.completed).count lock =
    (past.flatMap Deed.returned).count lock + (b.standing Place.closes lock).card
  wanted : (past.flatMap Deed.sent).count lock + (b.standing Place.leaving lock).card + (b.entry lock).owing ≤
    (past.flatMap Deed.wanted).count lock
  got : (past.flatMap Deed.got).count lock + (b.entry lock).acquiring = (past.flatMap Deed.found).count lock +
    (past.flatMap Deed.asked).count lock + (b.standing Place.turning lock).card

theorem Does.ledger (done : Does b prompt.input k lock effects e after next) (names : prompt.Names k lock)
    (sound : b.Sound) (willing : b.Willing) {other : LockId} (ledger : Ledger past b other) :
    Ledger (⟨b,prompt,effects,next⟩ :: past) next other := by
  obtain ⟨toll,pays,balances⟩ := done.pays names sound willing
  obtain ⟨asked,sent,completed,wanted,got⟩ := ledger
  by_cases here : other = lock
  · subst here
    have turning := done.standing_card sound.numbered Place.turning
    have gone := done.standing_card sound.numbered Place.gone
    have closes := done.standing_card sound.numbered Place.closes
    have leaving := done.standing_card sound.numbered Place.leaving
    obtain ⟨asked',sent',completed',wanted',got'⟩ := balances
    constructor <;> simp only [List.flatMap_cons,List.count_append,pays.asked,pays.sent,pays.got,pays.found,
      pays.returned,pays.completed,pays.wanted,List.count_replicate_self,done.edit.entry] <;> omega
  · have none (n : Nat) : (List.replicate n lock).count other = 0 := by
      rw [List.count_replicate]
      simp [Ne.symm here]
    constructor <;> simpa only [List.flatMap_cons,List.count_append,pays.asked,pays.sent,pays.got,pays.found,
      pays.returned,pays.completed,pays.wanted,none,Nat.zero_add,done.edit.entries other here,
      done.standing_other sound.numbered here]

def obliging (past : List Deed) : Bool := past.all Deed.obliged

theorem Life.ledger (life : Life id threshold hooked past b) (obliged : obliging past = true) :
    b.Willing ∧ ∀ lock, Ledger past b lock := by
  induction life with
  | start begins =>
      cases begins
      exact ⟨nofun,fun lock => ⟨rfl,rfl,rfl,Nat.le_refl _,rfl⟩⟩
  | step life _ ran ih =>
      simp only [obliging,List.all_cons,Bool.and_eq_true] at obliged ih
      obtain ⟨now,before⟩ := obliged
      obtain ⟨willing,ledger⟩ := ih before
      obtain ⟨k,lock,e,after,does,names⟩ := prompted_does (Life.sound life).numbered ran
      exact ⟨does.willing names willing now,fun other => does.ledger names (Life.sound life) willing (ledger other)⟩

theorem Life.counts (life : Life id threshold hooked past b) :
    b.stats.acquireRpcs = (past.flatMap Deed.asked).length ∧ b.stats.releaseRpcs = (past.flatMap Deed.sent).length ∧
      b.stats.cacheHits = (past.flatMap Deed.found).length ∧
      b.stats.revokesReceived = (past.flatMap Deed.wanted).length := by
  induction life with
  | start begins =>
      cases begins
      exact ⟨rfl,rfl,rfl,rfl⟩
  | step life _ ran ih =>
      obtain ⟨asked,sent,found,wanted,_⟩ := prompted_counts ran
      obtain ⟨asked',sent',found',wanted'⟩ := ih
      dsimp only at asked sent found wanted
      simp only [List.flatMap_cons,List.length_append]
      omega

theorem Sound.turning_acquiring (sound : b.Sound) (other : (b.entry lock).state ≠ .acquiring) :
    (b.standing Place.turning lock).card = 0 := by
  rw [Finset.card_eq_zero,Finset.eq_empty_iff_forall_notMem]
  intro k member
  obtain ⟨call,found,own,turning⟩ := crew_eq_some.mp ((mem_standing sound.numbered).mp member)
  apply other
  apply sound.fits lock k
  apply crew_eq_some.mpr
  refine ⟨call,found,own,?_⟩
  cases place : call.place <;> simp [place] at turning
  rfl

theorem Does.got_held (done : Does b input k lock effects e after next) (sound : b.Sound) {other : LockId}
    (got : other ∈ effects.filterMap Effect.acquired) : other = lock ∧ (next.entry lock).state = .held := by
  by_cases release : input = .begin .release
  · subst release
    have act := done.act
    generalize b.calls.find? k = was at act
    cases act <;> cases got
  · obtain ⟨took,gained,holds⟩ := done.gains sound release
    rw [gained] at got
    cases took with
    | false => cases got
    | true =>
        refine ⟨List.mem_singleton.mp got,?_⟩
        by_contra unheld
        rw [if_neg unheld] at holds
        simp at holds

theorem Life.paid (life : Life id threshold hooked past b) (obliged : obliging past = true)
    (got : lock ∈ past.flatMap Deed.got) : lock ∈ past.flatMap Deed.asked := by
  induction life with
  | start begins =>
      cases begins
      cases got
  | @step past b next effects prompt life _ ran ih =>
      have later : Life id threshold hooked _ next := life.step trivial ran
      obtain ⟨k,acting,e,after,does,names⟩ := prompted_does (Life.sound life).numbered ran
      rw [List.flatMap_cons,List.mem_append] at got ⊢
      rcases got with now | before
      · obtain ⟨rfl,held⟩ := does.got_held (Life.sound life) now
        have asked := ((later.ledger obliged).2 lock).asked
        have idle : (next.standing Place.turning lock).card = 0 := later.sound.turning_acquiring (by simp [held])
        have busy : (next.entry lock).busy = 1 := by simp [held]
        rw [idle,busy] at asked
        rw [← List.mem_append,← List.flatMap_cons]
        apply List.count_pos_iff.mp
        omega
      · simp only [obliging,List.all_cons,Bool.and_eq_true] at obliged ih
        exact .inr (ih obliged.2 before)

noncomputable def poised (b : Borrower) (p : Place → Bool) : Nat := ∑ᶠ lock, (b.standing p lock).card

theorem Sound.poised_none (sound : b.Sound) {p : Place → Bool}
    (none : ∀ k call, b.calls.find? k = some call → p call.place = false) : b.poised p = 0 := by
  rw [poised,← finsum_zero]
  apply finsum_congr
  intro lock
  rw [Finset.card_eq_zero,Finset.eq_empty_iff_forall_notMem]
  intro k member
  obtain ⟨call,found,_,stands⟩ := crew_eq_some.mp ((mem_standing sound.numbered).mp member)
  rw [none k call found] at stands
  cases stands

-- The counters say what the caching came to, but for the calls between two steps:
-- those that have their turn and are not counted yet, and those whose lock is
-- back with the server and is not free here yet.
theorem Life.caching_saves (life : Life id threshold hooked past b) (obliged : obliging past = true) :
    (b.stats.acquireRpcs + b.poised Place.turning + b.poised Place.closes =
        (past.flatMap Deed.completed).length + {lock | (b.entry lock).state ≠ .idle}.ncard ∧
      b.stats.releaseRpcs ≤ b.stats.revokesReceived ∧
      (past.flatMap Deed.got).length + {lock | (b.entry lock).state = .acquiring}.ncard =
        b.stats.cacheHits + b.stats.acquireRpcs + b.poised Place.turning) ∧
    ((∀ k call, b.calls.find? k = some call → call.place ≠ .asking ∧ call.place ≠ .closing (.ok ())) →
      b.stats.acquireRpcs = (past.flatMap Deed.completed).length + {lock | (b.entry lock).state ≠ .idle}.ncard ∧
      (past.flatMap Deed.got).length =
        b.stats.cacheHits + b.stats.acquireRpcs - {lock | (b.entry lock).state = .acquiring}.ncard) ∧
    ∀ lock, lock ∉ past.flatMap Deed.wanted →
      lock ∉ past.flatMap Deed.sent ∧ (past.flatMap Deed.asked).count lock ≤ 1 ∧
        (lock ∈ past.flatMap Deed.got → (past.flatMap Deed.asked).count lock = 1) := by
  obtain ⟨_,ledger⟩ := life.ledger obliged
  obtain ⟨asked,sent,found,wanted⟩ := life.counts
  have requests := finsum_congr fun lock => (ledger lock).asked
  rw [LockId.sum_add,LockId.sum_add,LockId.sum_count,LockId.sum_count,← asked] at requests
  have completions := finsum_congr fun lock => (ledger lock).completed
  rw [LockId.sum_add,LockId.sum_count,LockId.sum_count] at completions
  have grants := finsum_congr fun lock => (ledger lock).got
  rw [LockId.sum_add,LockId.sum_add,LockId.sum_add,LockId.sum_count,LockId.sum_count,LockId.sum_count,← asked,
    ← found] at grants
  simp only [Entry.busy,Entry.acquiring,LockId.sum_where] at requests grants
  change _ + b.poised Place.turning = _ at requests
  change _ = _ + b.poised Place.closes at completions
  change _ = _ + b.poised Place.turning at grants
  refine ⟨⟨by omega,?_,grants⟩,?_,?_⟩
  · rw [sent,wanted]
    apply List.Subperm.length_le
    apply List.subperm_ext_iff.mpr
    intro lock _
    have bound := (ledger lock).wanted
    omega
  · intro paused
    have turning : b.poised Place.turning = 0 := life.sound.poised_none fun k call found => by
      have other := (paused k call found).1
      cases place : call.place <;> simp [place] at other ⊢
    have closing : b.poised Place.closes = 0 := life.sound.poised_none fun k call found => by
      have other := (paused k call found).2
      cases place : call.place with
      | closing outcome => cases outcome <;> simp [place] at other ⊢
      | _ => rfl
    omega
  · intro lock unwanted
    obtain ⟨asked,sent,_,wanted,got⟩ := ledger lock
    rw [List.count_eq_zero.mpr unwanted] at wanted
    have none : (past.flatMap Deed.sent).count lock = 0 := by omega
    have one : (b.entry lock).busy ≤ 1 := by
      simp only [Entry.busy]
      split <;> omega
    refine ⟨List.count_eq_zero.mp none,by omega,fun got => ?_⟩
    have some := List.count_pos_iff.mpr (life.paid obliged got)
    omega

-- One lock is granted late, used twice and given back when it is wanted, the
-- other one is used three times.
def thrift : List Prompt :=
  [.begin .acquire jar,.advance 0,.advance 0,.advance 0,.answer 0 (.ok .retry),.advance 0,.advance 0,.retry jar,
    .advance 0,.advance 0,.advance 0,.begin .release jar,.begin .acquire jar,.advance 2,.advance 2,
    .begin .revoke jar,.begin .release jar,.advance 4,.answer 4 (.ok .released),.advance 4,
    .begin .acquire ⟨4⟩,.advance 5,.advance 5,.advance 5,.answer 5 (.ok .granted),.advance 5,.begin .release ⟨4⟩,
    .begin .acquire ⟨4⟩,.advance 7,.advance 7,.begin .release ⟨4⟩,.begin .acquire ⟨4⟩,.advance 9,.advance 9]

theorem caching_saves_thrift :
    (obliging (led thrift).1 = true ∧ (led thrift).2.calls = [] ∧ (led thrift).2.stats.acquireRpcs = 2 ∧
      (led thrift).2.stats.cacheHits = 3 ∧ ⟨4⟩ ∉ (led thrift).1.flatMap Deed.wanted) ∧
    ((led thrift).2.stats.acquireRpcs = ((led thrift).1.flatMap Deed.completed).length +
        {lock | ((led thrift).2.entry lock).state ≠ .idle}.ncard ∧
      ((led thrift).1.flatMap Deed.got).length = (led thrift).2.stats.cacheHits +
        (led thrift).2.stats.acquireRpcs - {lock | ((led thrift).2.entry lock).state = .acquiring}.ncard) ∧
    (⟨4⟩ ∉ (led thrift).1.flatMap Deed.sent ∧ ((led thrift).1.flatMap Deed.asked).count ⟨4⟩ = 1) := by
  obtain ⟨_,paused,unwanted⟩ := (led_life thrift).caching_saves (by decide)
  obtain ⟨unsent,_,one⟩ := unwanted ⟨4⟩ (by decide)
  refine ⟨⟨by decide,rfl,by decide,by decide,by decide⟩,paused ?_,unsent,one (by decide)⟩
  intro k call found
  cases found

theorem ncard_alone {p : Entry → Prop} (alone : b.entries = [(lock,e)]) (here : p e) (elsewhere : ¬ p {}) :
    {other | p (b.entry other)}.ncard = 1 := by
  have only : {other | p (b.entry other)} = {lock} := by
    ext other
    by_cases same : other = lock
    · simp [same,entry, entry?,alone,Table.find?,here]
    · simp [same,Ne.symm same,entry, entry?,alone,Table.find?,elsewhere]
  rw [only,Set.ncard_singleton]

-- An acquire has its turn and did not ask yet; a lock is back with the server
-- and its entry does not say so yet.
def turned : List Prompt := [.begin .acquire jar,.advance 0,.advance 0]

def takenBack : List Prompt :=
  turned ++ [.advance 0,.answer 0 (.ok .granted),.advance 0,.begin .revoke jar,.begin .release jar,.advance 2,
    .answer 2 (.ok .released)]

theorem caching_uneven :
    (Life eve 2 true (led turned).1 (led turned).2 ∧ obliging (led turned).1 = true ∧
      (led turned).2.stats.acquireRpcs ≠ ((led turned).1.flatMap Deed.completed).length +
        {lock | ((led turned).2.entry lock).state ≠ .idle}.ncard ∧
      ((led turned).1.flatMap Deed.got).length + {lock | ((led turned).2.entry lock).state = .acquiring}.ncard ≠
        (led turned).2.stats.cacheHits + (led turned).2.stats.acquireRpcs) ∧
    Life eve 2 true (led takenBack).1 (led takenBack).2 ∧ obliging (led takenBack).1 = true ∧
      (led takenBack).2.stats.acquireRpcs ≠ ((led takenBack).1.flatMap Deed.completed).length +
        {lock | ((led takenBack).2.entry lock).state ≠ .idle}.ncard := by
  have begun : (led turned).2.entries = [(jar,{ state := .acquiring, waiting := 1 })] := by decide
  have sent : (led takenBack).2.entries = [(jar,{ state := .releasing, revoked := true })] := by decide
  refine ⟨⟨led_life turned,by decide,?_,?_⟩,led_life takenBack,by decide,?_⟩
  · rw [ncard_alone (p := (·.state ≠ .idle)) begun (by decide) (by decide)]
    decide
  · rw [ncard_alone (p := (·.state = .acquiring)) begun (by decide) (by decide)]
    decide
  · rw [ncard_alone (p := (·.state ≠ .idle)) sent (by decide) (by decide)]
    decide

end LockLender.Borrower
