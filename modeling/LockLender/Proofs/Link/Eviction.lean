import LockLender.Link.Pool
import LockLender.Proofs.Machine
import LockLender.Proofs.Table

namespace LockLender.Pool

abbrev Deed := LockLender.Deed Pool Act (List Effect)

abbrev shared : Machine Pool Act (List Effect) where
  begins := (· = {})
  step := step

abbrev Course : List Deed → Pool → Prop := shared.Runs

inductive Did (pool : Pool) : Act → Pool → Prop where
  | began : Did pool (.begin address)
      { pool with users := pool.users.put pool.nextUser { address }, nextUser := pool.nextUser + 1 }
  | reused (found : pool.users.find? u = some ⟨address,.looking⟩) (live : pool.live? address = some connection) :
      Did pool (.look u) (pool.place u ⟨address,.looking⟩ (.using connection))
  | missed (found : pool.users.find? u = some ⟨address,.looking⟩) (free : pool.live? address = none) :
      Did pool (.look u) (pool.place u ⟨address,.looking⟩ .dialing)
  | refused (found : pool.users.find? u = some ⟨address,.dialing⟩) :
      Did pool (.dial u (.error fault)) { pool with users := pool.users.remove u }
  | dialed (found : pool.users.find? u = some ⟨address,.dialing⟩) :
      Did pool (.dial u (.ok ()))
        ({ pool with nextConnection := pool.nextConnection + 1 }.place u ⟨address,.dialing⟩
          (.offering pool.nextConnection))
  | yielded (found : pool.users.find? u = some ⟨address,.offering connection⟩)
      (live : pool.live? address = some first) :
      Did pool (.offer u) (pool.place u ⟨address,.offering connection⟩ (.using first))
  | pooled (found : pool.users.find? u = some ⟨address,.offering connection⟩) (free : pool.live? address = none) :
      Did pool (.offer u)
        ({ pool with kept := pool.kept.put address connection }.place u ⟨address,.offering connection⟩
          (.using connection))
  | succeeded (found : pool.users.find? u = some ⟨address,.using connection⟩) :
      Did pool (.succeed u) { pool with users := pool.users.remove u }
  | failed (found : pool.users.find? u = some ⟨address,.using connection⟩) :
      Did pool (.fail u fault) (pool.place u ⟨address,.using connection⟩ (.evicting connection fault))
  | evicted (found : pool.users.find? u = some ⟨address,.evicting connection fault⟩) :
      Did pool (.evict u) { pool with kept := pool.kept.remove address, users := pool.users.remove u }
  | closed : Did pool (.close connection) { pool with closed := connection :: pool.closed }

inductive Moved (pool next : Pool) (u : Nat) : Act → User → Prop where
  | looking : Moved pool next u act ⟨address,.looking⟩
  | dialing : Moved pool next u act ⟨address,.dialing⟩
  | offering : Moved pool next u (.dial u (.ok ())) ⟨address,.offering pool.nextConnection⟩
  | used (kept : next.kept.find? address = some connection) : Moved pool next u act ⟨address,.using connection⟩
  | evicting (found : pool.users.find? u = some ⟨address,.using connection⟩) :
      Moved pool next u (.fail u fault) ⟨address,.evicting connection fault⟩

def Deed.Fails (now : Deed) (connection : Nat) : Prop :=
  ∃ u address fault, now.act = .fail u fault ∧ now.before.users.find? u = some ⟨address,.using connection⟩

-- A call that failed on its own connection takes out what is kept for the address.
def Deed.Evicts (now : Deed) (address : String) (own : Nat) : Prop :=
  ∃ u fault, now.act = .evict u ∧ now.before.users.find? u = some ⟨address,.evicting own fault⟩

def Deed.Outruns (now : Deed) (connection : Nat) : Prop :=
  ∃ address own, now.Evicts address own ∧ own ≠ connection ∧ now.before.kept.find? address = some connection

def Deed.Drops (now : Deed) (address : String) (connection : Nat) : Prop :=
  now.before.kept.find? address = some connection ∧ now.after.kept.find? address ≠ some connection

def Deed.failing (now : Deed) : Option Nat :=
  match now.act with
  | .fail u _ =>
    match now.before.users.find? u with
    | some ⟨_,.using connection⟩ => some connection
    | _ => none
  | _ => none

theorem Deed.fails_iff {now : Deed} {connection : Nat} : now.Fails connection ↔ now.failing = some connection := by
  obtain ⟨before,act,effects,after⟩ := now
  constructor
  · rintro ⟨u,address,fault,rfl,found⟩
    simp [failing,show before.users.find? u = _ from found]
  · intro failing
    simp only [Deed.failing] at failing
    split at failing
    · split at failing
      · rename_i found
        cases failing
        exact ⟨_,_,_,rfl,found⟩
      · cases failing
    · cases failing

instance (now : Deed) (connection : Nat) : Decidable (now.Fails connection) := decidable_of_iff _ Deed.fails_iff.symm

def Kept (past : List Deed) (address : String) (connection : Nat) : Prop :=
  ∃ now ∈ past, now.after.kept.find? address = some connection

instance (past : List Deed) (address : String) (connection : Nat) : Decidable (Kept past address connection) :=
  inferInstanceAs (Decidable (∃ now ∈ past, _))

-- Connections are numbered in the order of dialing. A number that is offered has
-- one owner and was never kept before, so it is kept for one address only and
-- does not come back.
structure Sound (past : List Deed) (pool : Pool) : Prop where
  recorded {address : String} {connection : Nat} :
    pool.kept.find? address = some connection → Kept past address connection
  before {address : String} {connection : Nat} :
    ∀ now ∈ past, now.before.kept.find? address = some connection → Kept past address connection
  numbered {address : String} {connection : Nat} : Kept past address connection → connection < pool.nextConnection
  alone {address other : String} {connection : Nat} :
    Kept past address connection → Kept past other connection → address = other
  offered {u : Nat} {address : String} {connection : Nat} :
    pool.users.find? u = some ⟨address,.offering connection⟩ →
    connection < pool.nextConnection ∧ ∀ address, ¬ Kept past address connection
  sole {u v : Nat} {address other : String} {connection : Nat} :
    pool.users.find? u = some ⟨address,.offering connection⟩ →
    pool.users.find? v = some ⟨other,.offering connection⟩ → u = v
  used {u : Nat} {address : String} {connection : Nat} :
    pool.users.find? u = some ⟨address,.using connection⟩ → Kept past address connection
  failed {u : Nat} {address : String} {connection : Nat} {fault : LinkFault} :
    pool.users.find? u = some ⟨address,.evicting connection fault⟩ →
    Kept past address connection ∧ ∃ now ∈ past, now.Fails connection

variable {pool next : Pool} {act : Act} {effects : List Effect} {past : List Deed} {now : Deed} {u : Nat} {user : User}
  {address other : String} {connection : Nat} {fault : LinkFault}

theorem step_did (ran : pool.step act = some (next,effects)) : Did pool act next := by
  cases act with
  | begin address =>
      cases ran
      exact .began
  | close connection =>
      cases ran
      exact .closed
  | look u =>
      obtain ⟨⟨address,place⟩,found,ran⟩ := Option.bind_eq_some_iff.mp ran
      cases place with
      | looking =>
          cases live : pool.live? address with
          | some connection =>
              simp only [live] at ran
              cases ran
              exact .reused found live
          | none =>
              simp only [live] at ran
              cases ran
              exact .missed found live
      | _ => cases ran
  | dial u outcome =>
      obtain ⟨⟨address,place⟩,found,ran⟩ := Option.bind_eq_some_iff.mp ran
      cases place with
      | dialing =>
          cases outcome with
          | error fault =>
              cases ran
              exact .refused found
          | ok =>
              cases ran
              exact .dialed found
      | _ => cases ran
  | offer u =>
      obtain ⟨⟨address,place⟩,found,ran⟩ := Option.bind_eq_some_iff.mp ran
      cases place with
      | offering connection =>
          cases live : pool.live? address with
          | some first =>
              simp only [live] at ran
              cases ran
              exact .yielded found live
          | none =>
              simp only [live] at ran
              cases ran
              exact .pooled found live
      | _ => cases ran
  | succeed u =>
      obtain ⟨⟨address,place⟩,found,ran⟩ := Option.bind_eq_some_iff.mp ran
      cases place with
      | «using» connection =>
          cases ran
          exact .succeeded found
      | _ => cases ran
  | fail u fault =>
      obtain ⟨⟨address,place⟩,found,ran⟩ := Option.bind_eq_some_iff.mp ran
      cases place with
      | «using» connection =>
          cases ran
          exact .failed found
      | _ => cases ran
  | evict u =>
      obtain ⟨⟨address,place⟩,found,ran⟩ := Option.bind_eq_some_iff.mp ran
      cases place with
      | evicting connection fault =>
          cases ran
          exact .evicted found
      | _ => cases ran

theorem kept_of_live (live : pool.live? address = some connection) : pool.kept.find? address = some connection :=
  (Option.filter_eq_some_iff.mp live).1

theorem Did.moved (did : Did pool act next) {v : Nat} {w : User} (there : next.users.find? v = some w) :
    pool.users.find? v = some w ∨ Moved pool next v act w := by
  cases did with
  | began =>
      rcases Table.find?_of_put there with ⟨_,rfl⟩ | there
      · exact .inr .looking
      · exact .inl there
  | reused found live =>
      rcases Table.find?_of_put there with ⟨_,rfl⟩ | there
      · exact .inr (.used (kept_of_live live))
      · exact .inl there
  | missed found free =>
      rcases Table.find?_of_put there with ⟨_,rfl⟩ | there
      · exact .inr .dialing
      · exact .inl there
  | dialed found =>
      rcases Table.find?_of_put there with ⟨rfl,rfl⟩ | there
      · exact .inr .offering
      · exact .inl there
  | yielded found live =>
      rcases Table.find?_of_put there with ⟨_,rfl⟩ | there
      · exact .inr (.used (kept_of_live live))
      · exact .inl there
  | pooled found free =>
      rcases Table.find?_of_put there with ⟨_,rfl⟩ | there
      · exact .inr (.used (Table.find?_put_self _ _ _))
      · exact .inl there
  | failed found =>
      rcases Table.find?_of_put there with ⟨rfl,rfl⟩ | there
      · exact .inr (.evicting found)
      · exact .inl there
  | refused => exact .inl (Table.find?_of_remove there)
  | succeeded => exact .inl (Table.find?_of_remove there)
  | evicted => exact .inl (Table.find?_of_remove there)
  | closed => exact .inl there

theorem Did.gains (did : Did pool act next) (kept : next.kept.find? address = some connection) :
    pool.kept.find? address = some connection ∨
      ∃ u, act = .offer u ∧ pool.users.find? u = some ⟨address,.offering connection⟩ ∧
        next.users.find? u = some ⟨address,.using connection⟩ := by
  cases did with
  | @pooled u home own found free =>
      by_cases same : address = home
      · subst same
        cases (Table.find?_put_self _ _ _).symm.trans kept
        exact .inr ⟨u,rfl,found,Table.find?_put_self _ _ _⟩
      · exact .inl ((Table.find?_put_ne _ _ same).symm.trans kept)
  | @evicted u home own fault found =>
      by_cases same : address = home
      · subst same
        cases (Table.find?_remove_self _ _).symm.trans kept
      · exact .inl ((Table.find?_remove_ne _ same).symm.trans kept)
  | _ => exact .inl kept

theorem Did.loses (did : Did pool act next) (kept : pool.kept.find? address = some connection)
    (gone : next.kept.find? address ≠ some connection) :
    connection ∈ pool.closed ∨
      ∃ u own fault, act = .evict u ∧ pool.users.find? u = some ⟨address,.evicting own fault⟩ := by
  cases did with
  | @pooled u home own found free =>
      by_cases same : address = home
      · subst same
        left
        simpa [live?,kept,isClosed] using free
      · exact absurd ((Table.find?_put_ne _ _ same).trans kept) gone
  | @evicted u home own fault found =>
      by_cases same : address = home
      · subst same
        exact .inr ⟨u,own,fault,rfl,found⟩
      · exact absurd ((Table.find?_remove_ne _ same).trans kept) gone
  | _ => exact absurd kept gone

theorem Did.evicts {own : Nat} (did : Did pool (.evict u) next)
    (found : pool.users.find? u = some ⟨address,.evicting own fault⟩) : next.kept.find? address = none := by
  cases did with
  | evicted there =>
      cases found.symm.trans there
      exact Table.find?_remove_self _ _

theorem Did.closed_mono (did : Did pool act next) (closed : connection ∈ pool.closed) : connection ∈ next.closed := by
  cases did with
  | closed => exact List.mem_cons_of_mem _ closed
  | _ => exact closed

theorem Did.nextConnection_mono (did : Did pool act next) : pool.nextConnection ≤ next.nextConnection := by
  cases did with
  | dialed => exact Nat.le_succ _
  | _ => exact Nat.le_refl _

theorem Did.nextConnection_dial (did : Did pool (.dial u (.ok ())) next) :
    next.nextConnection = pool.nextConnection + 1 := by
  cases did with
  | dialed => rfl

theorem Kept.cons (kept : Kept past address connection) : Kept (now :: past) address connection := by
  obtain ⟨deed,member,kept⟩ := kept
  exact ⟨deed,List.mem_cons_of_mem _ member,kept⟩

theorem Sound.arrival (sound : Sound past pool) (did : Did pool act next)
    (kept : Kept (⟨pool,act,effects,next⟩ :: past) address connection) :
    Kept past address connection ∨
      ∃ u, act = .offer u ∧ pool.users.find? u = some ⟨address,.offering connection⟩ ∧
        next.users.find? u = some ⟨address,.using connection⟩ := by
  obtain ⟨deed,member,kept⟩ := kept
  rcases List.mem_cons.mp member with rfl | member
  · rcases did.gains kept with kept | offer
    · exact .inl (sound.recorded kept)
    · exact .inr offer
  · exact .inl ⟨deed,member,kept⟩

theorem Sound.step (sound : Sound past pool) (did : Did pool act next) : Sound (⟨pool,act,effects,next⟩ :: past) next where
  recorded kept := ⟨_,List.mem_cons_self,kept⟩
  before := by
    intro address connection now member kept
    rcases List.mem_cons.mp member with rfl | member
    · exact (sound.recorded kept).cons
    · exact (sound.before now member kept).cons
  numbered := by
    intro address connection kept
    apply Nat.lt_of_lt_of_le _ did.nextConnection_mono
    rcases sound.arrival did kept with kept | ⟨u,-,found,-⟩
    · exact sound.numbered kept
    · exact (sound.offered found).1
  alone := by
    intro address other connection kept again
    rcases sound.arrival did kept with old | ⟨u,act,found,-⟩
    · rcases sound.arrival did again with also | ⟨_,-,found,-⟩
      · exact sound.alone old also
      · exact absurd old ((sound.offered found).2 _)
    · rcases sound.arrival did again with old | ⟨v,same,there,-⟩
      · exact absurd old ((sound.offered found).2 _)
      · -- One offer put in both.
        cases act.symm.trans same
        cases found.symm.trans there
        rfl
  offered := by
    intro u address connection found
    rcases did.moved found with old | moved
    · obtain ⟨low,fresh⟩ := sound.offered old
      refine ⟨Nat.lt_of_lt_of_le low did.nextConnection_mono,?_⟩
      intro other kept
      rcases sound.arrival did kept with kept | ⟨v,rfl,there,after⟩
      · exact fresh other kept
      · cases sound.sole old there
        cases found.symm.trans after
    · cases moved
      refine ⟨by simp [did.nextConnection_dial],?_⟩
      intro other kept
      rcases sound.arrival did kept with kept | ⟨v,odd,-⟩
      · exact absurd (sound.numbered kept) (Nat.lt_irrefl _)
      · cases odd
  sole := by
    intro u v address other connection found there
    rcases did.moved found with old | moved
    · rcases did.moved there with also | moved
      · exact sound.sole old also
      · cases moved
        exact absurd (sound.offered old).1 (Nat.lt_irrefl _)
    · cases moved
      rcases did.moved there with also | moved
      · exact absurd (sound.offered also).1 (Nat.lt_irrefl _)
      · cases moved
        rfl
  used := by
    intro u address connection found
    rcases did.moved found with old | moved
    · exact (sound.used old).cons
    · cases moved with
      | used kept => exact ⟨_,List.mem_cons_self,kept⟩
  failed := by
    intro u address connection fault found
    rcases did.moved found with old | moved
    · obtain ⟨kept,now,member,fails⟩ := sound.failed old
      exact ⟨kept.cons,now,List.mem_cons_of_mem _ member,fails⟩
    · cases moved with
      | evicting was => exact ⟨(sound.used was).cons,_,List.mem_cons_self,_,_,_,rfl,was⟩

theorem Course.sound (course : Course past pool) : Sound past pool := by
  induction course with
  | start begins =>
      cases begins
      exact {
        recorded := by simp [Table.find?]
        before := by simp
        numbered := by simp [Kept]
        alone := by simp [Kept]
        offered := by simp [Table.find?]
        sole := by simp [Table.find?]
        used := by simp [Table.find?]
        failed := by simp [Table.find?] }
  | step _ _ ran ih => exact ih.step (step_did ran)

-- What a caller gets that looks now, or has dialed and looks again.
def Serves (pool : Pool) (address : String) (connection : Nat) : Prop :=
  ∀ u user, pool.users.find? u = some user → user.address = address →
    (user.place = .looking → pool.step (.look u) = some (pool.obtain u user connection)) ∧
    ∀ own, user.place = .offering own → pool.step (.offer u) = some (pool.obtain u user connection)

theorem serves (kept : pool.kept.find? address = some connection) (live : connection ∉ pool.closed) :
    pool.Serves address connection := by
  rintro u user found rfl
  have live : pool.live? user.address = some connection := by simp [live?,kept,isClosed,live]
  constructor
  · intro place
    simp [step,found,place,live]
  · intro own place
    simp [step,found,place,live]

theorem Course.not_outrun (course : Course past pool) (kept : pool.kept.find? address = some connection) :
    ∀ now ∈ past, ¬ now.Outruns connection := by
  induction course with
  | start => simp
  | @step past pool next effects act course _ ran ih =>
      have sound := Course.sound course
      rintro now member ⟨home,own,⟨v,fault,evicts,there⟩,differ,was⟩
      rcases (step_did ran).gains kept with still | ⟨u,rfl,found,-⟩
      · rcases List.mem_cons.mp member with rfl | member
        · obtain rfl : act = .evict v := evicts
          cases sound.alone (sound.recorded still) (sound.recorded was)
          cases kept.symm.trans ((step_did ran).evicts there)
        · exact ih still now member ⟨home,own,⟨v,fault,evicts,there⟩,differ,was⟩
      · rcases List.mem_cons.mp member with rfl | member
        · cases evicts
        · exact (sound.offered found).2 _ (sound.before now member was)

theorem Course.kept_of_not_outrun (course : Course past pool) (pooled : Kept past address connection)
    (live : connection ∉ pool.closed) (unfailed : ∀ now ∈ past, ¬ now.Fails connection)
    (ahead : ∀ now ∈ past, ¬ now.Outruns connection) : pool.kept.find? address = some connection := by
  induction course with
  | start => simp [Kept] at pooled
  | @step past pool next effects act course _ ran ih =>
      obtain ⟨now,member,kept⟩ := pooled
      rcases List.mem_cons.mp member with rfl | member
      · exact kept
      · have before : connection ∉ pool.closed := fun closed => live ((step_did ran).closed_mono closed)
        have kept := ih ⟨now,member,kept⟩ before (fun now member => unfailed now (List.mem_cons_of_mem _ member))
          (fun now member => ahead now (List.mem_cons_of_mem _ member))
        by_cases stays : next.kept.find? address = some connection
        · exact stays
        · rcases (step_did ran).loses kept stays with closed | ⟨u,own,fault,rfl,found⟩
          · exact absurd closed before
          · by_cases same : own = connection
            · subst same
              obtain ⟨-,now,member,fails⟩ := (Course.sound course).failed found
              exact absurd fails (unfailed now (List.mem_cons_of_mem _ member))
            · exact absurd ⟨address,own,⟨u,fault,rfl,found⟩,same,kept⟩ (ahead _ List.mem_cons_self)

theorem Course.left (course : Course past pool) (was : Kept past address connection)
    (gone : pool.kept.find? address ≠ some connection) : ∃ now ∈ past, now.Drops address connection := by
  induction course with
  | start => simp [Kept] at was
  | @step past pool next effects act course _ ran ih =>
      obtain ⟨now,member,kept⟩ := was
      rcases List.mem_cons.mp member with rfl | member
      · exact absurd kept gone
      · by_cases still : pool.kept.find? address = some connection
        · exact ⟨_,List.mem_cons_self,still,gone⟩
        · obtain ⟨now,member,left⟩ := ih ⟨now,member,kept⟩ still
          exact ⟨now,List.mem_cons_of_mem _ member,left⟩

-- A call takes out another connection than its own only if its own has gone
-- before: another call on it failed too, or it closed and was replaced.
theorem Course.overtaken (course : Course past pool) (member : now ∈ past) {own : Nat}
    (evicts : now.Evicts address own) (kept : now.before.kept.find? address = some connection)
    (differ : own ≠ connection) : ∃ earlier ∈ past, earlier.Drops address own := by
  obtain ⟨u,fault,-,found⟩ := evicts
  obtain ⟨later,before,rfl⟩ := List.append_of_mem member
  obtain ⟨then_,-,-⟩ := course.of_suffix (List.suffix_append _ _)
  have gone : now.before.kept.find? address ≠ some own := by
    intro still
    exact differ (Option.some.inj (still.symm.trans kept))
  obtain ⟨earlier,there,drops⟩ := Course.left then_ ((Course.sound then_).failed found).1 gone
  exact ⟨earlier,List.mem_append_right _ (List.mem_cons_of_mem _ there),drops⟩

-- A connection that has been pooled, is alive and has failed nobody stays in the
-- pool, and those that ask get it, unless a call that failed on another
-- connection takes it out, which had left the pool by then.
theorem Course.stays_unless_outrun (course : Course past pool) (pooled : Kept past address connection)
    (live : connection ∉ pool.closed) (unfailed : ∀ now ∈ past, ¬ now.Fails connection) :
    (pool.kept.find? address = some connection ↔ ∀ now ∈ past, ¬ now.Outruns connection) ∧
      (pool.kept.find? address = some connection → pool.Serves address connection) ∧
      ∀ now ∈ past, ∀ home own, now.Evicts home own → now.before.kept.find? home = some connection →
        own ≠ connection → ∃ earlier ∈ past, earlier.Drops home own :=
  ⟨⟨course.not_outrun,course.kept_of_not_outrun pooled live unfailed⟩,fun kept => serves kept live,
    fun _ member _ _ => course.overtaken member⟩

-- Two calls share a connection. One of them fails and takes it out, and a third
-- call puts in another.
def replaced : List Deed × Pool := shared.follow [] {}
  [.begin "ada",.look 0,.dial 0 (.ok ()),.offer 0,.begin "ada",.look 1,.fail 0 (.remote "busy"),.evict 0,
    .begin "ada",.look 2,.dial 2 (.ok ()),.offer 2,.fail 1 .reset]

theorem replaced_course : Course replaced.1 replaced.2 := shared.follow_runs (.start rfl) _

theorem stays_unless_outrun_replaced :
    (Kept replaced.1 "ada" 1 ∧ 1 ∉ replaced.2.closed ∧ ∀ now ∈ replaced.1, ¬ now.Fails 1) ∧
    (replaced.2.kept.find? "ada" = some 1 ↔ ∀ now ∈ replaced.1, ¬ now.Outruns 1) ∧
      (replaced.2.kept.find? "ada" = some 1 → replaced.2.Serves "ada" 1) ∧
      ∀ now ∈ replaced.1, ∀ home own, now.Evicts home own → now.before.kept.find? home = some 1 → own ≠ 1 →
        ∃ earlier ∈ replaced.1, earlier.Drops home own := by
  have given : Kept replaced.1 "ada" 1 ∧ 1 ∉ replaced.2.closed ∧ ∀ now ∈ replaced.1, ¬ now.Fails 1 := by decide
  exact ⟨given,replaced_course.stays_unless_outrun given.1 given.2.1 given.2.2⟩

-- Then the other call fails, on the connection that is out already, and the next
-- one has to dial.
def outrun : List Deed × Pool := shared.follow replaced.1 replaced.2 [.evict 1,.begin "ada"]

theorem outrun_evicted : Course outrun.1 outrun.2 ∧ Kept outrun.1 "ada" 1 ∧ 1 ∉ outrun.2.closed ∧
    (∀ now ∈ outrun.1, ¬ now.Fails 1) ∧ outrun.2.kept.find? "ada" = none ∧
    outrun.2.users.find? 3 = some ⟨"ada",.looking⟩ ∧
    (outrun.2.step (.look 3)).map (·.1.users.find? 3) = some (some ⟨"ada",.dialing⟩) := by
  refine ⟨shared.follow_runs replaced_course _,?_⟩
  decide

end LockLender.Pool
