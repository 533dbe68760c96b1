import Mathlib.Data.List.Induction
import Mathlib.Data.List.Infix
import LockLender.HoldLog

namespace LockLender.HoldLog

def run (events : List Event) : HoldLog := events.foldl apply {}

def Event.opens (lock : LockId) (holds : List ClientId) : Event → List ClientId
  | .enter other client => if other = lock then holds ++ [client] else holds
  | .exit other client => if other = lock then holds.erase client else holds

-- Who entered for a lock and has not left, the longest inside first. A client that
-- entered twice stands there twice.
def openHolds (lock : LockId) (events : List Event) : List ClientId := events.foldl (Event.opens lock) []

def Event.closes (before : List Event) : Event → Prop
  | .enter .. => True
  | .exit lock client => client ∈ openHolds lock before

def Event.alone (before : List Event) : Event → Prop
  | .enter lock _ => openHolds lock before = []
  | .exit .. => True

def Throughout (p : List Event → Event → Prop) (events : List Event) : Prop :=
  ∀ before event, before ++ [event] <+: events → p before event

def Paired : List Event → Prop := Throughout fun before event => event.closes before

def Exclusive : List Event → Prop := Throughout fun before event => event.alone before

-- The intruder entered while one hold was open, and nothing like it had happened before.
def FirstOverlap (events : List Event) (v : Violation) : Prop :=
  ∃ before, before ++ [.enter v.lock v.intruder] <+: events ∧ Exclusive before ∧ openHolds v.lock before = [v.holder]

def entrants (lock : LockId) (events : List Event) : List ClientId :=
  events.filterMap fun
    | .enter other client => if other = lock then some client else none
    | .exit .. => none

-- What the log knows after some events: who is inside each lock, or that it is too late for that.
inductive Knows (events : List Event) (log : HoldLog) : Prop where
  | clean (none : log.violations = []) (exclusive : Exclusive events)
      (inside : ∀ lock, openHolds lock events = (log.inside.find? lock).toList) : Knows events log
  | broken (found : log.violations.head? = some v) (first : FirstOverlap events v) : Knows events log

variable {events before : List Event} {event : Event} {log : HoldLog} {lock : LockId} {client : ClientId}
  {v w : Violation}

theorem run_concat (events : List Event) (event : Event) : run (events ++ [event]) = (run events).apply event := by
  simp [run]

theorem openHolds_concat (lock : LockId) (events : List Event) (event : Event) :
    openHolds lock (events ++ [event]) = event.opens lock (openHolds lock events) := by
  simp [openHolds]

theorem throughout_nil (p : List Event → Event → Prop) : Throughout p [] := by
  intro before event begins
  simp at begins

theorem throughout_concat {p : List Event → Event → Prop} :
    Throughout p (events ++ [event]) ↔ Throughout p events ∧ p events event := by
  constructor
  · intro all
    refine ⟨fun before other begins => all before other ?_,all events event (List.prefix_refl _)⟩
    exact begins.trans (List.prefix_append _ _)
  · rintro ⟨earlier,last⟩ before other begins
    rcases List.prefix_concat_iff.mp begins with same | begins
    · obtain ⟨rfl,⟨⟩⟩ := List.append_inj' same rfl
      exact last
    · exact earlier before other begins

theorem throughout_iff {p : List Event → Event → Prop} :
    (∀ front ∈ events.inits, ∀ event ∈ front.getLast?, p front.dropLast event) ↔ Throughout p events := by
  constructor
  · intro all before event begins
    have last := all _ ((List.mem_inits _ _).mpr begins) event (by simp)
    rwa [List.dropLast_concat] at last
  · intro all front begins event last
    refine all _ _ ?_
    rw [List.dropLast_append_getLast? event last]
    exact (List.mem_inits _ _).mp begins

instance (before : List Event) (event : Event) : Decidable (event.closes before) :=
  match event with
  | .enter .. => inferInstanceAs (Decidable True)
  | .exit lock client => inferInstanceAs (Decidable (client ∈ openHolds lock before))

instance (events : List Event) : Decidable (Paired events) := decidable_of_iff _ throughout_iff

theorem FirstOverlap.later (first : FirstOverlap events v) (event : Event) : FirstOverlap (events ++ [event]) v := by
  obtain ⟨before,begins,rest⟩ := first
  exact ⟨before,begins.trans (List.prefix_append _ _),rest⟩

theorem FirstOverlap.not_exclusive (first : FirstOverlap events v) : ¬ Exclusive events := by
  obtain ⟨before,begins,_,holder⟩ := first
  intro exclusive
  have alone : openHolds v.lock before = [] := exclusive before _ begins
  rw [holder] at alone
  cases alone

theorem FirstOverlap.unique (one : FirstOverlap events v) (two : FirstOverlap events w) : v = w := by
  have later {before after : List Event} {v w : Violation} (left : before ++ [.enter v.lock v.intruder] <+: events)
      (right : after ++ [.enter w.lock w.intruder] <+: events) (inside : openHolds v.lock before = [v.holder])
      (exclusive : Exclusive after) : after.length ≤ before.length := by
    by_contra longer
    have within : before ++ [.enter v.lock v.intruder] <+: after := by
      apply List.prefix_of_prefix_length_le left ((List.prefix_append _ _).trans right)
      simp only [List.length_append,List.length_singleton]
      omega
    have alone : openHolds v.lock before = [] := exclusive before _ within
    rw [inside] at alone
    cases alone
  obtain ⟨before,left,exclusive,inside⟩ := one
  obtain ⟨after,right,exclusive',inside'⟩ := two
  have length : before.length = after.length :=
    Nat.le_antisymm (later right left inside' exclusive) (later left right inside exclusive')
  have same : before ++ [.enter v.lock v.intruder] = after ++ [.enter w.lock w.intruder] := by
    apply List.IsPrefix.eq_of_length (List.prefix_of_prefix_length_le left right ?_)
    · simp [length]
    · simp [length]
  obtain ⟨rfl,last⟩ := List.append_inj same length
  obtain ⟨lock,holder,intruder⟩ := v
  obtain ⟨lock',holder',intruder'⟩ := w
  simp only [List.cons.injEq,Event.enter.injEq,and_true] at last
  obtain ⟨rfl,rfl⟩ := last
  dsimp only at inside inside'
  rw [inside] at inside'
  cases inside'
  rfl

theorem Knows.enter (knows : Knows events log) (lock : LockId) (client : ClientId) :
    Knows (events ++ [.enter lock client]) (log.enter lock client) := by
  cases knows with
  | broken found first =>
      refine .broken ?_ (first.later _)
      simp [HoldLog.enter,List.head?_append,found]
  | clean none exclusive inside =>
      cases here : log.inside.find? lock with
      | none =>
          have free : openHolds lock events = [] := by simp [inside,here]
          refine .clean (by simp [HoldLog.enter,none,here]) (throughout_concat.mpr ⟨exclusive,free⟩) fun other => ?_
          rw [openHolds_concat]
          by_cases same : other = lock
          · subst same
            simp [Event.opens,HoldLog.enter,free]
          · simp [Event.opens,HoldLog.enter,Ne.symm same,inside,Table.find?_put_ne _ _ same]
      | some holder =>
          have held : openHolds lock events = [holder] := by simp [inside,here]
          refine .broken (v := ⟨lock,holder,client⟩) ?_ ⟨events,List.prefix_refl _,exclusive,held⟩
          simp [HoldLog.enter,none,here]

theorem Knows.exit (knows : Knows events log) (lock : LockId) (client : ClientId)
    (within : client ∈ openHolds lock events) : Knows (events ++ [.exit lock client]) (log.exit lock client) := by
  have same : (log.exit lock client).violations = log.violations := by
    unfold HoldLog.exit
    split <;> rfl
  cases knows with
  | broken found first => exact .broken (same ▸ found) (first.later _)
  | clean none exclusive inside =>
      have here : log.inside.find? lock = some client := by
        rw [inside,Option.mem_toList] at within
        exact within
      refine .clean (same ▸ none) (throughout_concat.mpr ⟨exclusive,trivial⟩) fun other => ?_
      rw [openHolds_concat,HoldLog.exit,if_pos here]
      by_cases own : other = lock
      · subst own
        simp [Event.opens,inside,here]
      · simp [Event.opens,Ne.symm own,inside,Table.find?_remove_ne _ own]

theorem knows_run (paired : Paired events) : Knows events (run events) := by
  induction events using List.reverseRecOn with
  | nil => exact .clean rfl (throughout_nil _) fun _ => rfl
  | append_singleton events event ih =>
      obtain ⟨earlier,closes⟩ := throughout_concat.mp paired
      rw [run_concat]
      cases event with
      | enter lock client => exact (ih earlier).enter lock client
      | exit lock client => exact (ih earlier).exit lock client closes

theorem run_entries (events : List Event) (lock : LockId) : (run events).order lock = entrants lock events := by
  induction events using List.reverseRecOn with
  | nil => rfl
  | append_singleton events event ih =>
      rw [run_concat,entrants,List.filterMap_append,← entrants,← ih]
      cases event with
      | enter other client =>
          by_cases same : other = lock <;> simp [order,apply,HoldLog.enter,same]
      | exit other client =>
          have entries : ((run events).exit other client).entries = (run events).entries := by
            unfold HoldLog.exit
            split <;> rfl
          simp [order,apply,entries]

-- The log finds an overlap if there was one, names the first, and knows who
-- entered in which order.
theorem overlap_found (paired : Paired events) :
    ((run events).violations = [] ↔ Exclusive events) ∧
    (∀ v, (run events).violations.head? = some v ↔ FirstOverlap events v) ∧
    ∀ lock, (run events).order lock = entrants lock events := by
  refine ⟨?_,fun v => ?_,run_entries events⟩
  · cases knows_run paired with
    | clean none exclusive => exact iff_of_true none exclusive
    | broken found first =>
        refine iff_of_false (fun none => ?_) first.not_exclusive
        rw [none] at found
        cases found
  · cases knows_run paired with
    | clean none exclusive =>
        refine iff_of_false (fun found => ?_) fun first => first.not_exclusive exclusive
        rw [none] at found
        cases found
    | broken found first =>
        constructor
        · intro same
          cases found.symm.trans same
          exact first
        · intro other
          rw [found,first.unique other]

def brawl : List Event :=
  [.enter ⟨1⟩ ⟨"a"⟩,.enter ⟨2⟩ ⟨"b"⟩,.exit ⟨1⟩ ⟨"a"⟩,.enter ⟨1⟩ ⟨"c"⟩,.enter ⟨1⟩ ⟨"d"⟩,.exit ⟨1⟩ ⟨"c"⟩,
    .enter ⟨2⟩ ⟨"b"⟩,.exit ⟨1⟩ ⟨"d"⟩,.enter ⟨1⟩ ⟨"e"⟩]

theorem overlap_found_brawl :
    Paired brawl ∧ FirstOverlap brawl ⟨⟨1⟩,⟨"c"⟩,⟨"d"⟩⟩ ∧ ¬ Exclusive brawl ∧
      (run brawl).order ⟨1⟩ = [⟨"a"⟩,⟨"c"⟩,⟨"d"⟩,⟨"e"⟩] := by
  have paired : Paired brawl := by decide
  obtain ⟨clean,first,order⟩ := overlap_found paired
  have found : (run brawl).violations ≠ [] := by decide
  exact ⟨paired,(first _).mp rfl,fun exclusive => found (clean.mpr exclusive),order ⟨1⟩⟩

end LockLender.HoldLog
