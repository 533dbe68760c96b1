import Mathlib.Data.List.Nodup
import LockLender.Link.Responder
import LockLender.Proofs.Machine
import LockLender.Proofs.Table
import LockLender.Proofs.Wire.Reader

namespace LockLender

theorem Stream.frames_front (bytes : Bytes) : ∃ rest, Front bytes (frames bytes) rest :=
  drainFrom_front (bytes.length + 1) bytes (Nat.lt_succ_self _)

theorem Stream.Front.frames_eq {bytes rest : Bytes} {frames : List Frame} (front : Front bytes frames rest) :
    Stream.frames bytes = frames := by
  change (drainFrom (bytes.length + 1) true bytes).1 = frames
  apply front.drained
  have length := length_le_encoded frames
  rw [front.whole,List.length_append]
  omega

theorem Stream.frames_none {bytes : Bytes} (beyond : ∀ frame : Frame, frame.Proper → ¬ frame.encode <+: bytes) :
    Stream.frames bytes = [] := by
  have front : Front bytes [] bytes := ⟨rfl,nofun,beyond⟩
  exact front.frames_eq

def carriedBack : Except LinkFault Bytes → Bytes
  | .ok payload => payload
  | .error fault => Utf8.encode fault.message

namespace Frame
variable {request answer : Frame} {outcome : Except LinkFault Bytes}

-- An answer that the one who asked will take for the answer to its request.
structure Answers (answer request : Frame) (outcome : Except LinkFault Bytes) : Prop where
  opcode : answer.opcode = request.opcode
  number : answer.request = request.request
  flags : answer.header.flags = match outcome with
    | .ok _ => .response
    | .error _ => Flags.response.union .error
  payload : answer.payload = carriedBack outcome
  summed : answer.header.checksum = Checksum.crc32 answer.payload
  proper : answer.payload.length ≤ payloadLimit.toNat → answer.Proper

theorem answered_oneWay (oneWay : request.isOneWay = true) : request.answered outcome = none := by
  unfold answered
  exact if_pos oneWay

theorem answered_wanted (wants : request.isOneWay = false) :
    ∃ answer, request.answered outcome = some answer ∧ answer.Answers request outcome := by
  unfold answered
  rw [if_neg (by rw [wants]; exact Bool.false_ne_true)]
  cases outcome with
  | ok payload =>
      refine ⟨_,rfl,rfl,rfl,rfl,rfl,rfl,?_⟩
      intro fits
      exact make_proper request.opcode request.request .response fits
  | error fault =>
      refine ⟨_,rfl,rfl,rfl,rfl,rfl,rfl,?_⟩
      intro fits
      exact make_proper request.opcode request.request (Flags.response.union .error) fits

theorem answers_of_answered (same : request.answered outcome = some answer) : answer.Answers request outcome := by
  cases wants : request.isOneWay with
  | true =>
      rw [answered_oneWay wants] at same
      cases same
  | false =>
      obtain ⟨other,answered,answers⟩ := answered_wanted wants
      rw [answered] at same
      cases same
      exact answers

end Frame

namespace Responder

abbrev Deed := LockLender.Deed Responder Act (List Effect)

abbrev answering : Machine Responder Act (List Effect) where
  begins := (· = {})
  step := step

abbrev Course : List Deed → Responder → Prop := answering.Runs

def Act.octets : Act → Bytes
  | .receive bytes => bytes
  | .hangUp | .read | .finish .. => []

def Act.done? : Act → Option (Nat × Except LinkFault Bytes)
  | .finish task outcome => some (task,outcome)
  | .receive _ | .hangUp | .read => none

def Act.own : Act → Bool
  | .read | .finish .. => true
  | .receive _ | .hangUp => false

def Effect.given? : Effect → Option (Frame × Nat)
  | .handle task frame => some (frame,task)
  | .write _ => none

def Effect.octets : Effect → Bytes
  | .handle .. => []
  | .write bytes => bytes

-- What came in; what the handler was given, and what it was done with; what went out. The earliest first.
def received : List Deed → Bytes
  | [] => []
  | now :: past => received past ++ now.act.octets

def given : List Deed → List (Frame × Nat)
  | [] => []
  | now :: past => given past ++ now.effects.filterMap Effect.given?

def done : List Deed → List (Nat × Except LinkFault Bytes)
  | [] => []
  | now :: past => done past ++ now.act.done?.toList

def written : List Deed → Bytes
  | [] => []
  | now :: past => written past ++ now.effects.flatMap Effect.octets

def asking (frames : List Frame) : List Frame := frames.filter (!·.isResponse)

def answers (requests : List Frame) (done : List (Nat × Except LinkFault Bytes)) : List Frame :=
  done.filterMap fun (task,outcome) => requests[task]?.bind (·.answered outcome)

def Works (next r : Responder) : Prop := ∃ act effects, act.own = true ∧ r.step act = some (next,effects)

def Rested (r : Responder) : Prop := ∀ next, ¬ Works next r

-- No frame stands at the front of some octets, nor will when more have come.
def Barren (ended : Bool) (bytes : Bytes) : Prop :=
  ∀ more, (ended = true → more = []) → ∀ frame : Frame, frame.Proper → ¬ frame.encode <+: bytes ++ more

inductive Did (r : Responder) : Act → List Effect → Responder → Prop where
  | received (live : r.ended = false) : Did r (.receive bytes) [] { r with buffer := r.buffer ++ bytes }
  | hungUp : Did r .hangUp [] { r with ended := true }
  | stopped (reading : r.reading = true) (barren : Barren r.ended r.buffer) :
      Did r .read [] { r with buffer := rest, reading := false }
  | passed {frame : Frame} (reading : r.reading = true) (proper : frame.Proper) (front : r.buffer = frame.encode ++ rest)
      (stray : frame.isResponse = true) : Did r .read [] { r with buffer := rest }
  | gave {frame : Frame} (reading : r.reading = true) (proper : frame.Proper) (front : r.buffer = frame.encode ++ rest)
      (asks : frame.isResponse = false) :
      Did r .read [.handle r.nextTask frame]
        { r with buffer := rest, tasks := r.tasks.put r.nextTask frame, nextTask := r.nextTask + 1 }
  | finished (found : r.tasks.find? task = some frame) :
      Did r (.finish task outcome) ((frame.answered outcome).toList.map fun answer => .write answer.encode)
        { r with tasks := r.tasks.remove task }

structure Reads (r : Responder) (received : Bytes) (frames : List Frame) (rest : Bytes) : Prop where
  whole : received = frames.flatMap Frame.encode ++ rest
  proper : ∀ frame ∈ frames, Frame.Proper frame
  unread : r.reading = true → r.buffer = rest
  stopped : r.reading = false → Barren r.ended rest

structure Handles (tasks : Table Nat Frame) (requests : List Frame) (done : List (Nat × Except LinkFault Bytes))
    (written : Bytes) : Prop where
  under : ∀ task, tasks.find? task = if task ∈ done.map Prod.fst then none else requests[task]?
  once : (done.map Prod.fst).Nodup
  within : ∀ task ∈ done.map Prod.fst, task < requests.length
  written : written = (answers requests done).flatMap Frame.encode

structure Kept (past : List Deed) (r : Responder) (frames : List Frame) (rest : Bytes) : Prop where
  reads : Reads r (received past) frames rest
  handles : Handles r.tasks (asking frames) (done past) (written past)
  given : given past = (asking frames).zipIdx
  next : r.nextTask = (asking frames).length

structure Answering (past : List Deed) (requests : List Frame) : Prop where
  given : given past <+: requests.zipIdx
  once : ((done past).map Prod.fst).Nodup
  handled : ∀ task ∈ (done past).map Prod.fst, task < (Responder.given past).length
  written : written past = (answers requests (done past)).flatMap Frame.encode

structure Settled (past : List Deed) (requests : List Frame) : Prop where
  given : given past = requests.zipIdx
  done : ((done past).map Prod.fst).Perm (List.range requests.length)

variable {r next : Responder} {act : Act} {effects : List Effect} {past : List Deed} {bytes rest octets : Bytes}
  {frame : Frame} {frames requests : List Frame} {task : Nat} {outcome : Except LinkFault Bytes} {ended : Bool}
  {tasks : Table Nat Frame} {finished : List (Nat × Except LinkFault Bytes)}

theorem barren_of_fault {fault : LinkFault} (taken : Stream.take ended bytes = .fault fault rest) :
    Barren ended bytes := by
  intro more last frame proper begins
  have alone : ¬ frame.encode <+: bytes := by
    rintro ⟨behind,rfl⟩
    rw [Stream.take_encode proper] at taken
    cases taken
  cases ended with
  | true =>
      rw [last rfl,List.append_nil] at begins
      exact alone begins
  | false =>
      obtain within | ⟨missing,whole⟩ := List.prefix_or_prefix_of_prefix begins (List.prefix_append bytes more)
      · exact alone within
      · by_cases none : missing = []
        · rw [none,List.append_nil] at whole
          exact alone (whole ▸ List.prefix_refl _)
        · rw [Stream.take_part proper whole.symm none] at taken
          cases taken

theorem Barren.more (barren : Barren false bytes) (more : Bytes) : Barren false (bytes ++ more) := by
  intro further _ frame proper begins
  rw [List.append_assoc] at begins
  exact barren (more ++ further) nofun frame proper begins

theorem Barren.ends (barren : Barren ended bytes) : Barren true bytes := by
  intro more last frame proper begins
  rw [last rfl] at begins
  exact barren [] (fun _ => rfl) frame proper begins

theorem Barren.frames_eq (barren : Barren ended bytes) : Stream.frames bytes = [] := by
  apply Stream.frames_none
  intro frame proper begins
  apply barren [] (fun _ => rfl) frame proper
  rwa [List.append_nil]

theorem read_did (reading : r.reading = true) (ran : r.read = some (next,effects)) : Did r .read effects next := by
  unfold read at ran
  split at ran
  · cases ran
  · rename_i fault rest taken
    cases ran
    exact .stopped reading (barren_of_fault taken)
  · rename_i frame rest taken
    obtain ⟨proper,front⟩ := Stream.take_eq_frame.mp taken
    dsimp only at ran
    split at ran
    · rename_i stray
      cases ran
      exact .passed reading proper front stray
    · rename_i asks
      cases ran
      exact .gave reading proper front (Bool.eq_false_iff.mpr asks)

theorem step_did (ran : r.step act = some (next,effects)) : Did r act effects next := by
  cases act with
  | receive bytes =>
      simp only [step] at ran
      split at ran
      · cases ran
      · rename_i live
        cases ran
        exact .received (Bool.eq_false_iff.mpr live)
  | hangUp =>
      cases ran
      exact .hungUp
  | read =>
      simp only [step] at ran
      split at ran
      · rename_i reading
        exact read_did reading ran
      · cases ran
  | finish task outcome =>
      simp only [step,bind,Option.bind] at ran
      split at ran
      · cases ran
      · rename_i frame found
        have did : Did r (.finish task outcome) _ _ := .finished found
        cases answer : frame.answered outcome with
        | none =>
            simp only [answer] at ran did
            cases ran
            exact did
        | some answer' =>
            simp only [answer] at ran did
            cases ran
            exact did

theorem Reads.more (reads : Reads r octets frames rest) (live : r.ended = false) (bytes : Bytes) :
    Reads { r with buffer := r.buffer ++ bytes } (octets ++ bytes) frames (rest ++ bytes) := by
  constructor
  · rw [reads.whole,List.append_assoc]
  · exact reads.proper
  · intro reading
    rw [reads.unread reading]
  · intro shut
    have barren := reads.stopped shut
    rw [live] at barren
    dsimp only
    rw [live]
    exact barren.more bytes

theorem Reads.ends (reads : Reads r octets frames rest) : Reads { r with ended := true } octets frames rest :=
  ⟨reads.whole,reads.proper,reads.unread,fun shut => (reads.stopped shut).ends⟩

theorem Reads.stop (reads : Reads r octets frames rest) (reading : r.reading = true)
    (barren : Barren r.ended r.buffer) (left : Bytes) :
    Reads { r with buffer := left, reading := false } octets frames rest := by
  refine ⟨reads.whole,reads.proper,nofun,?_⟩
  intro _
  rwa [reads.unread reading] at barren

theorem Reads.take (reads : Reads r octets frames rest) (reading : r.reading = true) (proper : frame.Proper)
    (front : r.buffer = frame.encode ++ bytes) : Reads { r with buffer := bytes } octets (frames ++ [frame]) bytes := by
  constructor
  · rw [reads.whole,← reads.unread reading,front,List.flatMap_append,List.flatMap_singleton,List.append_assoc]
  · intro other member
    obtain member | member := List.mem_append.mp member
    · exact reads.proper other member
    · rw [List.mem_singleton.mp member]
      exact proper
  · intro _
    rfl
  · intro shut
    rw [reading] at shut
    cases shut

theorem answers_append (within : ∀ task ∈ finished.map Prod.fst, task < requests.length) (more : List Frame) :
    answers (requests ++ more) finished = answers requests finished := by
  unfold answers
  apply List.filterMap_congr
  intro (task,outcome) member
  have lower := within task (List.mem_map_of_mem member)
  dsimp only
  rw [List.getElem?_append_left lower]

theorem Handles.add (handles : Handles tasks requests finished bytes) (frame : Frame) :
    Handles (tasks.put requests.length frame) (requests ++ [frame]) finished bytes := by
  have fresh : requests.length ∉ finished.map Prod.fst := by
    intro member
    exact Nat.lt_irrefl _ (handles.within _ member)
  constructor
  · intro task
    by_cases same : task = requests.length
    · rw [same,Table.find?_put_self,if_neg fresh,List.getElem?_concat_length]
    · rw [Table.find?_put_ne _ _ same,handles.under task]
      obtain lower | upper := Nat.lt_or_gt_of_ne same
      · rw [List.getElem?_append_left lower]
      · have beyond : (requests ++ [frame])[task]? = none := by
          rw [List.getElem?_eq_none_iff,List.length_append,List.length_singleton]
          exact upper
        rw [beyond,List.getElem?_eq_none_iff.mpr (Nat.le_of_lt upper)]
  · exact handles.once
  · intro task member
    rw [List.length_append]
    exact Nat.lt_add_right _ (handles.within task member)
  · rw [handles.written,answers_append handles.within]

theorem Handles.finish (handles : Handles tasks requests finished bytes) (found : tasks.find? task = some frame)
    (outcome : Except LinkFault Bytes) :
    Handles (tasks.remove task) requests (finished ++ [(task,outcome)])
      (bytes ++ (frame.answered outcome).toList.flatMap Frame.encode) := by
  have stood := handles.under task
  rw [found] at stood
  split at stood
  · cases stood
  · rename_i fresh
    have keys : (finished ++ [(task,outcome)]).map Prod.fst = finished.map Prod.fst ++ [task] := List.map_append
    constructor
    · intro other
      rw [keys]
      by_cases same : other = task
      · rw [same,Table.find?_remove_self,if_pos (List.mem_append_right _ List.mem_cons_self)]
      · rw [Table.find?_remove_ne _ same,handles.under other]
        simp only [List.mem_append,List.mem_singleton,same,or_false]
    · rw [keys,List.nodup_append]
      refine ⟨handles.once,List.nodup_singleton _,?_⟩
      intro one before two after same
      rw [same,List.mem_singleton.mp after] at before
      exact fresh before
    · intro other member
      rw [keys,List.mem_append] at member
      obtain member | member := member
      · exact handles.within other member
      · rw [List.mem_singleton.mp member]
        exact (List.getElem?_eq_some_iff.mp stood.symm).1
    · unfold answers
      rw [handles.written,List.filterMap_append,List.flatMap_append]
      cases answer : frame.answered outcome with
      | none => simp [answers,← stood,answer]
      | some other => simp [answers,← stood,answer]

theorem asking_stray (stray : frame.isResponse = true) : asking (frames ++ [frame]) = asking frames := by
  simp [asking,stray]

theorem asking_wants (asks : frame.isResponse = false) : asking (frames ++ [frame]) = asking frames ++ [frame] := by
  simp [asking,asks]

theorem Reads.unheard (reads : Reads r (received past) frames rest) (now : Deed) (silent : now.act.octets = []) :
    Reads r (received (now :: past)) frames rest := by
  rw [received,silent,List.append_nil]
  exact reads

theorem Kept.quiet (kept : Kept past r frames rest) {more : List Frame} (idle : act.done? = none)
    (reads : Reads next (received (⟨r,act,[],next⟩ :: past)) more octets) (same : asking more = asking frames)
    (tasks : next.tasks = r.tasks) (numbered : next.nextTask = r.nextTask) :
    Kept (⟨r,act,[],next⟩ :: past) next more octets := by
  obtain ⟨_,handles,gave,numbers⟩ := kept
  constructor
  · exact reads
  · simpa only [done,written,idle,same,tasks,Option.toList,List.append_nil,List.flatMap_nil] using handles
  · simpa only [Responder.given,same,List.append_nil,List.filterMap_nil] using gave
  · rw [same,numbered,numbers]

theorem Kept.step (kept : Kept past r frames rest) (did : Did r act effects next) :
    ∃ frames rest, Kept (⟨r,act,effects,next⟩ :: past) next frames rest := by
  have reads := kept.reads
  cases did with
  | received live => exact ⟨_,_,kept.quiet rfl (reads.more live _) rfl rfl rfl⟩
  | hungUp => exact ⟨_,_,kept.quiet rfl (reads.ends.unheard _ rfl) rfl rfl rfl⟩
  | stopped reading barren => exact ⟨_,_,kept.quiet rfl ((reads.stop reading barren _).unheard _ rfl) rfl rfl rfl⟩
  | passed reading proper front stray =>
      have takes := reads.take reading proper front
      exact ⟨_,_,kept.quiet rfl (takes.unheard _ rfl) (asking_stray stray) rfl rfl⟩
  | @gave left frame reading proper front asks =>
      -- Requests are numbered by their place among those that ask.
      have adds := kept.handles.add frame
      rw [← kept.next] at adds
      refine ⟨frames ++ [frame],left,?_,?_,?_,?_⟩
      · obtain ⟨whole,proper,unread,stopped⟩ := (reads.take reading proper front).unheard ⟨r,.read,_,_⟩ rfl
        exact ⟨whole,proper,unread,stopped⟩
      · simpa [done,written,Act.done?,Effect.octets,asking_wants asks] using adds
      · simp [Responder.given,Effect.given?,asking_wants asks,kept.given,kept.next,List.zipIdx_append]
      · simp [asking_wants asks,kept.next]
  | @finished task frame outcome found =>
      refine ⟨frames,rest,?_,?_,?_,kept.next⟩
      · obtain ⟨whole,proper,unread,stopped⟩ := reads.unheard ⟨r,.finish task outcome,_,_⟩ rfl
        exact ⟨whole,proper,unread,stopped⟩
      · have finishes := kept.handles.finish found outcome
        cases answer : frame.answered outcome with
        | none => simpa [done,written,Act.done?,answer] using finishes
        | some answer' => simpa [done,written,Act.done?,Effect.octets,answer] using finishes
      · cases answer : frame.answered outcome with
        | none => simpa [Responder.given,answer] using kept.given
        | some answer' => simpa [Responder.given,List.filterMap_cons,Effect.given?,answer] using kept.given

theorem Course.kept (course : Course past r) : ∃ frames rest, Kept past r frames rest := by
  induction course with
  | start begins =>
      cases begins
      refine ⟨[],[],⟨rfl,nofun,fun _ => rfl,nofun⟩,⟨fun _ => rfl,List.nodup_nil,nofun,rfl⟩,rfl,rfl⟩
  | step _ _ ran ih =>
      obtain ⟨_,_,kept⟩ := ih
      exact kept.step (step_did ran)

theorem frames_of_waiting (waits : Stream.take ended bytes = .waiting) : Stream.frames bytes = [] := by
  apply Stream.frames_none
  rintro frame proper ⟨rest,rfl⟩
  rw [Stream.take_encode proper] at waits
  cases waits

theorem read_waits (stuck : r.read = none) : Stream.take r.ended r.buffer = .waiting := by
  unfold read at stuck
  split at stuck
  · assumption
  · cases stuck
  · dsimp only at stuck
    split at stuck
    · cases stuck
    · cases stuck

theorem Rested.unread (rested : Rested r) (reads : Reads r octets frames rest) : Stream.frames rest = [] := by
  cases reading : r.reading with
  | false => exact (reads.stopped reading).frames_eq
  | true =>
      rw [← reads.unread reading]
      cases ran : r.read with
      | none => exact frames_of_waiting (read_waits ran)
      | some after =>
          obtain ⟨next,effects⟩ := after
          refine absurd ⟨.read,effects,rfl,?_⟩ (rested next)
          simp only [step,reading,if_true,ran]

theorem finish_runs (found : r.tasks.find? task = some frame) (outcome : Except LinkFault Bytes) :
    ∃ effects, r.step (.finish task outcome) = some ({ r with tasks := r.tasks.remove task },effects) := by
  simp only [step,found,bind,Option.bind]
  cases frame.answered outcome with
  | none => exact ⟨_,rfl⟩
  | some answer => exact ⟨_,rfl⟩

theorem Rested.idle (rested : Rested r) (task : Nat) : r.tasks.find? task = none := by
  cases found : r.tasks.find? task with
  | none => rfl
  | some frame =>
      obtain ⟨effects,ran⟩ := finish_runs found (.ok [])
      exact absurd ⟨_,effects,rfl,ran⟩ (rested _)

-- What is left to do: a frame to read is at most a request to be done with.
def labour (r : Responder) : Nat := (if r.reading then 2 * r.buffer.length + 1 else 0) + r.tasks.length

theorem Works.less (works : Works next r) : next.labour < r.labour := by
  obtain ⟨act,effects,own,ran⟩ := works
  unfold labour
  cases step_did ran with
  | received live => cases own
  | hungUp => cases own
  | stopped reading =>
      simp only [reading,if_true]
      exact Nat.add_lt_add_right (Nat.succ_pos _) _
  | passed reading proper front =>
      have length := congrArg List.length front
      rw [List.length_append,Frame.encode_length,Frame.headerSize] at length
      simp only [reading,if_true]
      omega
  | @gave rest frame reading proper front =>
      have length := congrArg List.length front
      rw [List.length_append,Frame.encode_length,Frame.headerSize] at length
      have more := Table.length_put_le r.tasks r.nextTask frame
      simp only [reading,if_true]
      omega
  | finished found => exact Nat.add_lt_add_left (Table.length_remove_lt found) _

theorem works_ends (r : Responder) : Acc Works r := by
  -- Whatever the end does first, less is left to do.
  induction weight : r.labour using Nat.strongRecOn generalizing r with
  | _ _ lower =>
      constructor
      intro next works
      exact lower _ (weight ▸ works.less) next rfl

theorem Reads.front (reads : Reads r octets frames rest) :
    ∃ left, Stream.Front octets (frames ++ Stream.frames rest) left := by
  obtain ⟨left,front⟩ := Stream.frames_front rest
  refine ⟨left,?_,?_,front.beyond⟩
  · rw [reads.whole,List.flatMap_append,List.append_assoc,← front.whole]
  · intro frame member
    obtain member | member := List.mem_append.mp member
    · exact reads.proper frame member
    · exact front.proper frame member

theorem Kept.asked (kept : Kept past r frames rest) :
    asking (Stream.frames (received past)) = asking frames ++ asking (Stream.frames rest) := by
  obtain ⟨left,front⟩ := kept.reads.front
  rw [front.frames_eq]
  exact List.filter_append ..

theorem Kept.answering (kept : Kept past r frames rest) : Answering past (asking (Stream.frames (received past))) := by
  have within := kept.handles.within
  constructor
  · rw [kept.asked,kept.given,List.zipIdx_append]
    exact List.prefix_append _ _
  · exact kept.handles.once
  · intro task member
    rw [kept.given,List.length_zipIdx]
    exact within task member
  · rw [kept.asked,answers_append within,kept.handles.written]

theorem Kept.settled (kept : Kept past r frames rest) (rested : Rested r) :
    Settled past (asking (Stream.frames (received past))) := by
  have asked : asking (Stream.frames (received past)) = asking frames := by
    rw [kept.asked,rested.unread kept.reads]
    exact List.append_nil _
  rw [asked]
  constructor
  · exact kept.given
  · rw [List.perm_ext_iff_of_nodup kept.handles.once List.nodup_range]
    intro task
    rw [List.mem_range]
    constructor
    · exact kept.handles.within task
    · intro lower
      have under := kept.handles.under task
      rw [rested.idle,List.getElem?_eq_getElem lower] at under
      by_contra missing
      rw [if_neg missing] at under
      cases under

-- At any moment the handler was given the first of the requests that came in before the first octets that
-- are not a frame, each once, and each that it is done with was answered as it asked to be; no other octet
-- went out. Left alone, the end comes to rest, and then the handler was given all of them and is done with
-- all. It matters neither in which order the handler is done with the requests, nor what comes in behind them.
theorem Course.each_answered_once (course : Course past r) :
    (∃ rest, Stream.Front (received past) (Stream.frames (received past)) rest) ∧
    Answering past (asking (Stream.frames (received past))) ∧
    (∀ (request : Frame) (outcome : Except LinkFault Bytes),
      (request.isOneWay = true → request.answered outcome = none) ∧
      (request.isOneWay = false →
        ∃ answer, request.answered outcome = some answer ∧ answer.Answers request outcome)) ∧
    Acc Works r ∧ (Rested r → Settled past (asking (Stream.frames (received past)))) := by
  obtain ⟨frames,rest,kept⟩ := course.kept
  refine ⟨Stream.frames_front _,kept.answering,?_,works_ends r,kept.settled⟩
  intro request outcome
  exact ⟨Frame.answered_oneWay,Frame.answered_wanted⟩

theorem rested_shut (shut : r.reading = false) (idle : r.tasks = []) : Rested r := by
  rintro next ⟨act,effects,own,ran⟩
  cases act with
  | receive bytes => cases own
  | hangUp => cases own
  | read => simp [step,shut] at ran
  | finish task outcome => simp [step,idle,Table.find?] at ran

def wanted : Frame := .make .stat 1 [7]
def untold : Frame := (Frame.make .release 2 []).withFlags .oneWay
def stray : Frame := (Frame.make .stat 9 []).withFlags .response
def late : Frame := .make .acquire 3 [7,7]

-- Two requests, one of which wants no answer, an answer to nothing, and in two pieces a third request, before
-- octets with another magic number. The handler is done with them from the last to the first.
def bustle : List Act :=
  [.receive (wanted.encode ++ untold.encode),.read,.receive (stray.encode ++ late.encode.take 25),.read,.read,
    .finish 1 (.error .reset),.receive (late.encode.drop 25 ++ List.replicate 24 0xFF),.hangUp,.read,.read,
    .finish 2 (.error (.remote "gone")),.finish 0 (.ok [0,1])]

def bustled : List Deed × Responder := answering.follow [] {} bustle

theorem bustled_course : Course bustled.1 bustled.2 := answering.follow_runs (.start rfl) bustle

theorem each_answered_once_bustled :
    Course bustled.1 bustled.2 ∧ Rested bustled.2 ∧
      asking (Stream.frames (received bustled.1)) = [wanted,untold,late] ∧
      given bustled.1 = [(wanted,0),(untold,1),(late,2)] ∧ (done bustled.1).map Prod.fst = [1,2,0] ∧
      written bustled.1 = (late.refuse "remote handler failed: gone").encode ++ (wanted.respond [0,1]).encode ∧
      Answering bustled.1 [wanted,untold,late] ∧ Settled bustled.1 [wanted,untold,late] := by
  have rested : Rested bustled.2 := rested_shut rfl rfl
  have asked : asking (Stream.frames (received bustled.1)) = [wanted,untold,late] := by decide +kernel
  have sent : written bustled.1 =
      (late.refuse "remote handler failed: gone").encode ++ (wanted.respond [0,1]).encode := by decide +kernel
  obtain ⟨-,answering,-,-,settles⟩ := Course.each_answered_once bustled_course
  have settled := settles rested
  rw [asked] at answering settled
  exact ⟨bustled_course,rested,asked,rfl,rfl,sent,answering,settled⟩

end Responder
end LockLender
