import LockLender.Lender.Turns
import LockLender.Operator
import LockLender.Proofs.Borrower.Turns
import LockLender.Proofs.Lender.Loan

namespace LockLender.Operator
open Borrower CommandLine

section
variable {σ : Type} {outside : Surroundings σ} {scene : Scene σ} {lock : LockId} {purpose : Purpose}
  {presets : List (Except LockFault Reply)} {turns : Turns} {options : CommandLine.Hold} {server later : σ}
  {reply : Except LockFault Reply}

theorem call_eq (still : scene.client.ready = [])
    (begun : Turns.begin { scene.client with presets } false purpose lock = turns) (quiet : turns.ready = []) :
    Surroundings.call purpose lock presets scene =
      (outcome? turns.log,{ scene with client := { turns with log := [] } }) := by
  subst begun
  unfold Surroundings.call
  rw [Turns.settled_begin (by exact still) quiet]
  rfl

structure Idle (client : Turns) (lock : LockId) (e : Entry) : Prop where
  lived : client.borrower.Lived
  entry : client.borrower.entry lock = e
  ready : client.ready = []
  framed : client.framed = []
  log : client.log = []

theorem idle_new (self : ClientId) (lock : LockId) : Idle { borrower := .new self 1 true } lock {} :=
  ⟨new_lived self 1 true,rfl,rfl,rfl,rfl⟩

theorem call_retry (scene : Scene σ) (idle : Idle scene.client lock {}) :
    ∃ client, Surroundings.call .acquire lock [.ok .retry] scene = (none,{ scene with client }) := by
  obtain ⟨next,begun⟩ := Turns.begin_acquire_retry { scene.client with presets := [.ok .retry] }
    (by rw [idle.entry]) rfl
  refine ⟨{ scene.client with borrower := next, presets := [], log := [] },?_⟩
  rw [call_eq idle.ready begun idle.ready]
  simp [idle.log,outcome?]

theorem call_granted (scene : Scene σ) (idle : Idle scene.client lock {}) : ∃ client,
    Surroundings.call .acquire lock [.ok .granted] scene = (some (.ok ()),{ scene with client }) ∧
      Idle client lock { state := .held } := by
  have lived := @Turns.begin_lived { scene.client with presets := [.ok .granted] } idle.lived false .acquire lock
  obtain ⟨next,begun,entry⟩ := Turns.begin_acquire_granted { scene.client with presets := [.ok .granted] }
    (by rw [idle.entry]) rfl (by simp [idle.framed])
  rw [begun] at lived
  refine ⟨{ scene.client with borrower := next, presets := [], log := [] },?_,
    lived,by simp [entry,idle.entry],idle.ready,idle.framed,rfl⟩
  rw [call_eq idle.ready begun idle.ready]
  simp [idle.log,outcome?]

theorem call_release (scene : Scene σ) (idle : Idle scene.client lock { state := .held }) :
    ∃ client, Surroundings.call .release lock [] scene = (some (.ok ()),{ scene with client }) := by
  obtain ⟨next,begun⟩ := Turns.begin_release { scene.client with presets := [] } idle.lived
    (by rw [idle.entry]) (by rw [idle.entry]) (by simp [idle.framed])
  refine ⟨{ scene.client with borrower := next, presets := [], log := [] },?_⟩
  rw [call_eq idle.ready begun (by simp [idle.ready,idle.entry])]
  simp [idle.log,idle.ready,idle.entry,outcome?]

theorem join_ok (dialed : Target.dial outside.connect options.server = .ok server) :
    outside.means.join options.server scene = (some (.ok (outside.tenant server)),{ scene with server := some server }) := by
  change outside.join options.server scene = _
  unfold Surroundings.join
  rw [dialed]

theorem acquire_served (served : outside.service.acquire server lock outside.self = (reply,later)) :
    (outside.tenant server).acquire lock { scene with server := some server } =
      Surroundings.call .acquire lock [reply] { scene with server := some later } := by
  change outside.acquire server lock _ = _
  unfold Surroundings.acquire
  rw [Option.getD_some,served]

theorem print_all (lines : List String) :
    lines.forM outside.means.print scene = (some (),{ scene with lines := scene.lines ++ lines }) := by
  induction lines generalizing scene with
  | nil =>
      rw [List.append_nil]
      rfl
  | cons line lines ih =>
      have printed : outside.means.print line scene = (some (),{ scene with lines := scene.lines ++ [line] }) := rfl
      refine (done_bind printed).trans (ih.trans ?_)
      rw [List.append_assoc,List.singleton_append]

theorem hold_retry (dialed : Target.dial outside.connect options.server = .ok server)
    (acquired : outside.service.acquire server options.lock outside.self = (.ok .retry,later)) :
    (hold outside options).1.ending = .waiting ∧ (hold outside options).2 = some later := by
  let start : Scene σ := { client := { borrower := .new outside.self 1 true } }
  obtain ⟨client,waits⟩ := call_retry { start with server := some later } (idle_new outside.self options.lock)
  have held : outside.means.hold options start = (none,{ start with server := some later, client }) := by
    unfold Means.hold
    rw [done_bind (join_ok dialed)]
    exact stuck_bind ((acquire_served acquired).trans waits)
  unfold hold Surroundings.visit OptionT.run
  rw [held]
  exact ⟨rfl,rfl⟩

theorem hold_granted (dialed : Target.dial outside.connect options.server = .ok server)
    (acquired : outside.service.acquire server options.lock outside.self = (.ok .granted,later)) :
    (hold outside options).1.ending = .finished ∧ (hold outside options).2 = some later := by
  let start : Scene σ := { client := { borrower := .new outside.self 1 true } }
  obtain ⟨client,granted,idle⟩ := call_granted { start with server := some later }
    (idle_new outside.self options.lock)
  let holding : Scene σ := { start with
    server := some later, client, lines := [holdingLine options.lock outside.self] }
  obtain ⟨last,released⟩ := call_release holding idle
  have printed : outside.means.print (holdingLine options.lock (outside.tenant server).self)
      { start with server := some later, client } = (some (),holding) := rfl
  have rested : outside.means.rest options.millis holding = (some (),holding) := rfl
  have seen : (outside.tenant server).records { holding with client := last } =
      (some last.borrower,{ holding with client := last }) := rfl
  have held : outside.means.hold options start = (some .finished,{ holding with
      client := last, lines := holding.lines ++ releasedLines options.lock last.borrower }) := by
    unfold Means.hold
    refine (done_bind (join_ok dialed)).trans ?_
    refine (done_bind ((acquire_served acquired).trans granted)).trans ?_
    refine (done_bind printed).trans ((done_bind rested).trans ((done_bind released).trans ?_))
    exact (done_bind seen).trans (done_bind (print_all _))
  unfold hold Surroundings.visit OptionT.run
  rw [held]
  exact ⟨rfl,rfl⟩

end
variable {outside : Surroundings Lender.Turns} {options : CommandLine.Hold} {server : Lender.Turns}

-- The tool ends well exactly when it leaves its client as the owner.
theorem hold_finished_iff (lends : outside.service = Lender.Turns.service)
    (dialed : Target.dial outside.connect options.server = .ok server) :
    ∃ later, (hold outside options).2 = some later ∧ ((hold outside options).1.ending = .finished ↔
      (later.lender.loan options.lock).owner = some outside.self) := by
  rcases served : server.lender.serve (.acquire options.lock outside.self) with ⟨reply,told,lender⟩
  obtain ⟨status,loan,rfl,asked,here,_⟩ := Lender.serve_acquire served
  have acquired : outside.service.acquire server options.lock outside.self =
      (.ok status.reply,({ server with lender } : Lender.Turns).dispatch told) := by
    simp [lends,Lender.Turns.service,Lender.Turns.serve,served]
  have kept : (({ server with lender } : Lender.Turns).dispatch told).lender = lender := by
    unfold Lender.Turns.dispatch
    split <;> rfl
  refine ⟨({ server with lender } : Lender.Turns).dispatch told,?_⟩
  rw [kept,here]
  cases asked with
  | free free =>
      obtain ⟨finished,left⟩ := hold_granted dialed acquired
      exact ⟨left,iff_of_true finished rfl⟩
  | own own =>
      obtain ⟨finished,left⟩ := hold_granted dialed acquired
      exact ⟨left,iff_of_true finished own⟩
  | again keeper lent other | queue keeper lent other =>
      obtain ⟨waiting,left⟩ := hold_retry dialed acquired
      refine ⟨left,iff_of_false (by rw [waiting]; nofun) ?_⟩
      intro own
      exact other (Option.some.inj (lent.symm.trans own))

def site : Surroundings Lender.Turns where
  connect _ := .ok {}
  service := Lender.Turns.service
  self := ⟨"ada"⟩

def order : CommandLine.Hold := { server := "127.0.0.1:7410", lock := ⟨7⟩ }

def stay : Visit Lender.Turns := run site (.hold order)

theorem hold_strands : stay.1.ending = .finished ∧ stay.2.map (fun server =>
    ((server.lender.loan ⟨7⟩).owner,(server.lender.acquire ⟨7⟩ ⟨"bob"⟩).1)) = some (some ⟨"ada"⟩,.retry) := by
  have dialed : Target.dial site.connect order.server = .ok ({} : Lender.Turns) := rfl
  have acquired : site.service.acquire {} order.lock site.self = (.ok .granted,_) := rfl
  obtain ⟨finished,left⟩ := hold_granted dialed acquired
  refine ⟨finished,?_⟩
  change (hold site order).2.map _ = _
  rw [left]
  rfl

end LockLender.Operator
