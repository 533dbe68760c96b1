import LockLender.Fleet.Turns
import LockLender.HoldLog

namespace LockLender

structure Workload where
  clients : Nat
  rounds : Nat
  locks : List LockId
  seed : UInt64 := 0x10c4
  deriving Repr

namespace Workload

inductive Phase where
  | resting
  | asking (lock : LockId)
  | inside (lock : LockId)
  deriving DecidableEq, Repr

structure Worker where
  client : ClientId
  rounds : Nat
  seed : UInt64
  phase : Phase := .resting
  deriving Repr

structure Run where
  turns : Fleet.Turns := {}
  workers : List Worker := []
  log : HoldLog := {}

structure Report where
  violations : Nat
  entries : Nat
  entriesByLock : Nat
  -- No client holds a lock or is about to get or to give back one.
  resting : Bool
  -- No lock is kept by two clients.
  keptOnce : Bool
  waiters : Bool
  deriving DecidableEq, Repr

def scramble (seed : UInt64) : UInt64 := seed * 6364136223846793005 + 1442695040888963407

def pick (seed : UInt64) (locks : List LockId) : Option LockId :=
  locks[(scramble seed >>> 33).toNat % locks.length]?

def start (load : Workload) : Run where
  turns := (List.range load.clients).foldl (fun turns i => turns.join (Borrower.new (name i) 1 true)) {}
  workers := (List.range load.clients).map fun i => ⟨name i,load.rounds,load.seed + UInt64.ofNat i,.resting⟩
where
  name (i : Nat) : ClientId := ⟨"c" ++ Numeral.decimal i⟩

namespace Run

def ask (locks : List LockId) (turns : Fleet.Turns) (worker : Worker) : Fleet.Turns × Worker :=
  match worker.phase,worker.rounds,pick worker.seed locks with
  | .resting,rounds+1,some lock =>
    (turns.call worker.client .acquire lock,{ worker with rounds, seed := scramble worker.seed, phase := .asking lock })
  | _,_,_ => (turns,worker)

def got (events : List Fleet.Event) (client : ClientId) (lock : LockId) : Bool :=
  events.any fun
    | .done .acquire c l (.ok ()) => c = client ∧ l = lock
    | _ => false

def enter (events : List Fleet.Event) (log : HoldLog) (worker : Worker) : HoldLog × Worker :=
  match worker.phase with
  | .asking lock =>
    if got events worker.client lock then
      (log.enter lock worker.client,{ worker with phase := .inside lock })
    else (log,worker)
  | _ => (log,worker)

def leave (state : Fleet.Turns × HoldLog) (worker : Worker) : (Fleet.Turns × HoldLog) × Worker :=
  match worker.phase with
  | .inside lock =>
    ((state.1.call worker.client .release lock,state.2.exit lock worker.client),{ worker with phase := .resting })
  | _ => (state,worker)

def each {σ : Type} (act : σ → Worker → σ × Worker) (s : σ) : List Worker → σ × List Worker
  | [] => (s,[])
  | worker :: rest =>
    let (s,worker) := act s worker
    let (s,rest) := each act s rest
    (s,worker :: rest)

def pass (locks : List LockId) (run : Run) : Run :=
  let (turns,workers) := each (ask locks) run.turns run.workers
  let (events,turns) := turns.settled.takeLog
  let (log,workers) := each (enter events) run.log workers
  let ((turns,log),workers) := each leave (turns,log) workers
  { turns := turns.settled, workers, log }

end Run

-- Every pass lets at least one worker through until none has rounds left.
def run (load : Workload) : Run :=
  (List.range (load.clients * load.rounds)).foldl (fun run _ => run.pass load.locks) load.start

def report (load : Workload) : Report :=
  let run := load.run
  let states := run.turns.fleet.members.flatMap fun (_,b) => b.states
  { violations := run.log.violations.length
    entries := run.log.entries.length
    entriesByLock := (load.locks.flatMap run.log.order).length
    resting := states.all fun (_,state) => !state.busy
    keptOnce := load.locks.all fun lock => states.countP (· = (lock,.cachedFree)) ≤ 1
    waiters := run.turns.fleet.lender.loans.any fun (_,loan) => !loan.line.isEmpty }

end Workload
end LockLender
