import LockLender.Borrower.Turns
import LockLender.CommandLine
import LockLender.Link.Target

namespace LockLender

def Borrower.Stats.report (stats : Borrower.Stats) : List String :=
  let entry (name : String) (n : Nat) : String :=
    "  \"" ++ name ++ "\": " ++ Numeral.decimal (UInt64.ofNat n).toNat
  ["\x7b",
    entry "acquire_rpcs" stats.acquireRpcs ++ ",",
    entry "release_rpcs" stats.releaseRpcs ++ ",",
    entry "cache_hits" stats.cacheHits ++ ",",
    entry "revokes_received" stats.revokesReceived ++ ",",
    entry "retries_received" stats.retriesReceived,
    "\x7d"]

namespace Operator
open CommandLine

inductive Ending where
  | finished
  | failed (fault : LockFault)
  -- A server is not run by a tool.
  | misplaced
  -- The lock is another's, and no word came that it is free.
  | waiting
  deriving DecidableEq, Repr

def Ending.message : Ending → String
  | .finished => ""
  | .failed fault => fault.message
  | .misplaced => "serve is run by the daemon entry point"
  | .waiting => "the lock is held elsewhere"

def countLine (lock : LockId) (count : UInt64) : String :=
  "lock " ++ lock.text ++ ": " ++ Numeral.decimal count.toNat

def holdingLine (lock : LockId) (self : ClientId) : String :=
  "holding lock " ++ lock.text ++ " as " ++ self.name

def releasedLines (lock : LockId) (b : Borrower) : List String :=
  let state := ((b.state? lock).map LockState.text).getD ""
  ("released lock " ++ lock.text ++ " (now " ++ state ++ ")") :: b.stats.report

section
variable {m : Type → Type} [Monad m]

structure Tenant (m : Type → Type) where
  self : ClientId
  acquire : LockId → m Borrower.Outcome
  release : LockId → m Borrower.Outcome
  records : m Borrower

structure Means (m : Type → Type) where
  count : String → LockId → m (Except LockFault UInt64)
  join : String → m (Except LinkFault (Tenant m))
  print : String → m Unit
  rest : UInt64 → m Unit

def Means.stat (means : Means m) (options : CommandLine.Stat) : m Ending := do
  match ← means.count options.server options.lock with
  | .error fault => return .failed fault
  | .ok count =>
    means.print (countLine options.lock count)
    return .finished

-- Takes the lock, holds it, and gives it up. The client then ends without giving
-- back what it keeps.
def Means.hold (means : Means m) (options : CommandLine.Hold) : m Ending := do
  match ← means.join options.server with
  | .error fault => return .failed (.link fault)
  | .ok tenant =>
    match ← tenant.acquire options.lock with
    | .error fault => return .failed fault
    | .ok () =>
      means.print (holdingLine options.lock tenant.self)
      means.rest options.millis
      match ← tenant.release options.lock with
      | .error fault => return .failed fault
      | .ok () =>
        (releasedLines options.lock (← tenant.records)).forM means.print
        return .finished

def Means.run (means : Means m) : Command → m Ending
  | .serve _ => return .misplaced
  | .stat options => means.stat options
  | .hold options => means.hold options

end

structure Surroundings (σ : Type) where
  connect : Target → Except LinkFault σ
  service : Service σ
  self : ClientId

structure Report where
  lines : List String := []
  ending : Ending := .finished
  deriving DecidableEq, Repr

abbrev Visit (σ : Type) := Report × Option σ

structure Scene (σ : Type) where
  client : Borrower.Turns
  server : Option σ := none
  lines : List String := []

-- Whoever waits for a callback waits for ever.
abbrev Acting (σ : Type) := OptionT (StateM (Scene σ))

def outcome? (log : List Borrower.Event) : Option Borrower.Outcome :=
  log.findSome? fun
    | .done _ _ outcome => some outcome
    | _ => none

namespace Surroundings
variable {σ : Type} (outside : Surroundings σ)

def call (purpose : Borrower.Purpose) (lock : LockId) (presets : List (Except LockFault Reply)) :
    Acting σ Borrower.Outcome := fun scene =>
  let (log,client) := ({ scene.client with presets }.submit (.begin purpose lock)).settled.takeLog
  (outcome? log,{ scene with client })

def acquire (reached : σ) (lock : LockId) : Acting σ Borrower.Outcome := fun scene =>
  let (reply,server) := outside.service.acquire (scene.server.getD reached) lock outside.self
  call .acquire lock [reply] { scene with server := some server }

def tenant (reached : σ) : Tenant (Acting σ) where
  self := outside.self
  acquire := outside.acquire reached
  release lock := call .release lock []
  records := return (← get).client.borrower

def count (address : String) (lock : LockId) : Acting σ (Except LockFault UInt64) := fun scene =>
  match Target.dial outside.connect address with
  | .error fault => (some (.error (.link fault)),scene)
  | .ok server =>
    let (count,server) := outside.service.stat server lock
    (some count,{ scene with server := some server })

def join (address : String) : Acting σ (Except LinkFault (Tenant (Acting σ))) := fun scene =>
  match Target.dial outside.connect address with
  | .error fault => (some (.error fault),scene)
  | .ok server => (some (.ok (outside.tenant server)),{ scene with server := some server })

def means : Means (Acting σ) where
  count := outside.count
  join := outside.join
  print line := modify fun scene => { scene with lines := scene.lines ++ [line] }
  rest _ := pure ()

def visit (act : Acting σ Ending) : Visit σ :=
  let (ending,scene) := act.run { client := { borrower := .new outside.self 1 true } }
  ({ lines := scene.lines, ending := ending.getD .waiting },scene.server)

end Surroundings

variable {σ : Type}

def stat (outside : Surroundings σ) (options : CommandLine.Stat) : Visit σ := outside.visit (outside.means.stat options)

def hold (outside : Surroundings σ) (options : CommandLine.Hold) : Visit σ := outside.visit (outside.means.hold options)

def run (outside : Surroundings σ) (command : Command) : Visit σ := outside.visit (outside.means.run command)

end Operator
end LockLender
