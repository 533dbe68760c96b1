import LockLender.Link.Metrics
import LockLender.Table
import LockLender.Wire.Frame

namespace LockLender

namespace Caller

inductive Inbox where
  | empty
  | frame (frame : Frame)
  -- The connection failed, and nothing more will come.
  | severed
  deriving DecidableEq, Repr

-- Where a call stands: it has its number; it is entered and counted, and its
-- frame is to be written; its frame went out; or it is over, and has yet to
-- take itself out of the table and to be counted.
inductive Place where
  | numbered
  | entered
  | sent
  | leaving (fault : LinkFault) (counter : Counter)
  deriving DecidableEq, Repr

structure Call where
  frame : Frame
  -- How many milliseconds an answer may take.
  limit : Option UInt64 := none
  place : Place := .numbered
  inbox : Inbox := .empty
  deriving DecidableEq, Repr

abbrev Result := Except LinkFault (Option Frame)

inductive Effect where
  | send (frame : Frame)
  | done (call : Nat) (result : Result)

def Effect.sent? : Effect → Option Frame
  | .send frame => some frame
  | .done .. => none

def Effect.result? : Effect → Option Result
  | .send _ => none
  | .done _ result => some result

inductive Act where
  | begin (opcode : Opcode) (payload : Bytes) (limit : Option UInt64)
  -- A call that wants no answer.
  | beginOneWay (opcode : Opcode) (payload : Bytes)
  | enter (call : Nat)
  | write (call : Nat) (outcome : Except LinkFault Unit)
  | expire (call : Nat)
  | leave (call : Nat)
  | finish (call : Nat)
  -- The reader takes a frame from the connection, or finds that it failed.
  | arrive (frame : Frame)
  | sever

end Caller

structure Caller where
  nextNumber : UInt64 := 1
  closed : Bool := false
  -- The calls that wait for an answer, by their numbers.
  waiting : Table UInt64 Nat := []
  calls : Table Nat Caller.Call := []
  nextCall : Nat := 0
  metrics : Metrics := {}
  deriving Repr

namespace Caller

def opened : Caller := { metrics := ({} : Metrics).record .connectionsOpened }

def count (caller : Caller) (counter : Counter) : Caller :=
  { caller with metrics := caller.metrics.record counter }

def put (caller : Caller) (id : Nat) (call : Call) : Caller :=
  { caller with calls := caller.calls.put id call }

def finishWith (caller : Caller) (id : Nat) (result : Result) : Caller × List Effect :=
  ({ caller with calls := caller.calls.remove id },[.done id result])

def start (caller : Caller) (flags : Flags) (opcode : Opcode) (payload : Bytes) (limit : Option UInt64) :
    Caller :=
  let frame := (Frame.make opcode caller.nextNumber payload).withFlags flags
  { caller.put caller.nextCall { frame, limit } with
    nextNumber := caller.nextNumber + 1
    nextCall := caller.nextCall + 1 }

-- Each step is one indivisible act of one call, of the connection's reader or of
-- the clock, and steps of different calls may fall in any order.
def enter (caller : Caller) (id : Nat) (call : Call) : Caller × List Effect :=
  if call.frame.isOneWay then ((caller.put id { call with place := .entered }).count .requestsSent,[])
  else if caller.closed then caller.finishWith id (.error .reset)
  else
    let caller := { caller with waiting := caller.waiting.put call.frame.request id }
    ((caller.put id { call with place := .entered }).count .requestsSent,[])

def write (caller : Caller) (id : Nat) (call : Call) : Except LinkFault Unit → Caller × List Effect
  | .ok () =>
    if call.frame.isOneWay then
      let (caller,done) := caller.finishWith id (.ok none)
      (caller,.send call.frame :: done)
    else (caller.put id { call with place := .sent },[.send call.frame])
  | .error fault =>
    if call.frame.isOneWay then caller.finishWith id (.error fault)
    else (caller.put id { call with place := .leaving fault .errors },[])

def finish (caller : Caller) (id : Nat) : Inbox → Option (Caller × List Effect)
  | .empty => none
  | .frame frame =>
    if frame.isError then
      some ((caller.count .errors).finishWith id (.error (.remote (Utf8.forgive frame.payload))))
    else some (caller.finishWith id (.ok (some frame)))
  | .severed => some ((caller.count .errors).finishWith id (.error .reset))

def arrive (caller : Caller) (frame : Frame) : Caller :=
  let caller := caller.count .responsesReceived
  match caller.waiting.find? frame.request with
  | none => caller
  | some id =>
    let caller := { caller with waiting := caller.waiting.remove frame.request }
    match caller.calls.find? id with
    | none => caller
    | some call => caller.put id { call with inbox := .frame frame }

def sever (caller : Caller) : Caller :=
  let failed := caller.waiting.map (·.2)
  { caller with
    closed := true
    waiting := []
    calls := caller.calls.map fun (id,call) =>
      if id ∈ failed then (id,{ call with inbox := .severed }) else (id,call) }

def step (caller : Caller) : Act → Option (Caller × List Effect)
  | .begin opcode payload limit => some (caller.start .none opcode payload limit,[])
  | .beginOneWay opcode payload => some (caller.start .oneWay opcode payload none,[])
  | .enter id => do
    let call ← caller.calls.find? id
    if call.place = .numbered then caller.enter id call else none
  | .write id outcome => do
    let call ← caller.calls.find? id
    if call.place = .entered then caller.write id call outcome else none
  | .expire id => do
    let call ← caller.calls.find? id
    let millis ← call.limit
    if call.place = .sent ∧ call.inbox = .empty then
      return (caller.put id { call with place := .leaving (.replyTimeout call.frame.request millis) .timeouts },[])
    else none
  | .leave id => do
    let call ← caller.calls.find? id
    match call.place with
    | .leaving fault counter =>
      let caller := { caller with waiting := caller.waiting.remove call.frame.request }
      return (caller.count counter).finishWith id (.error fault)
    | _ => none
  | .finish id => do
    let call ← caller.calls.find? id
    if call.place = .sent then caller.finish id call.inbox else none
  | .arrive frame => if caller.closed then none else some (caller.arrive frame,[])
  | .sever => if caller.closed then none else some (caller.sever,[])

def acts (id : Nat) (call : Call) (outcome : Except LinkFault Unit) : Act :=
  match call.place with
  | .numbered => .enter id
  | .entered => .write id outcome
  | .sent => .finish id
  | .leaving .. => .leave id

-- Steps of a call until it waits or has returned. There are four at most.
def advance (caller : Caller) (id : Nat) (outcome : Except LinkFault Unit) : Caller × List Effect :=
  go 4 caller []
where
  go : Nat → Caller → List Effect → Caller × List Effect
    | 0, caller, effects => (caller,effects)
    | bound+1, caller, effects =>
      match (caller.calls.find? id).bind fun call => caller.step (acts id call outcome) with
      | none => (caller,effects)
      | some (caller,more) => go bound caller (effects ++ more)

end Caller
end LockLender
