import LockLender.Daemon
import LockLender.Gate
import LockLender.Lender
import LockLender.Link.Caller
import LockLender.Link.Pool
import LockLender.Link.Remote
import LockLender.Operator
import Std.Async.DNS
import Std.Async.Signal
import Std.Async.TCP
import Std.Async.Timer

namespace LockLender.Program
open Std.Async

abbrev Socket := TCP.Socket.Client

instance : Inhabited LinkFault := ⟨.reset⟩

def outward : Address → Std.Net.SocketAddress
  | .v4 octets port =>
    let part (i : Nat) := octets.getD i 0
    .v4 ⟨.ofParts (part 0) (part 1) (part 2) (part 3),port⟩
  | .v6 groups _ port =>
    let part (i : Nat) := groups.getD i 0
    .v6 ⟨.ofParts (part 0) (part 1) (part 2) (part 3) (part 4) (part 5) (part 6) (part 7),port⟩

def inward : Std.Net.SocketAddress → Address
  | .v4 found => .v4 found.addr.octets.toList found.port
  | .v6 found => .v6 found.addr.segments.toList 0 found.port

def resolve : Target → Async Std.Net.SocketAddress
  | .socket address => return outward address
  | .host name port => do
    let found ← DNS.getAddrInfo name ""
    match (found.toList.head? : Option Std.Net.IPAddr) with
    | some (.v4 first) => return .v4 ⟨first,port⟩
    | some (.v6 first) => return .v6 ⟨first,port⟩
    | none => throw (IO.userError name)

def kindOf : IO.Error → IoKind
  | .noSuchThing .. => .connectionRefused
  | .resourceVanished .. => .connectionReset
  | .timeExpired .. => .timedOut
  | .permissionDenied .. => .permissionDenied
  | .invalidArgument .. => .invalidInput
  | .unexpectedEof => .unexpectedEof
  | _ => .other

def faultOf (error : IO.Error) : LinkFault :=
  match kindOf error with
  | .connectionReset | .unexpectedEof | .brokenPipe => .reset
  | kind => .io kind

def milliseconds (n : UInt64) : Std.Time.Millisecond.Offset := ⟨n.toNat⟩

structure Line where
  socket : Socket
  caller : IO.Ref Caller
  results : IO.Ref (Table Nat (IO.Promise Caller.Result))

namespace Line

-- One act of the calling end; who gets a result by it is woken. Frames have
-- been written when the act says that they were.
def act (line : Line) (act : Caller.Act) : Async Unit := do
  let effects ← line.caller.modifyGet fun caller =>
    match caller.step act with
    | some (caller,effects) => (effects,caller)
    | none => ([],caller)
  for effect in effects do
    match effect with
    | .send _ => pure ()
    | .done id result =>
      let waiting ← line.results.modifyGet fun results => (results.find? id,results.remove id)
      if let some promise := waiting then promise.resolve result

def wake (line : Line) : Async Unit := do
  for (id,_) in (← line.caller.get).calls do line.act (.finish id)

def sever (line : Line) : Async Unit := do
  line.act .sever
  line.wake

partial def read (line : Line) (buffer : Bytes) : Async Unit := do
  match Stream.take false buffer with
  | .fault .. => line.sever
  | .frame frame rest =>
    line.act (.arrive frame)
    line.wake
    read line rest
  | .waiting =>
    let received ← try line.socket.recv? 65536 catch _ => pure none
    match received with
    | none => line.sever
    | some more => read line (buffer ++ more.toList)

def call (line : Line) (opcode : Opcode) (payload : Bytes) (limit : Option UInt64) :
    Async (Except LinkFault Frame) := do
  let promise ← IO.Promise.new
  let id ← line.caller.modifyGet fun caller => (caller.nextCall,caller.start .none opcode payload limit)
  line.results.modify (·.put id promise)
  line.act (.enter id)
  if let some call := (← line.caller.get).calls.find? id then
    let outcome ← try
        line.socket.send call.frame.encode.toByteArray
        pure (.ok ())
      catch error => pure (.error (faultOf error))
    line.act (.write id outcome)
    line.act (.leave id)
    line.act (.finish id)
  if let some millis := limit then
    background do
      sleep (milliseconds millis)
      line.act (.expire id)
      line.act (.leave id)
  match ← Async.ofPurePromise (pure promise) with
  | .ok (some frame) => return .ok frame
  | .ok none => return .error .reset
  | .error fault => return .error fault

end Line

def connect (link : LinkSettings) (text : String) : Async (Except LinkFault Line) := do
  match Target.parse? text with
  | none => return .error (.io .invalidInput)
  | some target =>
    let dialing : Async (Except LinkFault Socket) := do
      try
        let socket ← TCP.Socket.Client.mk
        socket.connect (← resolve target)
        if link.nodelay then socket.noDelay
        return .ok socket
      catch error => return .error (.io (kindOf error))
    let waiting : Async (Except LinkFault Socket) := do
      sleep (milliseconds link.connectMillis)
      return .error (.connectTimeout text link.connectMillis)
    match ← Async.race dialing waiting with
    | .error fault => return .error fault
    | .ok socket =>
      let line : Line := { socket, caller := ← IO.mkRef Caller.opened, results := ← IO.mkRef [] }
      background (line.read [])
      return .ok line

def ask (line : Line) (limit : UInt64) (request : Request) : Async (Except LockFault Reply) := do
  return Remote.reply (← line.call request.opcode (Coded.encode request) (some limit))

abbrev Handler := Frame → Async (Except LinkFault Bytes)

structure Desk where
  socket : Socket
  responder : IO.Ref Responder
  handler : Handler

namespace Desk

mutual
partial def act (desk : Desk) (act : Responder.Act) : Async Bool := do
  let step ← desk.responder.modifyGet fun responder =>
    match responder.step act with
    | some (responder,effects) => (some effects,responder)
    | none => (none,responder)
  match step with
  | none => return false
  | some effects =>
    effects.forM desk.perform
    return true

partial def perform (desk : Desk) : Responder.Effect → Async Unit
  | .write bytes => do
    try desk.socket.send bytes.toByteArray catch _ => pure ()
  | .handle task frame => background do
    let outcome ← desk.handler frame
    let _ ← desk.act (.finish task outcome)
end

partial def run (desk : Desk) : Async Unit := do
  if ← desk.act .read then run desk
  else if (← desk.responder.get).reading then
    let received ← try desk.socket.recv? 65536 catch _ => pure none
    let _ ← desk.act (match received with
      | some bytes => .receive bytes.toList
      | none => .hangUp)
    run desk

end Desk

partial def accept (listener : TCP.Socket.Server) (handler : Handler) : Async Unit := do
  let socket ← listener.accept
  socket.noDelay
  let desk : Desk := { socket, responder := ← IO.mkRef {}, handler }
  background desk.run
  accept listener handler

def listen (address : Address) : Async TCP.Socket.Server := do
  let listener ← TCP.Socket.Server.mk
  listener.bind (outward address)
  listener.listen 1024
  return listener

structure Hall where
  gate : IO.Ref Gate
  waiting : IO.Ref (Table Nat (IO.Promise UInt64))

namespace Hall

partial def pursue (hall : Hall) (id : Nat) : Async Unit := do
  let step ← hall.gate.modifyGet fun gate =>
    match gate.advance id with
    | some (count,gate) => (some count,gate)
    | none => (none,gate)
  match step with
  | none => return
  | some none => pursue hall id
  | some (some count) =>
    let found ← hall.waiting.modifyGet fun waiting => (waiting.find? id,waiting.remove id)
    if let some promise := found then promise.resolve count

def serve (hall : Hall) : Request → Async Reply
  | .stat _ => return .count (← hall.gate.get).stat
  | .release lock _ => do
    let (woken,count) ← hall.gate.modifyGet fun gate =>
      let (woken,gate) := gate.release lock
      ((woken,gate.stat),gate)
    if let some id := woken then hall.pursue id
    return .count count
  | .acquire lock client => do
    let promise ← IO.Promise.new
    let id ← hall.gate.modifyGet fun gate => gate.enter client lock
    hall.waiting.modify (·.put id promise)
    hall.pursue id
    return .count (← Async.ofPurePromise (pure promise))

end Hall

structure Office where
  lender : IO.Ref Lender
  pool : IO.Ref Pool
  lines : IO.Ref (Table Nat Line)
  link : LinkSettings

namespace Office

def step (office : Office) (act : Pool.Act) : Async (Pool × List Pool.Effect) :=
  office.pool.modifyGet fun pool =>
    match pool.step act with
    | some (next,effects) => ((pool,effects),next)
    | none => ((pool,[]),pool)

def survey (office : Office) : Async Unit := do
  for (connection,line) in (← office.lines.get) do
    if (← line.caller.get).closed then
      office.lines.modify (·.remove connection)
      let _ ← office.step (.close connection)

def obtained (office : Office) : List Pool.Effect → Async (Option Line)
  | [.obtained _ connection] => return (← office.lines.get).find? connection
  | _ => return none

def fail (office : Office) (user : Nat) (fault : LinkFault) : Async Unit := do
  let _ ← office.step (.fail user fault)
  let _ ← office.step (.evict user)

def enter (office : Office) (client : String) : Async (Except LinkFault (Nat × Line)) := do
  let (before,_) ← office.step (.begin client)
  let user := before.nextUser
  office.survey
  let (_,looked) ← office.step (.look user)
  if let some line := ← office.obtained looked then return .ok (user,line)
  match ← connect office.link client with
  | .error fault =>
    let _ ← office.step (.dial user (.error fault))
    return .error fault
  | .ok line =>
    let (before,_) ← office.step (.dial user (.ok ()))
    office.lines.modify (·.put before.nextConnection line)
    office.survey
    let (_,offered) ← office.step (.offer user)
    match ← office.obtained offered with
    | some line => return .ok (user,line)
    | none =>
      office.fail user .reset
      return .error .reset

def tell (office : Office) (notice : Notice) : Async Bool := do
  match ← office.enter notice.client.name with
  | .error _ => return false
  | .ok (user,line) =>
    match ← line.call notice.callback.opcode (Coded.encode notice.callback) (some office.link.responseMillis) with
    | .ok _ =>
      let _ ← office.step (.succeed user)
      return true
    | .error fault =>
      office.fail user fault
      return false

def deliver (office : Office) (notices : List Notice) : Async Unit := do
  for notice in notices do
    let ok ← office.tell notice
    office.lender.modify (·.noticed notice ok)

def serve (office : Office) (request : Request) : Async Reply := do
  let (reply,notices) ← office.lender.modifyGet fun lender =>
    let (reply,notices,lender) := lender.serve request
    ((reply,notices),lender)
  background (office.deliver notices)
  return reply

end Office

def handled (serve : Request → Async Reply) : Handler :=
  Frame.handled Request.opcode Request.shown fun request => return .ok (← serve request)

def serve (options : CommandLine.Serve) : Async UInt32 := do
  let contents ← try
      let bytes ← IO.FS.readBinFile options.config
      pure (some bytes.toList)
    catch error =>
      match error with
      | .noFileOrDirectory .. => pure none
      | _ => throw error
  match options.settings contents with
  | .error fault =>
    IO.eprintln ("Error: " ++ fault.message)
    return fault.exitCode
  | .ok settings =>
    let serving : Request → Async Reply ← match settings.mode with
      | .baseline => do
        let hall : Hall := { gate := ← IO.mkRef {}, waiting := ← IO.mkRef [] }
        pure hall.serve
      | .caching => do
        let office : Office := {
          lender := ← IO.mkRef {}, pool := ← IO.mkRef {}, lines := ← IO.mkRef [], link := settings.link }
        pure office.serve
    let listener ← listen settings.bind
    background (accept listener (handled serving))
    let interrupt ← Signal.Waiter.mk .sigint false
    let _ ← (← interrupt.wait).block
    return 0

structure Tenant where
  line : Line
  limit : UInt64
  borrower : IO.Ref Borrower
  outcomes : IO.Ref (Table Nat (IO.Promise Borrower.Outcome))

namespace Tenant

mutual
partial def perform (tenant : Tenant) : Borrower.Effect → Async Unit
  | .ask call lock => do
    tenant.request call (.acquire lock (← tenant.borrower.get).id)
  | .giveBack call lock => do
    tenant.request call (.release lock (← tenant.borrower.get).id)
  | .hook _ => pure ()
  | .wake calls => calls.forM tenant.advance
  | .done call _ _ outcome => do
    let found ← tenant.outcomes.modifyGet fun outcomes => (outcomes.find? call,outcomes.remove call)
    if let some promise := found then promise.resolve outcome

partial def request (tenant : Tenant) (call : Nat) (request : Request) : Async Unit := background do
  let reply ← ask tenant.line tenant.limit request
  tenant.borrower.modify fun borrower => (borrower.answer call reply).getD borrower
  tenant.advance call

partial def advance (tenant : Tenant) (call : Nat) : Async Unit := do
  let step ← tenant.borrower.modifyGet fun borrower =>
    match borrower.advance call with
    | some (effects,borrower) => (some effects,borrower)
    | none => (none,borrower)
  match step with
  | none => return
  | some effects =>
    effects.forM tenant.perform
    tenant.advance call
end

def run (tenant : Tenant) (purpose : Borrower.Purpose) (lock : LockId) : Async Borrower.Outcome := do
  let promise ← IO.Promise.new
  let (id,effects) ← tenant.borrower.modifyGet fun borrower =>
    let (id,borrower,effects) := borrower.begin purpose lock
    ((id,effects),borrower)
  tenant.outcomes.modify (·.put id promise)
  effects.forM tenant.perform
  tenant.advance id
  Async.ofPurePromise (pure promise)

def handle (tenant : Tenant) : Handler :=
  Frame.handled Callback.opcode Callback.shown fun
    | .revoke lock => return (← tenant.run .revoke lock).map fun _ => CallbackReply.ack
    | .retry lock => do
      let effects ← tenant.borrower.modifyGet fun borrower =>
        let (borrower,effects) := borrower.retry lock
        (effects,borrower)
      effects.forM tenant.perform
      return .ok CallbackReply.ack

end Tenant

def join (server : String) : Async (Except LinkFault (Operator.Tenant Async)) := do
  let settings : ClientSettings := { server }
  let listener ← listen ((Address.parse? settings.callbackBind).getD (.v4 [127,0,0,1] 0))
  let id : ClientId := ⟨(inward (← listener.getSockName)).text⟩
  match ← connect settings.link settings.server with
  | .error fault => return .error fault
  | .ok line =>
    let tenant : Tenant := {
      line
      limit := settings.responseMillis
      borrower := ← IO.mkRef (Borrower.new id settings.threshold.toNat true)
      outcomes := ← IO.mkRef [] }
    background (accept listener tenant.handle)
    return .ok {
      self := id
      acquire := tenant.run .acquire
      release := tenant.run .release
      records := tenant.borrower.get }

def count (server : String) (lock : LockId) : Async (Except LockFault UInt64) := do
  let settings : ClientSettings := { server }
  match ← connect settings.link settings.server with
  | .error fault => return .error (.link fault)
  | .ok line => return expectCount .stat (← ask line settings.responseMillis (.stat lock))

def means : Operator.Means Async where
  count
  join
  print line := IO.println line
  rest millis := sleep (milliseconds millis)

def run : CommandLine.Command → Async UInt32
  | .serve options => serve options
  | command => do
    match ← means.run command with
    | .finished => return 0
    | ending =>
      IO.eprintln ("Error: " ++ ending.message)
      return 1

def start (args : List String) : IO UInt32 := do
  match CommandLine.parse (← IO.getEnv "LOCKFS_SERVER") args with
  | .ok command => (run command).block
  | .error fault =>
    if fault = .help then IO.println fault.message else IO.eprintln ("error: " ++ fault.message)
    return fault.exitCode

end LockLender.Program

def main (args : List String) : IO UInt32 := LockLender.Program.start args
