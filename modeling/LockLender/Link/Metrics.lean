import LockLender.Lock.Name

namespace LockLender

inductive Counter where
  | connectionsOpened
  | requestsSent
  | responsesReceived
  | timeouts
  | errors
  deriving DecidableEq, Repr

namespace Counter

def all : List Counter := [.connectionsOpened,.requestsSent,.responsesReceived,.timeouts,.errors]

def name : Counter → String
  | .connectionsOpened => "ConnectionsOpened"
  | .requestsSent => "RequestsSent"
  | .responsesReceived => "ResponsesReceived"
  | .timeouts => "Timeouts"
  | .errors => "Errors"

end Counter

structure Metrics where
  connectionsOpened : Nat := 0
  requestsSent : Nat := 0
  responsesReceived : Nat := 0
  timeouts : Nat := 0
  errors : Nat := 0
  deriving DecidableEq, Repr

namespace Metrics

structure Snapshot where
  connectionsOpened : UInt64 := 0
  requestsSent : UInt64 := 0
  responsesReceived : UInt64 := 0
  timeouts : UInt64 := 0
  errors : UInt64 := 0
  deriving DecidableEq, Repr

def record (m : Metrics) : Counter → Metrics
  | .connectionsOpened => { m with connectionsOpened := m.connectionsOpened + 1 }
  | .requestsSent => { m with requestsSent := m.requestsSent + 1 }
  | .responsesReceived => { m with responsesReceived := m.responsesReceived + 1 }
  | .timeouts => { m with timeouts := m.timeouts + 1 }
  | .errors => { m with errors := m.errors + 1 }

def snapshot (m : Metrics) : Snapshot where
  connectionsOpened := UInt64.ofNat m.connectionsOpened
  requestsSent := UInt64.ofNat m.requestsSent
  responsesReceived := UInt64.ofNat m.responsesReceived
  timeouts := UInt64.ofNat m.timeouts
  errors := UInt64.ofNat m.errors

namespace Snapshot

def get (s : Snapshot) : Counter → UInt64
  | .connectionsOpened => s.connectionsOpened
  | .requestsSent => s.requestsSent
  | .responsesReceived => s.responsesReceived
  | .timeouts => s.timeouts
  | .errors => s.errors

-- Requests sent less those that ended, and nothing when more ended than were
-- sent: a late answer counts beside the timeout before it.
def unanswered (s : Snapshot) : Except Abort UInt64 := do
  let ended ← checkedAdd s.responsesReceived s.timeouts
  return if s.requestsSent < ended then 0 else s.requestsSent - ended

end Snapshot
end Metrics
end LockLender
