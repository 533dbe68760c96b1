import LockLender.Lock.Name
import LockLender.Table

namespace LockLender

structure Violation where
  lock : LockId
  holder : ClientId
  intruder : ClientId
  deriving DecidableEq, Repr

structure HoldLog where
  inside : Table LockId ClientId := []
  entries : List (LockId × ClientId) := []
  violations : List Violation := []
  deriving DecidableEq, Repr

namespace HoldLog

inductive Event where
  | enter (lock : LockId) (client : ClientId)
  | exit (lock : LockId) (client : ClientId)
  deriving DecidableEq, Repr

-- The newcomer counts as the one inside from now on, violation or not.
def enter (log : HoldLog) (lock : LockId) (client : ClientId) : HoldLog :=
  { inside := log.inside.put lock client
    entries := log.entries ++ [(lock,client)]
    violations := log.violations ++
      ((log.inside.find? lock).map fun holder => Violation.mk lock holder client).toList }

def exit (log : HoldLog) (lock : LockId) (client : ClientId) : HoldLog :=
  if log.inside.find? lock = some client then { log with inside := log.inside.remove lock } else log

def apply (log : HoldLog) : Event → HoldLog
  | .enter lock client => log.enter lock client
  | .exit lock client => log.exit lock client

def order (log : HoldLog) (lock : LockId) : List ClientId :=
  (log.entries.filter (·.1 = lock)).map (·.2)

end HoldLog
end LockLender
