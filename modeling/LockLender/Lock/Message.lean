import LockLender.Lock.Name
import LockLender.Wire.Opcode

namespace LockLender

inductive Request where
  | acquire (lock : LockId) (client : ClientId)
  | release (lock : LockId) (client : ClientId)
  | stat (lock : LockId)
  deriving DecidableEq, Repr

inductive Reply where
  | granted
  | retry
  | released
  | count (n : UInt64)
  | noSuchLock (lock : LockId)
  deriving DecidableEq, Repr

inductive Callback where
  | revoke (lock : LockId)
  | retry (lock : LockId)
  deriving DecidableEq, Repr

inductive CallbackReply where
  | ack
  deriving DecidableEq, Repr

inductive Status where
  | granted
  | retry
  deriving DecidableEq, Repr

inductive LockState where
  | idle
  | cachedFree
  | held
  | acquiring
  | releasing
  deriving DecidableEq, Repr

inductive Operation where
  | acquire
  | release
  | stat
  deriving DecidableEq, Repr

def Operation.name : Operation → String
  | .acquire => "acquire"
  | .release => "release"
  | .stat => "stat"

def shownRecord (name : String) (fields : List (String × String)) : String :=
  name ++ " \x7b " ++ String.intercalate ", " (fields.map fun (field,value) => field ++ ": " ++ value) ++ " \x7d"

namespace Request

def opcode : Request → Opcode
  | .acquire .. => .acquire
  | .release .. => .release
  | .stat _ => .stat

def operation : Request → Operation
  | .acquire .. => .acquire
  | .release .. => .release
  | .stat _ => .stat

def lock : Request → LockId
  | .acquire lock _ | .release lock _ | .stat lock => lock

def shown : Request → String
  | .acquire lock client => shownRecord "Acquire" [("lock_id",lock.shown),("client_id",client.shown)]
  | .release lock client => shownRecord "Release" [("lock_id",lock.shown),("client_id",client.shown)]
  | .stat lock => shownRecord "Stat" [("lock_id",lock.shown)]

end Request

def Reply.shown : Reply → String
  | .granted => "Granted"
  | .retry => "Retry"
  | .released => "Released"
  | .count n => "Count(" ++ Numeral.decimal n.toNat ++ ")"
  | .noSuchLock lock => "NoSuchLock(" ++ lock.shown ++ ")"

namespace Callback

def opcode : Callback → Opcode
  | .revoke _ => .revoke
  | .retry _ => .retry

def lock : Callback → LockId
  | .revoke lock | .retry lock => lock

def shown : Callback → String
  | .revoke lock => shownRecord "Revoke" [("lock_id",lock.shown)]
  | .retry lock => shownRecord "Retry" [("lock_id",lock.shown)]

end Callback

def CallbackReply.shown : CallbackReply → String
  | .ack => "Ack"

namespace Status

def shown : Status → String
  | .granted => "Granted"
  | .retry => "Retry"

def reply : Status → Reply
  | .granted => .granted
  | .retry => .retry

end Status

namespace LockState

def all : List LockState := [.idle,.cachedFree,.held,.acquiring,.releasing]

def shown : LockState → String
  | .idle => "Idle"
  | .cachedFree => "CachedFree"
  | .held => "Held"
  | .acquiring => "Acquiring"
  | .releasing => "Releasing"

def text : LockState → String
  | .idle => "idle"
  | .cachedFree => "cached-free"
  | .held => "held"
  | .acquiring => "acquiring"
  | .releasing => "releasing"

def busy : LockState → Bool
  | .held | .acquiring | .releasing => true
  | .idle | .cachedFree => false

end LockState
end LockLender
