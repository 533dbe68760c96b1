import LockLender.Lock.Message
import LockLender.Wire.Fault

namespace LockLender

inductive LockFault where
  | noSuchLock (lock : LockId)
  | notHeld (lock : LockId)
  | link (fault : LinkFault)
  | malformed (text : String)
  | unexpectedReply (call : Operation) (reply : String)
  deriving DecidableEq, Repr

namespace LockFault

def message : LockFault → String
  | .noSuchLock lock => "no such lock: " ++ lock.text
  | .notHeld lock => "lock " ++ lock.text ++ " is not held by this client"
  | .link fault => "remote error: " ++ fault.message
  | .malformed text => "malformed request: " ++ text
  | .unexpectedReply call reply => "unexpected reply to " ++ call.name ++ ": " ++ reply

def isRemote : LockFault → Bool
  | .link _ => true
  | _ => false

def unexpected (call : Operation) (reply : Reply) : LockFault := .unexpectedReply call reply.shown

end LockFault
end LockLender
