import LockLender.Service

namespace LockLender

structure Script where
  replies : List (Except LockFault Reply)
  calls : List Request := []

namespace Script

def take (script : Script) (request : Request) : Except LockFault Reply × Script :=
  let calls := script.calls ++ [request]
  match script.replies with
  | [] => (.error (.link .reset),⟨[],calls⟩)
  | reply :: replies => (reply,⟨replies,calls⟩)

def service : Service Script where
  acquire script lock client := script.take (.acquire lock client)
  release script lock client := script.take (.release lock client)
  stat script lock :=
    let (reply,script) := script.take (.stat lock)
    (expectCount .stat reply,script)

end Script
end LockLender
