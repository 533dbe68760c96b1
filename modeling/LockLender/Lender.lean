import LockLender.Lock.Fault
import LockLender.Table

namespace LockLender

structure Loan where
  owner : Option ClientId := none
  line : List ClientId := []
  -- The owner has been told to give the lock back and that did not fail.
  revoking : Bool := false
  deriving DecidableEq, Repr

-- A callback and the client it goes to. The notices of one operation are
-- delivered one after the other.
structure Notice where
  client : ClientId
  callback : Callback
  deriving DecidableEq, Repr

def Notice.revoke (client : ClientId) (lock : LockId) : Notice := ⟨client,.revoke lock⟩
def Notice.retry (client : ClientId) (lock : LockId) : Notice := ⟨client,.retry lock⟩

structure Lender where
  loans : Table LockId Loan := []
  -- How often any client became owner of any lock.
  grants : Nat := 0
  deriving Repr

namespace Lender

def loan? (lender : Lender) (lock : LockId) : Option Loan := lender.loans.find? lock

def stat (lender : Lender) : UInt64 := UInt64.ofNat lender.grants

def write (lender : Lender) (lock : LockId) (loan : Loan) : Lender :=
  { lender with loans := lender.loans.put lock loan }

def acquire (lender : Lender) (lock : LockId) (client : ClientId) : Status × List Notice × Lender :=
  let loan := (lender.loan? lock).getD {}
  match loan.owner with
  | none =>
    (.granted,[],{ lender.write lock { loan with owner := some client } with grants := lender.grants + 1 })
  | some owner =>
    if owner = client then (.granted,[],lender)
    else if client ∈ loan.line then (.retry,[],lender)
    else
      let notices := if loan.revoking then [] else [Notice.revoke owner lock]
      (.retry,notices,lender.write lock { loan with line := loan.line ++ [client], revoking := true })

def release (lender : Lender) (lock : LockId) (client : ClientId) :
    Except LockFault (List Notice) × Lender :=
  match lender.loan? lock with
  | none => (.error (.noSuchLock lock),lender)
  | some loan =>
    if loan.owner ≠ some client then (.ok [],lender) else
    match loan.line with
    | [] => (.ok [],lender.write lock { loan with owner := none, revoking := false })
    | heir :: line =>
      let revoking := !line.isEmpty
      (.ok (Notice.retry heir lock :: if revoking then [Notice.revoke heir lock] else []),
        { lender.write lock ⟨some heir,line,revoking⟩ with grants := lender.grants + 1 })

-- A revoke did not reach its client. If the client still is the owner, the
-- next one to stand in line sends it again.
def revokeFailed (lender : Lender) (lock : LockId) (client : ClientId) : Lender :=
  match lender.loan? lock with
  | none => lender
  | some loan =>
    if loan.owner = some client then lender.write lock { loan with revoking := false } else lender

def noticed (lender : Lender) (notice : Notice) (ok : Bool) : Lender :=
  match notice.callback with
  | .revoke lock => if ok then lender else lender.revokeFailed lock notice.client
  | .retry _ => lender

-- A request as it comes over the wire. A release of an unknown lock is an
-- answer, not a fault.
def serve (lender : Lender) : Request → Reply × List Notice × Lender
  | .acquire lock client =>
    let (status,notices,lender) := lender.acquire lock client
    (status.reply,notices,lender)
  | .release lock client =>
    match lender.release lock client with
    | (.ok notices,lender) => (.released,notices,lender)
    | (.error _,lender) => (.noSuchLock lock,[],lender)
  | .stat _ => (.count lender.stat,[],lender)

end Lender
end LockLender
