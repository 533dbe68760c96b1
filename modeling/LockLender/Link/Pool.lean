import LockLender.Table
import LockLender.Wire.Fault

namespace LockLender

namespace Pool

-- The pool is locked for each act only: others may come in between a caller's look
-- at the pool, its dialing, its call and its way out.
inductive Place where
  | looking
  | dialing
  | offering (connection : Nat)
  | using (connection : Nat)
  -- The call on this connection failed.
  | evicting (connection : Nat) (fault : LinkFault)
  deriving DecidableEq, Repr

structure User where
  address : String
  place : Place := .looking
  deriving DecidableEq, Repr

inductive Act where
  | begin (address : String)
  | look (user : Nat)
  | dial (user : Nat) (outcome : Except LinkFault Unit)
  | offer (user : Nat)
  | succeed (user : Nat)
  | fail (user : Nat) (fault : LinkFault)
  | evict (user : Nat)
  -- A connection fails, which its owner's calls will notice.
  | close (connection : Nat)

inductive Effect where
  | obtained (user : Nat) (connection : Nat)
  | done (user : Nat) (result : Except LinkFault Unit)

end Pool

structure Pool where
  kept : Table String Nat := []
  -- Connections that have failed. They never recover.
  closed : List Nat := []
  users : Table Nat Pool.User := []
  nextConnection : Nat := 0
  nextUser : Nat := 0
  deriving Repr

namespace Pool

def isClosed (pool : Pool) (connection : Nat) : Bool := connection ∈ pool.closed

def live? (pool : Pool) (address : String) : Option Nat :=
  (pool.kept.find? address).filter fun connection => !pool.isClosed connection

def place (pool : Pool) (id : Nat) (user : User) (place : Place) : Pool :=
  { pool with users := pool.users.put id { user with place } }

def leave (pool : Pool) (id : Nat) (result : Except LinkFault Unit) : Pool × List Effect :=
  ({ pool with users := pool.users.remove id },[.done id result])

def obtain (pool : Pool) (id : Nat) (user : User) (connection : Nat) : Pool × List Effect :=
  (pool.place id user (.using connection),[.obtained id connection])

def remove (pool : Pool) (address : String) : Pool := { pool with kept := pool.kept.remove address }

def size (pool : Pool) : Nat := pool.kept.length

def step (pool : Pool) : Act → Option (Pool × List Effect)
  | .begin address =>
    some ({ pool with users := pool.users.put pool.nextUser { address }, nextUser := pool.nextUser + 1 },[])
  | .look id => do
    let user ← pool.users.find? id
    if user.place ≠ .looking then none else
    match pool.live? user.address with
    | some connection => return pool.obtain id user connection
    | none => return (pool.place id user .dialing,[])
  | .dial id outcome => do
    let user ← pool.users.find? id
    if user.place ≠ .dialing then none else
    match outcome with
    | .error fault => return pool.leave id (.error fault)
    | .ok () =>
      return ({ pool with nextConnection := pool.nextConnection + 1 }.place id user
        (.offering pool.nextConnection),[])
  -- Someone else may have been faster: the first that is alive stays.
  | .offer id => do
    let user ← pool.users.find? id
    match user.place with
    | .offering connection =>
      match pool.live? user.address with
      | some kept => return pool.obtain id user kept
      | none => return { pool with kept := pool.kept.put user.address connection }.obtain id user connection
    | _ => none
  | .succeed id => do
    let user ← pool.users.find? id
    match user.place with
    | .using _ => return pool.leave id (.ok ())
    | _ => none
  | .fail id fault => do
    let user ← pool.users.find? id
    match user.place with
    | .using connection => return (pool.place id user (.evicting connection fault),[])
    | _ => none
  | .evict id => do
    let user ← pool.users.find? id
    match user.place with
    | .evicting _ fault => return (pool.remove user.address).leave id (.error fault)
    | _ => none
  | .close connection => some ({ pool with closed := connection :: pool.closed },[])

end Pool
end LockLender
