import LockLender.Text.Quoted

namespace LockLender

inductive Abort where
  | bitmapInode
  | overflow
  deriving DecidableEq, Repr

def Abort.message : Abort → String
  | .bitmapInode => "inode 0 collides with the block bitmap lock"
  | .overflow => "attempt to add with overflow"

def checkedAdd (one two : UInt64) : Except Abort UInt64 :=
  if one.toNat + two.toNat < UInt64.size then .ok (one + two) else .error .overflow

structure LockId where
  number : UInt64
  deriving DecidableEq, Repr

namespace LockId

-- Number 0 stands for the block bitmap; every inode has the lock of its number.
def blockBitmap : LockId := ⟨0⟩

def ofInode (inode : UInt64) : Except Abort LockId :=
  if inode = 0 then .error .bitmapInode else .ok ⟨inode⟩

def isBlockBitmap (lock : LockId) : Bool := lock = blockBitmap

def text (lock : LockId) : String := Numeral.decimal lock.number.toNat

def shown (lock : LockId) : String := "LockId(" ++ lock.text ++ ")"

def ordered (one two : LockId) : Bool := one.number ≤ two.number

end LockId

-- A client that is called back is named by the address it listens on; any
-- text will do for one that is not.
structure ClientId where
  name : String
  deriving DecidableEq, Repr

namespace ClientId

def shown (client : ClientId) : String := "ClientId(" ++ Quoted.quoted client.name ++ ")"

-- By code points, which is also the order of the names' UTF-8 octets.
def ordered (one two : ClientId) : Bool := !(two.name < one.name)

end ClientId
end LockLender
