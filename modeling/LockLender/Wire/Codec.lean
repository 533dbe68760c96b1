import LockLender.Lock.Message
import LockLender.Wire.Fault

namespace LockLender

namespace Codec

abbrev Reader (α : Type) := Bytes → Except MessageFlaw (α × Bytes)

def number (width : Nat) : Reader Nat := fun bytes =>
  match Bytes.split? width bytes with
  | none => .error .numberCut
  | some (front,rest) => .ok (Bytes.ofLittle front,rest)

def word : Reader UInt64 := fun bytes => do
  let (n,rest) ← number 8 bytes
  return (UInt64.ofNat n,rest)

def text : Reader String := fun bytes => do
  let (length,rest) ← number 8 bytes
  match Bytes.split? length rest with
  | none => throw .stringCut
  | some (front,rest) =>
    match Utf8.decode front with
    | .error fault => throw (.notUtf8 fault)
    | .ok text => return (text,rest)

def variant {α : Type} (cases : List (Reader α)) : Reader α := fun bytes => do
  let (n,rest) ← number 4 bytes
  match cases[n]? with
  | none => throw (.variant (UInt32.ofNat n) cases.length)
  | some case => case rest

def always {α : Type} (value : α) : Reader α := fun bytes => .ok (value,bytes)

def map {α β : Type} (f : α → β) (reader : Reader α) : Reader β := fun bytes => do
  let (value,rest) ← reader bytes
  return (f value,rest)

def both {α β γ : Type} (f : α → β → γ) (one : Reader α) (two : Reader β) : Reader γ := fun bytes => do
  let (a,rest) ← one bytes
  let (b,rest) ← two rest
  return (f a b,rest)

def wordBytes (n : UInt64) : Bytes := Bytes.little 8 n.toNat
def caseBytes (n : Nat) : Bytes := Bytes.little 4 n
def textBytes (text : String) : Bytes :=
  let octets := Utf8.encode text
  Bytes.little 8 octets.length ++ octets

end Codec

class Coded (α : Type) where
  encode : α → Bytes
  reader : Codec.Reader α

namespace Coded

def decode {α : Type} [Coded α] (bytes : Bytes) : Except MessageFlaw α :=
  (reader bytes).map (·.1)

end Coded

open Codec

instance : Coded LockId where
  encode lock := wordBytes lock.number
  reader := map LockId.mk word

instance : Coded ClientId where
  encode client := textBytes client.name
  reader := map ClientId.mk text

instance : Coded Request where
  encode
    | .acquire lock client => caseBytes 0 ++ (Coded.encode lock ++ Coded.encode client)
    | .release lock client => caseBytes 1 ++ (Coded.encode lock ++ Coded.encode client)
    | .stat lock => caseBytes 2 ++ Coded.encode lock
  reader := variant [
    both Request.acquire Coded.reader Coded.reader,
    both Request.release Coded.reader Coded.reader,
    map Request.stat Coded.reader]

instance : Coded Reply where
  encode
    | .granted => caseBytes 0
    | .retry => caseBytes 1
    | .released => caseBytes 2
    | .count n => caseBytes 3 ++ wordBytes n
    | .noSuchLock lock => caseBytes 4 ++ Coded.encode lock
  reader := variant [
    always .granted,
    always .retry,
    always .released,
    map .count word,
    map .noSuchLock Coded.reader]

instance : Coded Callback where
  encode
    | .revoke lock => caseBytes 0 ++ Coded.encode lock
    | .retry lock => caseBytes 1 ++ Coded.encode lock
  reader := variant [map Callback.revoke Coded.reader,map Callback.retry Coded.reader]

instance : Coded CallbackReply where
  encode | .ack => caseBytes 0
  reader := variant [always .ack]

instance : Coded Status where
  encode
    | .granted => caseBytes 0
    | .retry => caseBytes 1
  reader := variant [always .granted,always .retry]

instance : Coded LockState where
  encode
    | .idle => caseBytes 0
    | .cachedFree => caseBytes 1
    | .held => caseBytes 2
    | .acquiring => caseBytes 3
    | .releasing => caseBytes 4
  reader := variant [always .idle,always .cachedFree,always .held,always .acquiring,always .releasing]

end LockLender
