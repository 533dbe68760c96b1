import LockLender.Bytes.Checksum
import LockLender.Wire.Fault
import LockLender.Wire.Opcode

namespace LockLender

structure Flags where
  bits : UInt8
  deriving DecidableEq, Repr

namespace Flags

def none : Flags := ⟨0⟩
def response : Flags := ⟨1⟩
def oneWay : Flags := ⟨2⟩
def error : Flags := ⟨4⟩

def union (one two : Flags) : Flags := ⟨one.bits ||| two.bits⟩

def contains (one two : Flags) : Bool := one.bits &&& two.bits == two.bits

def isEmpty (flags : Flags) : Bool := flags.bits == 0

end Flags

namespace Frame

def magic : UInt32 := 0x4C4B0001
def version : UInt8 := 1
def headerSize : Nat := 24

def payloadLimit : UInt32 := 0x1000000

end Frame

structure Header where
  magic : UInt32 := Frame.magic
  version : UInt8 := Frame.version
  flags : Flags := Flags.none
  opcode : Opcode
  request : UInt64
  length : UInt32
  checksum : UInt32
  deriving DecidableEq, Repr

namespace Header

def encode (h : Header) : Bytes :=
  Bytes.big 4 h.magic.toNat ++ ([h.version,h.flags.bits] ++ (Bytes.big 2 h.opcode.code.toNat ++
    (Bytes.big 8 h.request.toNat ++ (Bytes.big 4 h.length.toNat ++ Bytes.big 4 h.checksum.toNat))))

def field (bytes : Bytes) (start width : Nat) : Nat := Bytes.ofBig ((bytes.drop start).take width)

-- Faults are looked for in this order: too short, magic, version, opcode.
def decode (bytes : Bytes) : Except LinkFault Header :=
  if bytes.length < Frame.headerSize then .error (.badFrame (.shortHeader bytes.length)) else
  let magic := UInt32.ofNat (field bytes 0 4)
  if magic ≠ Frame.magic then .error (.badMagic Frame.magic magic) else
  let version := UInt8.ofNat (field bytes 4 1)
  if version ≠ Frame.version then .error (.badVersion Frame.version version) else
  let raw := UInt16.ofNat (field bytes 6 2)
  match Opcode.ofCode? raw with
  | none => .error (.unknownOpcode raw)
  | some opcode => .ok {
      magic, version, opcode
      flags := ⟨UInt8.ofNat (field bytes 5 1)⟩
      request := UInt64.ofNat (field bytes 8 8)
      length := UInt32.ofNat (field bytes 16 4)
      checksum := UInt32.ofNat (field bytes 20 4) }

end Header

structure Frame where
  header : Header
  payload : Bytes
  deriving DecidableEq, Repr

namespace Frame

-- The stated length keeps only 32 bits of the real one. Nothing refuses a
-- payload here: the limit is the reader's.
def make (opcode : Opcode) (request : UInt64) (payload : Bytes) : Frame :=
  { header := { opcode, request, length := UInt32.ofNat payload.length, checksum := Checksum.crc32 payload }
    payload }

def withFlags (frame : Frame) (flags : Flags) : Frame :=
  { frame with header := { frame.header with flags } }

def opcode (frame : Frame) : Opcode := frame.header.opcode
def request (frame : Frame) : UInt64 := frame.header.request
def isResponse (frame : Frame) : Bool := frame.header.flags.contains .response
def isError (frame : Frame) : Bool := frame.header.flags.contains .error
def isOneWay (frame : Frame) : Bool := frame.header.flags.contains .oneWay

def respond (frame : Frame) (payload : Bytes) : Frame :=
  (make frame.opcode frame.request payload).withFlags .response

def refuse (frame : Frame) (reason : String) : Frame :=
  (make frame.opcode frame.request (Utf8.encode reason)).withFlags (Flags.response.union .error)

def encode (frame : Frame) : Bytes := frame.header.encode ++ frame.payload

-- Length before checksum; the stated length is compared with the low 32 bits
-- of the real one.
def check (frame : Frame) : Except LinkFault Unit :=
  if UInt32.ofNat frame.payload.length ≠ frame.header.length then
    .error (.badFrame (.lengths frame.payload.length frame.header.length))
  else if Checksum.crc32 frame.payload ≠ frame.header.checksum then
    .error (.badChecksum frame.header.checksum (Checksum.crc32 frame.payload))
  else .ok ()

def decode (bytes : Bytes) : Except LinkFault Frame := do
  let header ← Header.decode bytes
  if header.length > payloadLimit then throw (.tooLarge header.length payloadLimit)
  let whole := headerSize + header.length.toNat
  if bytes.length < whole then throw (.badFrame (.truncated whole bytes.length))
  let frame : Frame := ⟨header,(bytes.drop headerSize).take header.length.toNat⟩
  frame.check
  return frame

end Frame
end LockLender
