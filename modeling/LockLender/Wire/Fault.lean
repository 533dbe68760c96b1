import LockLender.Text.Utf8

namespace LockLender

inductive IoKind where
  | addrInUse
  | addrNotAvailable
  | alreadyExists
  | brokenPipe
  | connectionAborted
  | connectionRefused
  | connectionReset
  | hostUnreachable
  | interrupted
  | invalidData
  | invalidInput
  | networkDown
  | networkUnreachable
  | notConnected
  | notFound
  | other
  | outOfMemory
  | permissionDenied
  | timedOut
  | uncategorized
  | unexpectedEof
  | unsupported
  | wouldBlock
  | writeZero
  deriving DecidableEq, Repr

def IoKind.all : List IoKind := [
  .addrInUse,.addrNotAvailable,.alreadyExists,.brokenPipe,.connectionAborted,.connectionRefused,
  .connectionReset,.hostUnreachable,.interrupted,.invalidData,.invalidInput,.networkDown,
  .networkUnreachable,.notConnected,.notFound,.other,.outOfMemory,.permissionDenied,.timedOut,.uncategorized,
  .unexpectedEof,.unsupported,.wouldBlock,.writeZero]

def IoKind.name : IoKind → String
  | .addrInUse => "AddrInUse"
  | .addrNotAvailable => "AddrNotAvailable"
  | .alreadyExists => "AlreadyExists"
  | .brokenPipe => "BrokenPipe"
  | .connectionAborted => "ConnectionAborted"
  | .connectionRefused => "ConnectionRefused"
  | .connectionReset => "ConnectionReset"
  | .hostUnreachable => "HostUnreachable"
  | .interrupted => "Interrupted"
  | .invalidData => "InvalidData"
  | .invalidInput => "InvalidInput"
  | .networkDown => "NetworkDown"
  | .networkUnreachable => "NetworkUnreachable"
  | .notConnected => "NotConnected"
  | .notFound => "NotFound"
  | .other => "Other"
  | .outOfMemory => "OutOfMemory"
  | .permissionDenied => "PermissionDenied"
  | .timedOut => "TimedOut"
  | .uncategorized => "Uncategorized"
  | .unexpectedEof => "UnexpectedEof"
  | .unsupported => "Unsupported"
  | .wouldBlock => "WouldBlock"
  | .writeZero => "WriteZero"

def IoKind.message : IoKind → String
  | .addrInUse => "address in use"
  | .addrNotAvailable => "address not available"
  | .alreadyExists => "entity already exists"
  | .brokenPipe => "broken pipe"
  | .connectionAborted => "connection aborted"
  | .connectionRefused => "connection refused"
  | .connectionReset => "connection reset"
  | .hostUnreachable => "host unreachable"
  | .interrupted => "operation interrupted"
  | .invalidData => "invalid data"
  | .invalidInput => "invalid input parameter"
  | .networkDown => "network down"
  | .networkUnreachable => "network unreachable"
  | .notConnected => "not connected"
  | .notFound => "entity not found"
  | .other => "other error"
  | .outOfMemory => "out of memory"
  | .permissionDenied => "permission denied"
  | .timedOut => "timed out"
  | .uncategorized => "uncategorized error"
  | .unexpectedEof => "unexpected end of file"
  | .unsupported => "unsupported"
  | .wouldBlock => "operation would block"
  | .writeZero => "write zero"

inductive FrameFlaw where
  | shortHeader (got : Nat)
  | truncated (need got : Nat)
  | lengths (payload : Nat) (header : UInt32)
  | told (reason : String)
  deriving DecidableEq, Repr

def FrameFlaw.message : FrameFlaw → String
  | .shortHeader got => "header needs 24 bytes, got " ++ Numeral.decimal got
  | .truncated need got =>
    "truncated payload: need " ++ Numeral.decimal need ++ " bytes, got " ++ Numeral.decimal got
  | .lengths payload header =>
    "payload length " ++ Numeral.decimal payload ++ " does not match header " ++ Numeral.decimal header.toNat
  | .told reason => reason

inductive MessageFlaw where
  | numberCut
  | stringCut
  | variant (found : UInt32) (known : Nat)
  | notUtf8 (fault : Utf8.Fault)
  | told (text : String)
  deriving DecidableEq, Repr

def MessageFlaw.message : MessageFlaw → String
  | .numberCut => "io error: unexpected end of file"
  | .stringCut => "io error: "
  | .variant found known =>
    "invalid value: integer `" ++ Numeral.decimal found.toNat ++
      "`, expected variant index 0 <= i < " ++ Numeral.decimal known
  | .notUtf8 fault => "string is not valid utf8: " ++ fault.message
  | .told text => text

inductive LinkFault where
  | connectTimeout (address : String) (millis : UInt64)
  | reset
  | badFrame (flaw : FrameFlaw)
  | badMagic (expected got : UInt32)
  | badVersion (expected got : UInt8)
  | badChecksum (expected computed : UInt32)
  | tooLarge (size limit : UInt32)
  | replyTimeout (request millis : UInt64)
  | unknownOpcode (raw : UInt16)
  | remote (text : String)
  | badMessage (flaw : MessageFlaw)
  | io (kind : IoKind)
  deriving DecidableEq, Repr

def LinkFault.message : LinkFault → String
  | .connectTimeout address millis =>
    "connection timeout after " ++ Numeral.decimal millis.toNat ++ "ms to " ++ address
  | .reset => "connection reset by peer"
  | .badFrame flaw => "invalid frame: " ++ flaw.message
  | .badMagic expected got =>
    "invalid magic number: expected 0x" ++ Numeral.hex 8 expected.toNat ++
      ", got 0x" ++ Numeral.hex 8 got.toNat
  | .badVersion expected got =>
    "protocol version mismatch: expected " ++ Numeral.decimal expected.toNat ++
      ", got " ++ Numeral.decimal got.toNat
  | .badChecksum expected computed =>
    "checksum mismatch: expected 0x" ++ Numeral.hex 8 expected.toNat ++
      ", computed 0x" ++ Numeral.hex 8 computed.toNat
  | .tooLarge size limit =>
    "payload too large: " ++ Numeral.decimal size.toNat ++ " bytes (max " ++ Numeral.decimal limit.toNat ++ ")"
  | .replyTimeout request millis =>
    "request " ++ Numeral.decimal request.toNat ++ " timed out after " ++ Numeral.decimal millis.toNat ++ "ms"
  | .unknownOpcode raw => "unknown opcode: 0x" ++ Numeral.hex 4 raw.toNat
  | .remote text => "remote handler failed: " ++ text
  | .badMessage flaw => "serialization error: " ++ flaw.message
  | .io kind => kind.message

end LockLender
