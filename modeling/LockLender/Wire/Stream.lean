import LockLender.Wire.Frame

namespace LockLender.Stream

inductive Taken where
  | waiting
  | frame (frame : Frame) (rest : Bytes)
  | fault (fault : LinkFault) (rest : Bytes)
  deriving Repr

-- `ended` says that no octet will come after those buffered. A stream that
-- ends inside a frame, or before one, counts as a reset connection. After a
-- header that is refused, its payload is read as the next header.
def take (ended : Bool) (buffer : Bytes) : Taken :=
  match Bytes.split? Frame.headerSize buffer with
  | none => if ended then .fault .reset [] else .waiting
  | some (front,rest) =>
    match Header.decode front with
    | .error fault => .fault fault rest
    | .ok header =>
      if header.length > Frame.payloadLimit then .fault (.tooLarge header.length Frame.payloadLimit) rest else
      match Bytes.split? header.length.toNat rest with
      | none => if ended then .fault .reset [] else .waiting
      | some (payload,rest) =>
        match Frame.check ⟨header,payload⟩ with
        | .error fault => .fault fault rest
        | .ok () => .frame ⟨header,payload⟩ rest

def next (bytes : Bytes) : Except LinkFault Frame × Bytes :=
  match take true bytes with
  | .frame frame rest => (.ok frame,rest)
  | .fault fault rest => (.error fault,rest)
  | .waiting => (.error .reset,[])

-- What a reader gets that reads on after a number of faults, up to the end of
-- the octets or one fault more.
def readingsFrom : Nat → Nat → Bytes → List (Except LinkFault Frame)
  | 0, _, _ => []
  | fuel+1, faults, bytes =>
    match next bytes with
    | (.ok frame,rest) => .ok frame :: readingsFrom fuel faults rest
    | (.error .reset,_) => [.error .reset]
    | (.error fault,rest) =>
      match faults with
      | 0 => [.error fault]
      | faults+1 => .error fault :: readingsFrom fuel faults rest

def readings (faults : Nat) (bytes : Bytes) : List (Except LinkFault Frame) :=
  readingsFrom (bytes.length + 1) faults bytes

def drainFrom : Nat → Bool → Bytes → List Frame × Taken
  | 0, _, _ => ([],.waiting)
  | fuel+1, ended, buffer =>
    match take ended buffer with
    | .frame frame rest =>
      let (frames,stop) := drainFrom fuel ended rest
      (frame :: frames,stop)
    | stop => ([],stop)

def drain (ended : Bool) (buffer : Bytes) : List Frame × Taken :=
  match drainFrom (buffer.length + 1) ended buffer with
  | (frames,stop) => (frames,stop)

end LockLender.Stream
