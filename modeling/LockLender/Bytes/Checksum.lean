import LockLender.Bytes

namespace LockLender.Checksum

def shift (register : UInt32) : UInt32 :=
  if register &&& 1 = 1 then (register >>> 1) ^^^ 0xEDB88320 else register >>> 1

def shifts : Nat → UInt32 → UInt32
  | 0, register => register
  | n+1, register => shifts n (shift register)

def absorb (register : UInt32) (octet : UInt8) : UInt32 :=
  shifts 8 (register ^^^ octet.toUInt32)

def run (register : UInt32) (bytes : Bytes) : UInt32 := bytes.foldl absorb register

def crc32 (bytes : Bytes) : UInt32 := run 0xFFFFFFFF bytes ^^^ 0xFFFFFFFF

theorem run_append (register : UInt32) (one two : Bytes) :
    run register (one ++ two) = run (run register one) two := by
  simp [run,List.foldl_append]

-- The check value of the nine digits, as every description of this sum gives it.
example : crc32 [49,50,51,52,53,54,55,56,57] = 0xCBF43926 := by decide +kernel

end LockLender.Checksum
