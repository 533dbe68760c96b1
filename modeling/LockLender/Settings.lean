import LockLender.Address.Reader
import LockLender.Wire.Fault

namespace LockLender

inductive ServerMode where
  | baseline
  | caching
  deriving DecidableEq, Repr

namespace ServerMode

def name : ServerMode → String
  | .baseline => "baseline"
  | .caching => "caching"

def named? : String → Option ServerMode
  | "baseline" => some .baseline
  | "caching" => some .caching
  | _ => none

@[simp] theorem named?_name (mode : ServerMode) : named? mode.name = some mode := by
  cases mode <;> rfl

end ServerMode

structure LinkSettings where
  responseMillis : UInt64 := 5000
  connectMillis : UInt64 := 5000
  nodelay : Bool := true
  deriving DecidableEq, Repr

structure ServerSettings where
  bind : Address := .v4 [127,0,0,1] 7410
  mode : ServerMode := .caching
  responseMillis : UInt64 := 5000
  deriving DecidableEq, Repr

structure ClientSettings where
  server : String := "127.0.0.1:7410"
  callbackBind : String := "127.0.0.1:0"
  responseMillis : UInt64 := 5000
  threshold : UInt64 := 1
  deriving DecidableEq, Repr

def ServerSettings.link (settings : ServerSettings) : LinkSettings :=
  { responseMillis := settings.responseMillis }

def ClientSettings.link (settings : ClientSettings) : LinkSettings :=
  { responseMillis := settings.responseMillis }

end LockLender
