import LockLender.CommandLine
import LockLender.Settings.File

namespace LockLender

namespace CommandLine

-- The settings a server starts with: those of its file under those given by
-- hand. A file that is not there changes nothing, whatever its name.
def Serve.settings (options : Serve) (contents : Option Bytes) : Except SettingsFault ServerSettings :=
  match contents with
  | none => .ok (options.over {})
  | some _ => (ServerSettings.load options.config contents).map options.over

def UsageFault.exitCode : UsageFault → UInt32
  | .help => 0
  | _ => 2

end CommandLine

def SettingsFault.exitCode (_ : SettingsFault) : UInt32 := 1

namespace CommandLine.UsageFault

def message : UsageFault → String
  | .help => "serve [-c FILE] [-b ADDRESS] [-m baseline|caching]\nstat [-s SERVER] LOCK_ID\n" ++
    "hold [-s SERVER] LOCK_ID [--millis N]"
  | .nothingAsked => "a command is needed: serve, stat or hold"
  | .unknownCommand => "unknown command"
  | .unknownArgument => "unknown argument"
  | .invalidValue => "a value is missing or none of those allowed"
  | .badValue => "a value cannot be read"
  | .surplusValue => "a value where none is taken"
  | .repeated => "an argument is given more than once"
  | .missingArgument => "the lock's number is missing"

end CommandLine.UsageFault
end LockLender
