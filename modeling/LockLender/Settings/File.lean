import LockLender.Json.Reader
import LockLender.Settings
import LockLender.Text.FileName
import LockLender.Toml.Document

namespace LockLender

inductive SettingsFault where
  | io (kind : IoKind)
  | unknownFormat (extension : String)
  | toml
  | json (flaw : Json.Flaw)
  deriving DecidableEq, Repr

def SettingsFault.message : SettingsFault → String
  | .io kind => kind.message
  | .unknownFormat extension => "Unsupported config file extension: " ++ extension
  | .toml => "not a settings file in TOML"
  | .json .ended => "the JSON text ends too soon"
  | .json .malformed => "not a JSON text"
  | .json .mistyped => "a JSON text of another shape than the settings"

namespace Settings

structure Kind (α : Type) where
  json : Json.Reader α
  toml : Toml.Node → Option α

def text : Kind String where
  json := Json.textValue
  toml
    | .text text => some text
    | _ => none

def word : Kind UInt64 where
  json := Json.wordValue
  toml
    | .integer n => if 0 ≤ n ∧ n < UInt64.size then some (UInt64.ofNat n.toNat) else none
    | _ => none

def address : Kind Address where
  json := Json.parsedValue Address.parse?
  toml
    | .text text => Address.parse? text
    | _ => none

def hollow : Toml.Node → Bool
  | .list [] | .inline _ [] | .table _ [] => true
  | _ => false

def modeOf (fields : Toml.Fields) : Option ServerMode :=
  match fields with
  | [(name,node)] => if hollow node then ServerMode.named? name else none
  | _ => none

def mode : Kind ServerMode where
  json := Json.choiceValue ServerMode.named?
  toml
    | .text text => ServerMode.named? text
    | .inline _ fields | .table _ fields => modeOf fields
    | _ => none

structure Setting (ρ : Type) where
  name : String
  json : Json.Reader (ρ → ρ)
  toml : Toml.Node → Option (ρ → ρ)

def setting {ρ α : Type} (name : String) (kind : Kind α) (update : α → ρ → ρ) : Setting ρ where
  name
  json := fun text => (kind.json text).map fun (value,rest) => (update value,rest)
  toml := fun node => (kind.toml node).map update

-- In this order they stand in a list that leaves out the names.
def ofServer : List (Setting ServerSettings) := [
  setting "bind_addr" address fun bind s => { s with bind },
  setting "mode" mode fun mode s => { s with mode },
  setting "response_timeout_ms" word fun responseMillis s => { s with responseMillis }]

def ofClient : List (Setting ClientSettings) := [
  setting "server_addr" text fun server s => { s with server },
  setting "callback_bind" text fun callbackBind s => { s with callbackBind },
  setting "response_timeout_ms" word fun responseMillis s => { s with responseMillis },
  setting "release_threshold" word fun threshold s => { s with threshold }]

variable {ρ : Type}

def fromJson (settings : List (Setting ρ)) (initial : ρ) (text : List Char) : Except SettingsFault ρ :=
  match Json.record (settings.map fun setting => (setting.name,setting.json)) initial text with
  | .ok found => .ok found
  | .error flaw => .error (.json flaw)

def fromFields (fields : Toml.Fields) : List (Setting ρ) → ρ → Option ρ
  | [], found => some found
  | setting :: rest, found =>
    match fields.find? setting.name with
    | none => fromFields fields rest found
    | some node => do fromFields fields rest ((← setting.toml node) found)

def fromToml (settings : List (Setting ρ)) (initial : ρ) (text : List Char) : Except SettingsFault ρ :=
  match (Toml.parse text).bind fun fields => fromFields fields settings initial with
  | some found => .ok found
  | none => .error .toml

-- A file by its name and contents; no contents if there is no such file. That
-- it can be read as text comes before its format.
def load (settings : List (Setting ρ)) (initial : ρ) (name : String) : Option Bytes → Except SettingsFault ρ
  | none => .error (.io .notFound)
  | some bytes =>
    match Utf8.decode bytes with
    | .error _ => .error (.io .invalidData)
    | .ok contents =>
      let extension := (FileName.extension? name).getD ""
      match String.ofList (extension.toList.map Char.toLower) with
      | "toml" => fromToml settings initial contents.toList
      | "json" => fromJson settings initial contents.toList
      | _ => .error (.unknownFormat extension)

end Settings

namespace ServerSettings

def load (name : String) (contents : Option Bytes) : Except SettingsFault ServerSettings :=
  Settings.load Settings.ofServer {} name contents

end ServerSettings

namespace ClientSettings

def load (name : String) (contents : Option Bytes) : Except SettingsFault ClientSettings :=
  Settings.load Settings.ofClient {} name contents

-- A file with a server's address and a threshold. The address is set between
-- quotes as it is, so one that itself holds quotes, backslashes or control
-- characters may read back as something else or not at all.
def fileText (server : String) (threshold : UInt64) : String :=
  "server_addr = \"" ++ server ++ "\"\nrelease_threshold = " ++ Numeral.decimal threshold.toNat ++ "\n"

def fileIn (directory : String) : String := directory ++ "/client.toml"

end ClientSettings
end LockLender
