import LockLender.CommandLine.Reading
import LockLender.Lock.Name
import LockLender.Settings

namespace LockLender.CommandLine

structure Serve where
  config : String := "/etc/lockfs/lockd.toml"
  -- What is given here comes before what the file says.
  bind : Option Address := none
  mode : Option ServerMode := none
  deriving DecidableEq, Repr

structure Stat where
  server : String
  lock : LockId
  deriving DecidableEq, Repr

structure Hold where
  server : String
  lock : LockId
  millis : UInt64 := 1000
  deriving DecidableEq, Repr

inductive Command where
  | serve (options : Serve)
  | stat (options : Stat)
  | hold (options : Hold)
  deriving DecidableEq, Repr

def valued {α ρ : Type} (fault : UsageFault) (parse : String → Option α) (update : α → ρ → ρ)
    (text : String) : Except UsageFault (ρ → ρ) :=
  match parse text with
  | some value => .ok (update value)
  | none => .error fault

def path? (text : String) : Option String := if text.isEmpty then none else some text

def number? (text : String) : Option UInt64 :=
  (Numeral.word? UInt64.size text.toList).map UInt64.ofNat

def serveGrammar : Grammar Serve where
  options := [
    ⟨"config",some 'c',valued .invalidValue path? fun config s => { s with config }⟩,
    ⟨"bind",some 'b',valued .badValue Address.parse? fun bind s => { s with bind := some bind }⟩,
    ⟨"mode",some 'm',valued .invalidValue ServerMode.named? fun mode s => { s with mode := some mode }⟩]

def statGrammar : Grammar Stat where
  options := [⟨"server",some 's',fun server => .ok fun s => { s with server }⟩]
  operand := some ⟨"LOCK_ID",none,valued .badValue number? fun n s => { s with lock := ⟨n⟩ }⟩

def holdGrammar : Grammar Hold where
  options := [
    ⟨"server",some 's',fun server => .ok fun s => { s with server }⟩,
    ⟨"millis",none,valued .badValue number? fun millis s => { s with millis }⟩]
  operand := some ⟨"LOCK_ID",none,valued .badValue number? fun n s => { s with lock := ⟨n⟩ }⟩

def commandNames : List String := ["serve","stat","hold","help"]

def helpOn : List String → UsageFault
  | [] => .help
  | [name] => if name ∈ commandNames then .help else .unknownCommand
  | _ => .unknownCommand

def noCommand (first : String) (rest : List String) : UsageFault :=
  match first.toList with
  | ['-','-'] =>
    match rest with
    | [] => .nothingAsked
    | name :: _ => if name ∈ commandNames then .unknownArgument else .unknownCommand
  | '-' :: '-' :: text =>
    if text = "help".toList then .help
    else if "help=".toList.isPrefixOf text then .surplusValue
    else .unknownArgument
  | '-' :: 'h' :: _ => .help
  | '-' :: _ :: _ => .unknownArgument
  | _ => .unknownCommand

def parse (environment : Option String) : List String → Except UsageFault Command
  | [] => .error .nothingAsked
  | "serve" :: words => (read serveGrammar {} words).map .serve
  | "stat" :: words => (read statGrammar ⟨serverOr,⟨0⟩⟩ words).map .stat
  | "hold" :: words => (read holdGrammar { server := serverOr, lock := ⟨0⟩ } words).map .hold
  | "help" :: words => .error (helpOn words)
  | first :: words => .error (noCommand first words)
where
  serverOr := environment.getD ({} : ClientSettings).server

def Serve.over (options : Serve) (settings : ServerSettings) : ServerSettings :=
  { settings with
    bind := options.bind.getD settings.bind
    mode := options.mode.getD settings.mode }

end LockLender.CommandLine
