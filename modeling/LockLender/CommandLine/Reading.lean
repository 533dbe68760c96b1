namespace LockLender.CommandLine

inductive UsageFault where
  | help
  | nothingAsked
  | unknownCommand
  | unknownArgument
  | invalidValue
  | badValue
  | surplusValue
  | repeated
  | missingArgument
  deriving DecidableEq, Repr

structure Slot (ρ : Type) where
  name : String
  letter : Option Char := none
  set : String → Except UsageFault (ρ → ρ)

structure Grammar (ρ : Type) where
  options : List (Slot ρ)
  operand : Option (Slot ρ) := none

structure Reading (ρ : Type) where
  found : ρ
  -- Names of the slots that have their values.
  given : List String := []
  -- The slot that came last, and its value if that has come too.
  pending : Option (Slot ρ × Option String) := none
  -- The operand has come.
  operand : Bool := false
  -- Everything from here on is an operand.
  trailing : Bool := false

namespace Reading
variable {ρ : Type}

def assign (r : Reading ρ) (slot : Slot ρ) (text : String) : Except UsageFault (Reading ρ) :=
  if slot.name ∈ r.given then .error .repeated else do
    let update ← slot.set text
    return { r with found := update r.found, given := slot.name :: r.given }

def resolve (r : Reading ρ) : Except UsageFault (Reading ρ) :=
  match r.pending with
  | none => .ok r
  | some (_,none) => .error .invalidValue
  | some (slot,some text) => assign { r with pending := none } slot text

-- Help is given once what came before it is in order.
def help (r : Reading ρ) : Except UsageFault (Reading ρ) := do
  let _ ← r.resolve
  throw .help

def option (r : Reading ρ) (slot : Slot ρ) (value : Option String) : Except UsageFault (Reading ρ) := do
  let r ← r.resolve
  match value with
  | some text => r.assign slot text
  | none => return { r with pending := some (slot,none) }

def long (grammar : Grammar ρ) (r : Reading ρ) (text : List Char) : Except UsageFault (Reading ρ) :=
  let name := String.ofList (text.takeWhile (· ≠ '='))
  let value := match text.dropWhile (· ≠ '=') with
    | [] => none
    | _ :: value => some (String.ofList value)
  if name = "help" then (if value.isSome then .error .surplusValue else r.help) else
  match grammar.options.find? (·.name = name) with
  | none => .error .unknownArgument
  | some slot => r.option slot value

def short (grammar : Grammar ρ) (r : Reading ρ) (letter : Char) (text : List Char) :
    Except UsageFault (Reading ρ) :=
  if letter = 'h' then r.help else
  match grammar.options.find? (·.letter = some letter) with
  | none => .error .unknownArgument
  | some slot =>
    let value := match text with
      | [] => none
      | '=' :: value | value => some (String.ofList value)
    r.option slot value

def word (grammar : Grammar ρ) (r : Reading ρ) (text : String) : Except UsageFault (Reading ρ) :=
  match grammar.operand with
  | none => .error .unknownArgument
  | some slot =>
    if r.operand then .error .unknownArgument else do
      let r ← r.resolve
      return { r with pending := some (slot,some text), operand := true }

-- One word of the command line. A single dash is a value like any other.
def next (grammar : Grammar ρ) (r : Reading ρ) (text : String) : Except UsageFault (Reading ρ) :=
  if r.trailing then r.word grammar text else
  match text.toList with
  | ['-','-'] => .ok { r with trailing := true }
  | '-' :: '-' :: rest => r.long grammar rest
  | '-' :: letter :: rest => r.short grammar letter rest
  | _ =>
    match r.pending with
    | some (slot,none) => .ok { r with pending := some (slot,some text) }
    | _ => r.word grammar text

end Reading

def read {ρ : Type} (grammar : Grammar ρ) (initial : ρ) (words : List String) : Except UsageFault ρ := do
  let r ← words.foldlM (Reading.next grammar) { found := initial }
  let r ← r.resolve
  if grammar.operand.isSome && !r.operand then throw .missingArgument
  return r.found

end LockLender.CommandLine
