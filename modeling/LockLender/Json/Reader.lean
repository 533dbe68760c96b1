import LockLender.Text.Double
import LockLender.Text.Numeral

namespace LockLender.Json

inductive Flaw where
  | ended
  | malformed
  | mistyped
  deriving DecidableEq, Repr

abbrev Reader (α : Type) := List Char → Except Flaw (α × List Char)

def blank (c : Char) : Bool := c = ' ' || c = '\n' || c = '\t' || c = '\r'

def skipBlanks (text : List Char) : List Char := text.dropWhile blank

def word : List Char → Reader Unit
  | [], text => .ok ((),text)
  | c :: rest, text =>
    match text with
    | [] => .error .ended
    | d :: text => if c = d then word rest text else .error .malformed

-- Four hexadecimal digits. The text has ended when fewer than four octets
-- are left.
def quad : Reader Nat := fun text =>
  if (String.ofList (text.take 4)).utf8ByteSize < 4 then .error .ended else
  match Numeral.positional? Numeral.hexDigit? 16 (text.take 4) with
  | some n => .ok (n,text.drop 4)
  | none => .error .malformed

def expect (c : Char) : Reader Unit
  | [] => .error .ended
  | d :: rest => if d = c then .ok ((),rest) else .error .malformed

def numbered : Reader Char := fun text => do
  let (n,text) ← quad text
  if 0xDC00 ≤ n ∧ n ≤ 0xDFFF then throw .malformed
  if n < 0xD800 ∨ 0xDBFF < n then return (Char.ofNat n,text)
  let (_,text) ← expect '\\' text
  let (_,text) ← expect 'u' text
  let (low,text) ← quad text
  if low < 0xDC00 ∨ 0xDFFF < low then throw .malformed
  return (Char.ofNat (0x10000 + (n - 0xD800) * 0x400 + (low - 0xDC00)),text)

-- What a backslash stands before. A text that is passed over may hold any
-- number for a character.
def escape (passed : Bool) : Reader Char
  | [] => .error .ended
  | '"' :: rest => .ok ('"',rest)
  | '\\' :: rest => .ok ('\\',rest)
  | '/' :: rest => .ok ('/',rest)
  | 'b' :: rest => .ok ('\x08',rest)
  | 'f' :: rest => .ok ('\x0c',rest)
  | 'n' :: rest => .ok ('\n',rest)
  | 'r' :: rest => .ok ('\r',rest)
  | 't' :: rest => .ok ('\t',rest)
  | 'u' :: rest => if passed then (quad rest).map fun (_,rest) => (' ',rest) else numbered rest
  | _ => .error .malformed

def quotedFrom (passed : Bool) : Nat → Reader (List Char)
  | 0, _ => .error .ended
  | fuel+1, text =>
    match text with
    | [] => .error .ended
    | '"' :: rest => .ok ([],rest)
    | '\\' :: rest => do
      let (c,rest) ← escape passed rest
      let (others,rest) ← quotedFrom passed fuel rest
      return (c :: others,rest)
    | c :: rest =>
      if c < ' ' then .error .malformed else do
        let (others,rest) ← quotedFrom passed fuel rest
        return (c :: others,rest)

def quoted (passed : Bool) : Reader String := fun text =>
  (quotedFrom passed (text.length + 1) text).map fun (chars,rest) => (String.ofList chars,rest)

def isDigit (c : Char) : Bool := (Numeral.digit? c).isSome

def natOf (digits : List Char) : Nat := (Numeral.positional? Numeral.digit? 10 digits).getD 0

def exponent : Reader Int := fun text =>
  let (negative,text) := match text with
    | '+' :: rest => (false,rest)
    | '-' :: rest => (true,rest)
    | _ => (false,text)
  let digits := text.takeWhile isDigit
  match digits,text with
  | [],[] => .error .ended
  | [],_ => .error .malformed
  | _,_ => .ok (if negative then -(natOf digits : Int) else natOf digits,text.drop digits.length)

def gather : Nat → List Char → Nat × Nat
  | significand, [] => (significand,0)
  | significand, c :: rest =>
    let next := significand * 10 + (Numeral.digit? c).getD 0
    if next < UInt64.size then gather next rest else (significand,rest.length + 1)

-- Whether a number is too large for a double made from its first digits. A
-- digit that is left over still counts as a place before the point, and not
-- at all behind it.
def tooLarge (digits fraction : List Char) (power : Int) : Bool :=
  let (whole,unread) := gather 0 digits
  let (significand,unused) := gather whole fraction
  Double.productOverflows significand (power + unread - (fraction.length - unused : Nat))

-- A number after its sign: its value if it is whole, not negative and a
-- machine word, and otherwise nothing but that it is a number. A number too
-- large for a double is no number.
def number (negative : Bool) : Reader (Option UInt64) := fun text => do
  let digits := text.takeWhile isDigit
  match digits with
  | [] => throw (if text.isEmpty then .ended else .malformed)
  | '0' :: _ :: _ => throw .malformed
  | _ => pure ()
  let rest := text.drop digits.length
  let (fraction,rest) ← match rest with
    | '.' :: rest =>
      let fraction := rest.takeWhile isDigit
      if fraction.isEmpty then throw (if rest.isEmpty then Flaw.ended else .malformed)
      pure (some fraction,rest.drop fraction.length)
    | _ => pure (none,rest)
  let (power,rest) ← match rest with
    | 'e' :: rest | 'E' :: rest => (exponent rest).map fun (power,rest) => (some power,rest)
    | _ => pure (none,rest)
  if fraction.isNone ∧ power.isNone ∧ natOf digits < UInt64.size then
    return (if negative then none else some (UInt64.ofNat (natOf digits)),rest)
  if tooLarge digits (fraction.getD []) (power.getD 0) then throw .malformed
  return (none,rest)

def passNumber (text : List Char) : Except Flaw (List Char) := do
  let digits := text.takeWhile isDigit
  match digits with
  | [] | '0' :: _ :: _ => throw .malformed
  | _ => pure ()
  let some rest := (match text.drop digits.length with
    | '.' :: rest => if isDigit (rest.headD ' ') then some (rest.dropWhile isDigit) else none
    | rest => some rest) | throw .malformed
  match rest with
  | 'e' :: rest | 'E' :: rest =>
    let rest := match rest with
      | '+' :: rest | '-' :: rest => rest
      | _ => rest
    if isDigit (rest.headD ' ') then return rest.dropWhile isDigit else throw .malformed
  | _ => return rest

inductive Bracket where
  | list
  | object
  deriving DecidableEq, Repr

def Bracket.close : Bracket → Char
  | .list => ']'
  | .object => '}'

mutual
def pass : Nat → List Bracket → List Char → Except Flaw (List Char)
  | 0, _, _ => .error .ended
  | fuel+1, brackets, text =>
    match skipBlanks text with
    | [] => .error .ended
    | 'n' :: rest => do
      let (_,rest) ← word "ull".toList rest
      passed fuel brackets rest
    | 't' :: rest => do
      let (_,rest) ← word "rue".toList rest
      passed fuel brackets rest
    | 'f' :: rest => do
      let (_,rest) ← word "alse".toList rest
      passed fuel brackets rest
    | '"' :: rest => do
      let (_,rest) ← quoted true rest
      passed fuel brackets rest
    | '-' :: rest => do passed fuel brackets (← passNumber rest)
    | '[' :: rest => opened fuel .list brackets rest
    | '{' :: rest => opened fuel .object brackets rest
    | c :: rest => if isDigit c then do passed fuel brackets (← passNumber (c :: rest)) else .error .malformed

def opened : Nat → Bracket → List Bracket → List Char → Except Flaw (List Char)
  | 0, _, _, _ => .error .ended
  | fuel+1, bracket, brackets, text =>
    match skipBlanks text with
    | [] => .error .ended
    | c :: rest => if c = bracket.close then passed fuel brackets rest else member fuel bracket brackets (c :: rest)

def passed : Nat → List Bracket → List Char → Except Flaw (List Char)
  | 0, _, _ => .error .ended
  | _, [], text => .ok text
  | fuel+1, bracket :: brackets, text =>
    match skipBlanks text with
    | [] => .error .ended
    | c :: rest =>
      if c = ',' then member fuel bracket brackets rest
      else if c = bracket.close then passed fuel brackets rest
      else .error .malformed

def member : Nat → Bracket → List Bracket → List Char → Except Flaw (List Char)
  | 0, _, _, _ => .error .ended
  | fuel+1, .list, brackets, text => pass fuel (.list :: brackets) text
  | fuel+1, .object, brackets, text => do
    let (_,text) ← expect '"' (skipBlanks text)
    let (_,text) ← quoted true text
    let (_,text) ← expect ':' (skipBlanks text)
    pass fuel (.object :: brackets) text
end

-- Each character is looked at in four turns at most.
def passValue (text : List Char) : Except Flaw (List Char) := pass (4 * text.length + 4) [] text

-- Why what stands here is none of the values wanted. A word, number or text
-- is read to its end first, so that it counts as JSON only if it is.
def mismatch : List Char → Flaw
  | 'n' :: rest => after (word "ull".toList rest)
  | 't' :: rest => after (word "rue".toList rest)
  | 'f' :: rest => after (word "alse".toList rest)
  | '-' :: rest => after (number true rest)
  | '"' :: rest => after (quoted false rest)
  | '[' :: _ | '{' :: _ => .mistyped
  | [] => .ended
  | c :: rest => if isDigit c then after (number false (c :: rest)) else .malformed
where
  after {α : Type} : Except Flaw α → Flaw
    | .error flaw => flaw
    | .ok _ => .mistyped

def textValue : Reader String := fun text =>
  match skipBlanks text with
  | '"' :: rest => quoted false rest
  | other => .error (mismatch other)

def wordValue : Reader UInt64 := fun text =>
  match skipBlanks text with
  | '-' :: rest => .error (mismatch ('-' :: rest))
  | c :: rest =>
    if isDigit c then do
      match ← number false (c :: rest) with
      | (some n,rest) => return (n,rest)
      | (none,_) => throw .mistyped
    else .error (mismatch (c :: rest))
  | [] => .error .ended

def parsed {α : Type} (parse : String → Option α) : Reader α := fun text => do
  let (found,text) ← quoted false text
  match parse found with
  | some value => return (value,text)
  | none => throw .mistyped

def parsedValue {α : Type} (parse : String → Option α) : Reader α := fun text =>
  match skipBlanks text with
  | '"' :: rest => parsed parse rest
  | other => .error (mismatch other)

def nullValue : Reader Unit := fun text =>
  match skipBlanks text with
  | 'n' :: rest => word "ull".toList rest
  | other => .error (mismatch other)

-- One of several names, alone or as the only key of an object with null.
def choiceValue {α : Type} (parse : String → Option α) : Reader α := fun text =>
  match skipBlanks text with
  | '"' :: rest => parsed parse rest
  | '{' :: rest => do
    let (_,rest) ← expect '"' (skipBlanks rest)
    let (value,rest) ← parsed parse rest
    let (_,rest) ← expect ':' (skipBlanks rest)
    let (_,rest) ← nullValue rest
    let (_,rest) ← expect '}' (skipBlanks rest)
    return (value,rest)
  | [] => .error .ended
  | _ => .error .malformed

abbrev Field (ρ : Type) := String × Reader (ρ → ρ)

def objectFrom {ρ : Type} (fields : List (Field ρ)) : Nat → Bool → List String → ρ → Reader ρ
  | 0, _, _, _, _ => .error .ended
  | fuel+1, first, seen, value, text => do
    let text := skipBlanks text
    if text.head? = some '}' then return (value,text.tail)
    let text ← if first then pure text else (expect ',' text).map fun (_,rest) => skipBlanks rest
    let (_,text) ← expect '"' text
    let (name,text) ← quoted false text
    match fields.find? (·.1 = name) with
    | none => do
      let (_,text) ← expect ':' (skipBlanks text)
      objectFrom fields fuel false seen value (← passValue text)
    | some (_,reader) => do
      if name ∈ seen then throw .mistyped
      let (_,text) ← expect ':' (skipBlanks text)
      let (update,text) ← reader text
      objectFrom fields fuel false (name :: seen) (update value) text

def listFrom {ρ : Type} : Bool → List (Field ρ) → ρ → Reader ρ
  | _, [], value, text => do
    let (_,text) ← expect ']' (skipBlanks text)
    return (value,text)
  | first, (_,reader) :: fields, value, text => do
    let text := skipBlanks text
    if text.head? = some ']' then return (value,text.tail)
    let text ← if first then pure text else (expect ',' text).map fun (_,rest) => skipBlanks rest
    if text.head? = some ']' then throw .malformed
    let (update,text) ← reader text
    listFrom false fields (update value) text

def record {ρ : Type} (fields : List (Field ρ)) (initial : ρ) (text : List Char) : Except Flaw ρ := do
  let (value,text) ← match skipBlanks text with
    | '{' :: rest => objectFrom fields (rest.length + 1) true [] initial rest
    | '[' :: rest => listFrom true fields initial rest
    | other => throw (mismatch other)
  if (skipBlanks text).isEmpty then return value else throw .malformed

end LockLender.Json
