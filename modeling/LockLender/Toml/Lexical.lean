import LockLender.Text.Double
import LockLender.Text.Numeral

namespace LockLender.Toml

abbrev Reader (α : Type) := List Char → Option (α × List Char)

def isBlank (c : Char) : Bool := c = ' ' || c = '\t'

def skipBlanks (text : List Char) : List Char := text.dropWhile isBlank

def expect (c : Char) : Reader Unit
  | [] => none
  | d :: rest => if d = c then some ((),rest) else none

def newline : Reader Unit
  | '\n' :: rest => some ((),rest)
  | '\r' :: '\n' :: rest => some ((),rest)
  | _ => none

def isVisible (c : Char) : Bool := c = '\t' || (' ' ≤ c && c ≠ '\x7f')

def skipComment : List Char → List Char
  | '#' :: rest => rest.dropWhile isVisible
  | text => text

def lineEnd (text : List Char) : Option (List Char) :=
  match skipComment (skipBlanks text) with
  | [] => some []
  | rest => (newline rest).map (·.2)

-- Blanks, comments and ends of lines between the items of a list. A comment
-- has to be ended by the end of a line.
def skipLines : Nat → List Char → Option (List Char)
  | 0, text => some text
  | fuel+1, text =>
    match skipBlanks text with
    | '#' :: rest => do
      let (_,rest) ← newline (skipComment ('#' :: rest))
      skipLines fuel rest
    | rest =>
      match newline rest with
      | some (_,rest) => skipLines fuel rest
      | none => some rest

def isBare (c : Char) : Bool :=
  ('a' ≤ c && c ≤ 'z') || ('A' ≤ c && c ≤ 'Z') || ('0' ≤ c && c ≤ '9') || c = '_' || c = '-'

def hexDigits (n : Nat) : Reader Nat := fun text =>
  if text.length < n then none
  else (Numeral.positional? Numeral.hexDigit? 16 (text.take n)).map fun value => (value,text.drop n)

def numbered (digits : Nat) : Reader Char := fun text => do
  let (n,rest) ← hexDigits digits text
  if n < 0xD800 ∨ (0xDFFF < n ∧ n < 0x110000) then return (Char.ofNat n,rest) else none

def escape : Reader Char
  | 'b' :: rest => some ('\x08',rest)
  | 't' :: rest => some ('\t',rest)
  | 'n' :: rest => some ('\n',rest)
  | 'f' :: rest => some ('\x0c',rest)
  | 'r' :: rest => some ('\r',rest)
  | '"' :: rest => some ('"',rest)
  | '\\' :: rest => some ('\\',rest)
  | 'u' :: rest => numbered 4 rest
  | 'U' :: rest => numbered 8 rest
  | _ => none

def basicFrom : Nat → Reader (List Char)
  | 0, _ => none
  | fuel+1, text =>
    match text with
    | [] => none
    | '"' :: rest => some ([],rest)
    | '\\' :: rest => do
      let (c,rest) ← escape rest
      let (others,rest) ← basicFrom fuel rest
      return (c :: others,rest)
    | c :: rest =>
      if isVisible c then do
        let (others,rest) ← basicFrom fuel rest
        return (c :: others,rest)
      else none

def literalFrom : Reader (List Char)
  | [] => none
  | '\'' :: rest => some ([],rest)
  | c :: rest =>
    if isVisible c then do
      let (others,rest) ← literalFrom rest
      return (c :: others,rest)
    else none

-- The end of a string of several lines: three quotes, with up to two more
-- that belong to the string.
def longEnd (quote : Char) (text : List Char) : Option (List Char × List Char) :=
  let run := (text.takeWhile (· = quote)).length
  if run < 3 then none
  else
    let taken := min run 5
    some (List.replicate (taken - 3) quote,text.drop taken)

-- After a backslash at the end of a line all blanks and line ends are left out.
def joinLines (text : List Char) : Option (List Char) :=
  match newline (skipBlanks text) with
  | none => none
  | some (_,rest) => skipWhite rest.length rest
where
  skipWhite : Nat → List Char → Option (List Char)
    | 0, text => some text
    | fuel+1, text =>
      match newline (skipBlanks text) with
      | some (_,rest) => skipWhite fuel rest
      | none => some (skipBlanks text)

def longFrom (quote : Char) (escapes : Bool) : Nat → Reader (List Char)
  | 0, _ => none
  | fuel+1, text =>
    match longEnd quote text,text with
    | some found,_ => some found
    | none,[] => none
    | none,c :: rest =>
      if escapes ∧ c = '\\' then
        match joinLines rest with
        | some rest => longFrom quote escapes fuel rest
        | none => do
          let (c,rest) ← escape rest
          let (others,rest) ← longFrom quote escapes fuel rest
          return (c :: others,rest)
      else
        match newline (c :: rest) with
        | some (_,rest) => do
          let (others,rest) ← longFrom quote escapes fuel rest
          return ('\n' :: others,rest)
        | none =>
          if isVisible c then do
            let (others,rest) ← longFrom quote escapes fuel rest
            return (c :: others,rest)
          else none

def long (quote : Char) (escapes : Bool) : Reader String := fun text =>
  let text := match newline text with
    | some (_,rest) => rest
    | none => text
  (longFrom quote escapes (text.length + 1) text).map fun (chars,rest) => (String.ofList chars,rest)

def shortString : Reader String
  | '"' :: rest => (basicFrom (rest.length + 1) rest).map fun (chars,rest) => (String.ofList chars,rest)
  | '\'' :: rest => (literalFrom rest).map fun (chars,rest) => (String.ofList chars,rest)
  | _ => none

def string : Reader String
  | '"' :: '"' :: '"' :: rest => long '"' true rest
  | '\'' :: '\'' :: '\'' :: rest => long '\'' false rest
  | text => shortString text

def simpleKey : Reader String := fun text =>
  match text with
  | '"' :: _ | '\'' :: _ => shortString text
  | _ =>
    let bare := text.takeWhile isBare
    if bare.isEmpty then none else some (String.ofList bare,text.drop bare.length)

-- Keys joined by dots, with blanks around each. No more than 79 may be joined.
def keysFrom : Nat → Reader (List String)
  | 0, _ => none
  | fuel+1, text => do
    let (first,rest) ← simpleKey (skipBlanks text)
    match skipBlanks rest with
    | '.' :: rest => do
      let (others,rest) ← keysFrom fuel rest
      return (first :: others,rest)
    | rest => return ([first],rest)

def depthLimit : Nat := 80

def keys : Reader (List String) := fun text => do
  let (path,rest) ← keysFrom (text.length + 1) text
  if path.length < depthLimit then return (path,rest) else none

def isDigit (c : Char) : Bool := (Numeral.digit? c).isSome

def partedFrom (digit : Char → Option Nat) : List Char → List Char × List Char
  | '_' :: c :: rest =>
    if (digit c).isSome then
      let (others,rest) := partedFrom digit rest
      (c :: others,rest)
    else ([],'_' :: c :: rest)
  | c :: rest =>
    if (digit c).isSome then
      let (others,rest) := partedFrom digit rest
      (c :: others,rest)
    else ([],c :: rest)
  | [] => ([],[])

def parted (digit : Char → Option Nat) : Reader (List Char)
  | c :: rest =>
    if (digit c).isSome then
      let (others,rest) := partedFrom digit rest
      some (c :: others,rest)
    else none
  | [] => none

def digitBelow (base : Nat) (c : Char) : Option Nat := do
  let d ← Numeral.hexDigit? c
  if d < base then some d else none

def natOf (digits : List Char) : Nat := (Numeral.positional? Numeral.digit? 10 digits).getD 0

def plain : Reader (List Char)
  | '0' :: rest => some (['0'],rest)
  | text => parted Numeral.digit? text

def sign : List Char → Bool × List Char
  | '+' :: rest => (false,rest)
  | '-' :: rest => (true,rest)
  | text => (false,text)

def integer : Reader Int := fun text => do
  let (n,rest) ← match text with
    | '0' :: 'x' :: rest => based 16 rest
    | '0' :: 'o' :: rest => based 8 rest
    | '0' :: 'b' :: rest => based 2 rest
    | _ => do
      let (negative,rest) := sign text
      let (digits,rest) ← plain rest
      let n : Int := natOf digits
      some (if negative then -n else n,rest)
  if -9223372036854775808 ≤ n ∧ n ≤ 9223372036854775807 then return (n,rest) else none
where
  based (base : Nat) : Reader Int := fun text => do
    let (digits,rest) ← parted (digitBelow base) text
    let n ← Numeral.positional? (digitBelow base) base digits
    return (n,rest)

-- Numbers with a fraction or an exponent, and the two that are no numbers. A
-- number past the largest double is refused, unless it is negative.
def real : Reader Unit := fun text =>
  let (negative,rest) := sign text
  match rest with
  | 'i' :: 'n' :: 'f' :: rest | 'n' :: 'a' :: 'n' :: rest => some ((),rest)
  | _ => do
    let (digits,rest) ← plain rest
    let (fraction,rest) ← match rest with
      | '.' :: rest => (parted Numeral.digit? rest).map fun (digits,rest) => (some digits,rest)
      | _ => some (none,rest)
    let (power,rest) ← match rest with
      | 'e' :: rest | 'E' :: rest => do
        let (negative,rest) := sign rest
        let (digits,rest) ← parted Numeral.digit? rest
        let n : Int := natOf digits
        some (some (if negative then -n else n),rest)
      | _ => some (none,rest)
    if fraction.isNone ∧ power.isNone then none
    let fraction := fraction.getD []
    if !negative ∧ Double.overflows (natOf (digits ++ fraction)) (power.getD 0 - fraction.length) then none
    return ((),rest)

def fixed (digits least most : Nat) : Reader Nat := fun text =>
  let front := text.take digits
  if front.length = digits ∧ front.all isDigit ∧ least ≤ natOf front ∧ natOf front ≤ most then
    some (natOf front,text.drop digits)
  else none

def monthDays (year month : Nat) : Nat :=
  if month = 2 then (if year % 4 = 0 ∧ (year % 100 ≠ 0 ∨ year % 400 = 0) then 29 else 28)
  else if month = 4 ∨ month = 6 ∨ month = 9 ∨ month = 11 then 30
  else 31

def date : Reader Unit := fun text => do
  let (year,rest) ← fixed 4 0 9999 text
  let (_,rest) ← expect '-' rest
  let (month,rest) ← fixed 2 1 12 rest
  let (_,rest) ← expect '-' rest
  let (_,rest) ← fixed 2 1 (monthDays year month) rest
  return ((),rest)

def time : Reader Unit := fun text => do
  let (_,rest) ← fixed 2 0 23 text
  let (_,rest) ← expect ':' rest
  let (_,rest) ← fixed 2 0 59 rest
  let (_,rest) ← expect ':' rest
  let (_,rest) ← fixed 2 0 60 rest
  match rest with
  | '.' :: rest => if isDigit (rest.headD ' ') then return ((),rest.dropWhile isDigit) else none
  | _ => return ((),rest)

def offset : Reader Unit
  | 'Z' :: rest | 'z' :: rest => some ((),rest)
  | c :: rest =>
    if c = '+' ∨ c = '-' then do
      let (_,rest) ← fixed 2 0 23 rest
      let (_,rest) ← expect ':' rest
      let (_,rest) ← fixed 2 0 59 rest
      return ((),rest)
    else none
  | [] => none

def moment : Reader Unit := fun text =>
  match date text with
  | none => time text
  | some (_,rest) =>
    let timed := match rest with
      | c :: after => if c = 'T' ∨ c = 't' ∨ c = ' ' then time after else none
      | [] => none
    match timed with
    | none => some ((),rest)
    | some (_,rest) => some ((offset rest).getD ((),rest))

end LockLender.Toml
