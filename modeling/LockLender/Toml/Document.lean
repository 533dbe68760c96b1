import LockLender.Toml.Lexical

namespace LockLender.Toml

-- How a table came to be: by its own header or as the document itself, as a
-- part of the path in a header, or by a key with dots.
inductive Origin where
  | header
  | implied
  | dotted
  deriving DecidableEq, Repr

inductive Node where
  | text (text : String)
  | integer (n : Int)
  | real
  | truth (b : Bool)
  | moment
  | list (items : List Node)
  | inline (dotted : Bool) (fields : List (String × Node))
  | table (origin : Origin) (fields : List (String × Node))
  -- The tables of one repeated header.
  | tables (rows : List (List (String × Node)))

abbrev Fields := List (String × Node)

namespace Fields

def find? (fields : Fields) (key : String) : Option Node :=
  (List.find? (fun (k,_) => k = key) fields).map (·.2)

def put (fields : Fields) (key : String) (node : Node) : Fields :=
  match fields with
  | [] => [(key,node)]
  | (k,old) :: rest => if k = key then (key,node) :: rest else (k,old) :: put rest key node

def add (fields : Fields) (key : String) (node : Node) : Option Fields :=
  if (fields.find? key).isSome then none else some (fields ++ [(key,node)])

end Fields

def addInline (dotted : Bool) (fields : Fields) : List String → Bool → String → Node → Option Fields
  | [], long, key, node => if dotted = long then fields.add key node else none
  | first :: path, long, key, node =>
    match fields.find? first with
    | none => do
      let inner ← addInline true [] path long key node
      return fields ++ [(first,.inline true inner)]
    | some (.inline true inner) => do
      let inner ← addInline true inner path long key node
      return fields.put first (.inline true inner)
    | some _ => none

-- A key with dots in a table. The table that gets the value must be one made
-- by such keys; a row of a repeated header may be passed through on the way.
def addDotted (dotted : Bool) (fields : Fields) : List String → Bool → String → Node → Option Fields
  | [], long, key, node => if dotted = long then fields.add key node else none
  | first :: path, long, key, node =>
    match fields.find? first with
    | none => do
      let inner ← addDotted true [] path long key node
      return fields ++ [(first,.table .dotted inner)]
    | some (.table .header _) => none
    | some (.table origin inner) => do
      let inner ← addDotted (origin = .dotted) inner path long key node
      return fields.put first (.table origin inner)
    | some (.tables rows) => do
      let inner ← addDotted false (rows.getLast?.getD []) path long key node
      return fields.put first (.tables (rows.dropLast ++ [inner]))
    | some _ => none

def atPath (change : Fields → Option Fields) (fields : Fields) : List String → Option Fields
  | [] => change fields
  | first :: path =>
    match fields.find? first with
    | none => do
      let inner ← atPath change [] path
      return fields ++ [(first,.table .implied inner)]
    | some (.table origin inner) => do
      let inner ← atPath change inner path
      return fields.put first (.table origin inner)
    | some (.tables rows) => do
      let inner ← atPath change (rows.getLast?.getD []) path
      return fields.put first (.tables (rows.dropLast ++ [inner]))
    | some _ => none

def literal (word : String) (text : List Char) : Option (List Char) :=
  if word.toList.isPrefixOf text then some (text.drop word.length) else none

def scalar : Reader Node := fun text =>
  match text with
  | '"' :: _ | '\'' :: _ => (string text).map fun (s,rest) => (.text s,rest)
  | _ =>
    match literal "true" text,literal "false" text with
    | some rest,_ => some (.truth true,rest)
    | _,some rest => some (.truth false,rest)
    | none,none =>
      match moment text,real text,integer text with
      | some (_,rest),_,_ => some (.moment,rest)
      | _,some (_,rest),_ => some (.real,rest)
      | _,_,some (n,rest) => some (.integer n,rest)
      | _,_,_ => none

mutual
def value : Nat → Nat → Reader Node
  | 0, _, _ => none
  | fuel+1, depth, text =>
    match text with
    | '[' :: rest =>
      if depth + 1 < depthLimit then do
        let (nodes,rest) ← items fuel (depth + 1) rest
        return (.list nodes,rest)
      else none
    | '{' :: rest =>
      if depth + 1 < depthLimit then do
        let rest := skipBlanks rest
        if rest.head? = some '}' then return (.inline false [],rest.tail)
        let (fields,rest) ← pairs fuel (depth + 1) [] rest
        return (.inline false fields,rest)
      else none
    | _ => scalar text

def items : Nat → Nat → Reader (List Node)
  | 0, _, _ => none
  | fuel+1, depth, text => do
    let text ← skipLines text.length text
    if text.head? = some ']' then return ([],text.tail)
    let (first,rest) ← value fuel depth text
    match ← skipLines rest.length rest with
    | ']' :: rest => return ([first],rest)
    | ',' :: rest => do
      let (others,rest) ← items fuel depth rest
      return (first :: others,rest)
    | _ => none

def pairs : Nat → Nat → Fields → Reader Fields
  | 0, _, _, _ => none
  | fuel+1, depth, fields, text => do
    let (path,rest) ← keys text
    let (_,rest) ← expect '=' rest
    let (node,rest) ← value fuel depth (skipBlanks rest)
    let key ← path.getLast?
    let fields ← addInline false fields path.dropLast (path.length > 1) key node
    match skipBlanks rest with
    | '}' :: rest => return (fields,rest)
    | ',' :: rest => pairs fuel depth fields rest
    | _ => none
end

-- The document so far, apart from the table now being filled, whose header
-- gave the path; no header yet is the empty path.
structure Building where
  root : Fields := []
  path : List String := []
  repeated : Bool := false
  current : Fields := []

namespace Building

def close (b : Building) : Option Fields :=
  match b.path.getLast? with
  | none => some b.current
  | some key =>
    atPath (fun parent =>
      if b.repeated then
        match parent.find? key with
        | none => some (parent ++ [(key,.tables [b.current])])
        | some (.tables rows) => some (parent.put key (.tables (rows ++ [b.current])))
        | some _ => none
      else
        match parent.find? key with
        | none => some (parent ++ [(key,.table .header b.current)])
        | some _ => none) b.root b.path.dropLast

-- What a header takes up again: the tables that longer headers put below it.
def implied (fields : Fields) : List String → Fields
  | [] => []
  | [key] =>
    match fields.find? key with
    | some (.table .implied inner) => inner
    | _ => []
  | first :: path =>
    match fields.find? first with
    | some (.table _ inner) => implied inner path
    | some (.tables rows) => implied (rows.getLast?.getD []) path
    | _ => []

def header (b : Building) (path : List String) : Option Building := do
  let root ← b.close
  let key ← path.getLast?
  let current := implied root path
  let root ← atPath (fun parent =>
    match parent.find? key with
    | none => some parent
    | some (.table .implied _) => some (parent.filter (·.1 ≠ key))
    | some _ => none) root path.dropLast
  return { root, path, current }

def repeatedHeader (b : Building) (path : List String) : Option Building := do
  let root ← b.close
  let key ← path.getLast?
  let root ← atPath (fun parent =>
    match parent.find? key with
    | none | some (.tables _) => some parent
    | some _ => none) root path.dropLast
  return { root, path, repeated := true }

def pair (b : Building) (path : List String) (node : Node) : Option Building := do
  let key ← path.getLast?
  let current ← addDotted false b.current path.dropLast (path.length > 1) key node
  return { b with current }

end Building

def statement (b : Building) (text : List Char) : Option (Building × List Char) :=
  match text with
  | '[' :: '[' :: rest => do
    let (path,rest) ← keys rest
    let (_,rest) ← expect ']' rest
    let (_,rest) ← expect ']' rest
    return (← b.repeatedHeader path,← lineEnd rest)
  | '[' :: rest => do
    let (path,rest) ← keys rest
    let (_,rest) ← expect ']' rest
    return (← b.header path,← lineEnd rest)
  | _ => do
    let (path,rest) ← keys text
    let (_,rest) ← expect '=' rest
    let (node,rest) ← value (2 * rest.length + 2) 0 (skipBlanks rest)
    return (← b.pair path node,← lineEnd rest)

def statements : Nat → Building → List Char → Option Building
  | 0, _, _ => none
  | fuel+1, b, text =>
    match skipBlanks text with
    | [] => some b
    | '#' :: rest => do statements fuel b (← lineEnd ('#' :: rest))
    | rest =>
      match newline rest with
      | some (_,rest) => statements fuel b rest
      | none => do
        let (b,rest) ← statement b rest
        statements fuel b rest

-- The fields of a whole document. A byte order mark in front is left out.
def parse (text : List Char) : Option Fields :=
  let text := match text with
    | '\ufeff' :: rest => rest
    | _ => text
  (statements (text.length + 1) {} text).bind Building.close

end LockLender.Toml
