import DeviceLink.Toml.Number

/-!
# Reading documents

A document is a list of lines: headers, pairs of a key and a value, comments.

* `value` — a value, with arrays and inline tables nested to a limit.
* `keyPath` — a key, whose parts are joined by dots.
* `parse?` — the table that a document describes.
-/

namespace DeviceLink.Toml

open Reader

/-! ## Keys -/

def isBare (c : Char) : Bool :=
  c.isAlphanum || c = '_' || c = '-'

def simpleKey : Reader String := do
  match ← peek with
  | some '"' => basicString
  | some '\'' => literalString
  | _ =>
    let cs ← takeWhile isBare
    if cs.isEmpty then failure
    return String.ofList cs

def moreKeys : (fuel : Nat) → Reader (List String)
  | 0 => failure
  | fuel + 1 => do
    if ← take? "." then
      blanks
      let key ← simpleKey
      blanks
      return key :: (← moreKeys fuel)
    else return []

/-- How deep keys, arrays and inline tables may be nested, exclusively. -/
def depthLimit : Nat := 80

/-- A key as the path to its last part, and that part. -/
def keyPath : Reader (List String × String) := do
  blanks
  let first ← simpleKey
  blanks
  let keys := first :: (← moreKeys ((← get).length + 1))
  if keys.length ≥ depthLimit then failure
  return (keys.dropLast, keys.getLast?.getD first)

/-! ## Values -/

/-- The items of an array behind its opening bracket. -/
def arrayRest (item : Reader Node) : (fuel : Nat) → Reader (List Node)
  | 0 => failure
  | fuel + 1 => do
    gaps ((← get).length + 1)
    if ← take? "]" then return []
    let node ← item
    gaps ((← get).length + 1)
    if ← take? "," then return node :: (← arrayRest item fuel)
    expect "]"
    return [node]

def inlinePair (item : Reader Node) (es : Entries) : Reader Entries := do
  let (path, key) ← keyPath
  expect "="
  blanks
  let node ← item
  blanks
  match put path key node es with
  | some es => return es
  | none => failure

/-- The pairs of an inline table, the first of which comes next. -/
def inlineRest (item : Reader Node) : (fuel : Nat) → Entries → Reader Entries
  | 0, _ => failure
  | fuel + 1, es => do
    let es ← inlinePair item es
    if ← take? "," then inlineRest item fuel es
    else
      expect "\x7d"
      return es

/-- The pairs of an inline table behind its opening brace. -/
def inlineTable (item : Reader Node) : Reader Entries := do
  blanks
  if ← take? "\x7d" then return []
  inlineRest item ((← get).length + 1) []

/-- A value whose items, if it has any, are read by another reader; without one it may have
none. -/
def valueOf (item : Option (Reader Node)) : Reader Node := do
  match ← peek, item with
  | some '"', _ | some '\'', _ => return .string (← anyString)
  | some '[', some item =>
    expect "["
    return .array (← arrayRest item ((← get).length + 1))
  | some '{', some item =>
    expect "\x7b"
    return .table .inline (← inlineTable item)
  | some '[', none | some '{', none => failure
  | some 't', _ => expect "true"; return .boolean true
  | some 'f', _ => expect "false"; return .boolean false
  | some 'i', _ | some 'n', _ => specialFloat
  | _, _ => number

/-- **A value**, with a number of levels of nesting left. -/
def value : (depth : Nat) → Reader Node
  | 0 => valueOf none
  | depth + 1 => valueOf (some (value depth))

/-! ## Documents -/

/-- A document under way: the table so far, and the section that is open. -/
structure Draft where
  root : Entries := []
  section_ : List String := []

/-- A change that may be refused. -/
def orFail {α : Type} (o : Option α) : Reader α :=
  match o with
  | some a => return a
  | none => failure

/-- A header, which opens a section. -/
def header (d : Draft) : Reader Draft := do
  expect "["
  let element ← take? "["
  let (path, key) ← keyPath
  expect (if element then "]]" else "]")
  lineEnd
  let root ← orFail (if element then openElement path key d.root else openTable path key d.root)
  return { root, section_ := path ++ [key] }

/-- A pair of a key and a value in the open section. -/
def pair (d : Draft) : Reader Draft := do
  let (path, key) ← keyPath
  expect "="
  blanks
  let node ← value (depthLimit - 1)
  lineEnd
  let root ← orFail (putUnder d.section_ path key node d.root)
  return { d with root }

def lines (d : Draft) : (fuel : Nat) → Reader Draft
  | 0 => failure
  | fuel + 1 => do
    blanks
    match ← peek with
    | none => return d
    | some '#' => comment; ending; lines d fuel
    | some '\n' | some '\r' => newline; lines d fuel
    | some '[' => lines (← header d) fuel
    | some _ => lines (← pair d) fuel

/-- **The table that a document describes**, unless it is malformed.  A byte order mark in front
does not count. -/
def parse? (text : String) : Option Entries :=
  let cs := match text.toList with
    | c :: rest => if c.toNat = 0xFEFF then rest else c :: rest
    | [] => []
  ((lines {} (cs.length + 1)).run cs).map fun (d, _) => d.root

end DeviceLink.Toml
