/-!
# Descriptions of time formats

A description is literal text with components in square brackets; two opening brackets stand for
one that is literal.  A component has a name, modifiers, each a key and a value with a colon
between them, and descriptions of its own, each in brackets: one that is optional holds one, one
that lists alternatives holds any number, and the others hold none.

* `TimeLayout.Token`, `TimeLayout.lex` — brackets, literals, words and blanks.
* `TimeLayout.vocabulary` — which components there are, and which modifiers they take.
* `TimeLayout.Item`, `TimeLayout.items` — a description as a tree of components that exist.
* `TimeLayout.valid` — whether a description is well formed.
-/

namespace DeviceLink.TimeLayout

/-! ## Tokens -/

/-- A piece of a description. -/
inductive Token where
  | opening
  | closing
  /-- Text outside all brackets. -/
  | literal (text : List Char)
  /-- Blanks inside brackets. -/
  | blank (text : List Char)
  /-- Anything else inside brackets. -/
  | word (text : List Char)
  deriving DecidableEq, Repr

def isBlank (c : Char) : Bool :=
  c = ' ' || c = '\t' || c = '\n' || c = '\r' || c = Char.ofNat 12

/-- Puts a character in front of a token of its own sort, or makes a new one.  A backslash begins
a word. -/
def glue (c : Char) (depth : UInt8) (rest : List Token) : List Token :=
  if depth = 0 then
    match rest with
    | .literal text :: rest => .literal (c :: text) :: rest
    | rest => .literal [c] :: rest
  else if isBlank c then
    match rest with
    | .blank text :: rest => .blank (c :: text) :: rest
    | rest => .blank [c] :: rest
  else
    match rest with
    | .word text :: rest =>
      if text.head? = some '\\' then .word [c] :: .word text :: rest
      else .word (c :: text) :: rest
    | rest => .word [c] :: rest

/-- The tokens of a text that starts inside a number of brackets, which is counted in a byte.
Outside all brackets, two opening brackets in a row open nothing. -/
def lex (depth : UInt8) : List Char → List Token
  | [] => []
  | '[' :: '[' :: cs =>
    if depth = 0 then .opening :: .opening :: lex 0 cs
    else .opening :: .opening :: lex (depth + 2) cs
  | '[' :: cs => .opening :: lex (depth + 1) cs
  | c :: cs =>
    if depth ≠ 0 ∧ c = ']' then .closing :: lex (depth - 1) cs
    else glue c depth (lex depth cs)

/-! ## Components -/

/-- What a modifier may be set to. -/
inductive Values where
  | words (ws : List String)
  /-- A number from 1 to 65535. -/
  | count

def padding : String × Values := ("padding", .words ["space", "zero", "none"])
def sign : String × Values := ("sign", .words ["automatic", "mandatory"])
def truth (key : String) : String × Values := (key, .words ["false", "true"])

/-- How many descriptions of its own a component holds. -/
inductive Holding where
  | none
  | one
  | any

/-- A component of the language. -/
structure Kind where
  name : String
  modifiers : List (String × Values) := []
  holds : Holding := .none
  /-- A modifier that must be there. -/
  required : List String := []
  /-- What a modifier must be set to in the end, if it is there. -/
  settled : List (String × String) := []

/-- The components, with the modifiers they take. -/
def vocabulary : List Kind :=
  [{ name := "day", modifiers := [padding] },
    { name := "end", modifiers := [("trailing_input", .words ["prohibit", "discard"])] },
    { name := "first", holds := .any },
    { name := "hour", modifiers := [padding, ("repr", .words ["12", "24"])] },
    { name := "ignore", modifiers := [("count", .count)], required := ["count"] },
    { name := "minute", modifiers := [padding] },
    { name := "month",
      modifiers :=
        [padding, ("repr", .words ["numerical", "long", "short"]), truth "case_sensitive"] },
    { name := "offset_hour", modifiers := [sign, padding] },
    { name := "offset_minute", modifiers := [padding] },
    { name := "offset_second", modifiers := [padding] },
    -- a text that is only read, and left out when written, has no place in a log
    { name := "optional", modifiers := [truth "format"], holds := .one,
      settled := [("format", "true")] },
    { name := "ordinal", modifiers := [padding] },
    { name := "period",
      modifiers := [("case", .words ["lower", "upper"]), truth "case_sensitive"] },
    { name := "second", modifiers := [padding] },
    { name := "subsecond",
      modifiers :=
        [("digits", .words ["1", "2", "3", "4", "5", "6", "7", "8", "9", "1+"])] },
    { name := "unix_timestamp",
      modifiers :=
        [("precision", .words ["second", "millisecond", "microsecond", "nanosecond"]), sign] },
    { name := "weekday",
      modifiers :=
        [("repr", .words ["short", "long", "sunday", "monday"]), truth "one_indexed",
          truth "case_sensitive"] },
    { name := "week_number",
      modifiers := [padding, ("repr", .words ["iso", "sunday", "monday"])] },
    { name := "year",
      modifiers :=
        [padding, ("repr", .words ["full", "century", "last_two"]),
          ("range", .words ["standard", "extended"]), ("base", .words ["calendar", "iso_week"]),
          sign] }]

def isWord (text : List Char) (word : String) : Bool :=
  text.map Char.toLower = word.toList

def isCount (text : List Char) : Bool :=
  let digits := match text with
    | '+' :: rest => rest
    | other => other
  let n := digits.foldl (fun n c => n * 10 + (c.toNat - '0'.toNat)) 0
  !digits.isEmpty && digits.all Char.isDigit && 1 ≤ n && n ≤ 65535

def Values.allow (v : Values) (text : List Char) : Bool :=
  match v with
  | words ws => ws.any (isWord text)
  | count => isCount text

def Holding.allows : Holding → Nat → Bool
  | .none, n => n = 0
  | .one, n => n = 1
  | .any, _ => true

def Kind.takes (k : Kind) (ms : List (List Char × List Char)) : Bool :=
  let settings (key : String) := ms.filter fun m => isWord m.1 key
  ms.all (fun m => k.modifiers.any fun allowed => isWord m.1 allowed.1 && allowed.2.allow m.2) &&
    k.required.all (fun key => !(settings key).isEmpty) &&
    k.settled.all fun s => (settings s.1).getLast?.all fun m => isWord m.2 s.2

/-- Whether a component with a name, modifiers and a number of descriptions exists. -/
def known (name : List Char) (ms : List (List Char × List Char)) (descriptions : Nat) : Bool :=
  vocabulary.any fun k => isWord name k.name && k.takes ms && k.holds.allows descriptions

/-! ## The tree -/

/-- A part of a description. -/
inductive Item where
  | literal (text : List Char)
  | component (name : List Char) (modifiers : List (List Char × List Char))
      (descriptions : List (List Item))

/-- A reader of tokens; one that fails leaves the tokens where it stopped. -/
abbrev Reader := OptionT (StateM (List Token))

def bracket? (t : Token) : Reader Bool := do
  match ← get with
  | next :: rest => if next = t then set rest; return true else return false
  | [] => return false

def blank? : Reader Bool := do
  match ← get with
  | .blank _ :: rest => set rest; return true
  | _ => return false

def word? : Reader (Option (List Char)) := do
  match ← get with
  | .word text :: rest => set rest; return some text
  | _ => return none

def expect (t : Token) : Reader Unit := do
  if !(← bracket? t) then failure

/-- The key and the value of a modifier. -/
def modifier? (text : List Char) : Option (List Char × List Char) :=
  let key := text.takeWhile (· ≠ ':')
  match text.drop key.length with
  | [] => none
  | _ :: value => if key.isEmpty || value.isEmpty then none else some (key, value)

def modifiers : (fuel : Nat) → Reader (List (List Char × List Char))
  | 0 => failure
  | fuel + 1 => do
    if ← blank? then
      match ← word? with
      | none => return []
      | some text =>
        match modifier? text with
        | none => failure
        | some m => return m :: (← modifiers fuel)
    else return []

mutual

/-- The items up to the end, or up to a closing bracket. -/
def items : (fuel : Nat) → Reader (List Item)
  | 0 => failure
  | fuel + 1 => do
    match ← get with
    | [] | .closing :: _ => return []
    | .literal text :: rest | .blank text :: rest | .word text :: rest =>
      set rest
      return .literal text :: (← items fuel)
    | .opening :: .opening :: rest =>
      set rest
      return .literal ['['] :: (← items fuel)
    | .opening :: rest =>
      set rest
      let item ← component fuel
      return item :: (← items fuel)

/-- A component whose opening bracket has been taken. -/
def component : (fuel : Nat) → Reader Item
  | 0 => failure
  | fuel + 1 => do
    let _ ← blank?
    let some name ← word? | failure
    let ms ← modifiers fuel
    let descriptions ← nested fuel
    expect .closing
    if !known name ms descriptions.length then failure
    return .component name ms descriptions

def bracketed : (fuel : Nat) → Reader (List Item)
  | 0 => failure
  | fuel + 1 => do
    expect .opening
    let inner ← items fuel
    expect .closing
    let _ ← blank?
    return inner

/-- As many descriptions in brackets as can be read.  One that cannot ends them where it stopped,
and what follows it belongs to the component around it. -/
def nested : (fuel : Nat) → Reader (List (List Item))
  | 0 => failure
  | fuel + 1 => do
    match ← OptionT.lift (bracketed fuel).run with
    | none => return []
    | some inner => return inner :: (← nested fuel)

end

/-- The tree of a description, if it has one.  A closing bracket that is left over ends it. -/
def parse? (description : String) : Option (List Item) :=
  let tokens := lex 0 description.toList
  -- each step of reading takes a token or goes at most four levels down before one does
  ((items (5 * tokens.length + 5)).run tokens).1

/-- **A description is valid** if its brackets and modifiers are in order and every component in
it exists. -/
def valid (description : String) : Bool := (parse? description).isSome

end DeviceLink.TimeLayout
