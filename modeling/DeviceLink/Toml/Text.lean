/-!
# Reading characters, comments and strings

* `Reader` — takes characters from the front of a text, or fails.
* `blanks`, `newline`, `comment`, `lineEnd` — what stands between.
* `basicString`, `literalString`, `longBasicString`, `longLiteralString` — the four kinds of
  strings.
-/

namespace DeviceLink.Toml

/-- A reader takes characters from the front of a text, or fails. -/
abbrev Reader := StateT (List Char) Option

namespace Reader

def peek : Reader (Option Char) := do return (← get).head?

def next : Reader Char := do
  match ← get with
  | [] => failure
  | c :: rest => set rest; return c

def expect (text : String) : Reader Unit := do
  let cs ← get
  if text.toList.isPrefixOf cs then set (cs.drop text.length) else failure

def take? (text : String) : Reader Bool := do
  let cs ← get
  if text.toList.isPrefixOf cs then set (cs.drop text.length); return true else return false

def takeWhile (p : Char → Bool) : Reader (List Char) := do
  let cs ← get
  let taken := cs.takeWhile p
  set (cs.drop taken.length)
  return taken

def optional? {α : Type} (r : Reader α) : Reader (Option α) := fun cs =>
  match r cs with
  | some (a, rest) => some (some a, rest)
  | none => some (none, cs)

end Reader

open Reader

/-! ## Between -/

def isBlank (c : Char) : Bool := c = ' ' || c = '\t'

/-- A character that may stand in a comment, and as itself in strings. -/
def isPlain (c : Char) : Bool := c = '\t' || (32 ≤ c.toNat && c.toNat ≠ 127)

def blanks : Reader Unit := do let _ ← takeWhile isBlank

def newline : Reader Unit := do
  if ← take? "\n" then return
  expect "\r\n"

def comment : Reader Unit := do
  expect "#"
  let _ ← takeWhile isPlain

def ending : Reader Unit := do
  match ← peek with
  | none => return
  | some _ => newline

/-- What may follow on a line that is over. -/
def lineEnd : Reader Unit := do
  blanks
  if (← peek) = some '#' then comment
  ending

/-- Blanks, line ends and comments between the items of an array. -/
def gaps : (fuel : Nat) → Reader Unit
  | 0 => failure
  | fuel + 1 => do
    blanks
    match ← peek with
    | some '#' => comment; newline; gaps fuel
    | some '\n' | some '\r' => newline; gaps fuel
    | _ => return

/-! ## Strings -/

def hexDigit? (c : Char) : Option Nat :=
  if c.isDigit then some (c.toNat - '0'.toNat)
  else if 'a' ≤ c ∧ c ≤ 'f' then some (c.toNat - 'a'.toNat + 10)
  else if 'A' ≤ c ∧ c ≤ 'F' then some (c.toNat - 'A'.toNat + 10)
  else none

/-- A number of digits to the base sixteen, as the character it names. -/
def codePoint (digits : Nat) : Reader Char := do
  let cs ← get
  let text := cs.take digits
  if text.length ≠ digits then failure
  match text.mapM hexDigit? with
  | none => failure
  | some ds =>
    let n := ds.foldl (fun n d => n * 16 + d) 0
    if n.isValidChar then
      set (cs.drop digits)
      return Char.ofNat n
    else failure

/-- What stands behind a backslash, as the character it means. -/
def escape : Reader Char := do
  match ← next with
  | 'b' => return Char.ofNat 8
  | 't' => return '\t'
  | 'n' => return '\n'
  | 'f' => return Char.ofNat 12
  | 'r' => return '\r'
  | '"' => return '"'
  | '\\' => return '\\'
  | 'u' => codePoint 4
  | 'U' => codePoint 8
  | _ => failure

def basicRest : (fuel : Nat) → Reader (List Char)
  | 0 => failure
  | fuel + 1 => do
    match ← next with
    | '"' => return []
    | '\\' => return (← escape) :: (← basicRest fuel)
    | c => if isPlain c then return c :: (← basicRest fuel) else failure

def basicString : Reader String := do
  expect "\""
  return String.ofList (← basicRest ((← get).length + 1))

def literalString : Reader String := do
  expect "'"
  let text ← takeWhile fun c => isPlain c && c ≠ '\''
  expect "'"
  return String.ofList text

/-- Blanks and line ends behind a backslash at the end of a line. -/
def foldedLines : (fuel : Nat) → Reader Unit
  | 0 => failure
  | fuel + 1 => do
    blanks
    match ← peek with
    | some '\n' | some '\r' => newline; foldedLines fuel
    | _ => return

/-- The quotes in front of the end of a long string belong to it, up to two of them. -/
def closingQuotes (quote : Char) : Reader (Option (List Char)) := do
  let cs ← get
  let quotes := cs.takeWhile (· = quote)
  if quotes.length < 3 then return none
  else
    let own := min (quotes.length - 3) 2
    set (cs.drop (own + 3))
    return some (List.replicate own quote)

def longBasicRest : (fuel : Nat) → Reader (List Char)
  | 0 => failure
  | fuel + 1 => do
    match ← closingQuotes '"' with
    | some own => return own
    | none =>
      match ← next with
      | '\\' =>
        match ← optional? (do blanks; newline) with
        | some () => foldedLines ((← get).length + 1); longBasicRest fuel
        | none => return (← escape) :: (← longBasicRest fuel)
      | '\n' => return '\n' :: (← longBasicRest fuel)
      | '\r' => expect "\n"; return '\n' :: (← longBasicRest fuel)
      | c => if isPlain c then return c :: (← longBasicRest fuel) else failure

/-- A string between three double quotes on each side; a line end right behind the opening ones
does not count. -/
def longBasicString : Reader String := do
  expect "\"\"\""
  let _ ← optional? newline
  return String.ofList (← longBasicRest ((← get).length + 1))

def longLiteralRest : (fuel : Nat) → Reader (List Char)
  | 0 => failure
  | fuel + 1 => do
    match ← closingQuotes '\'' with
    | some own => return own
    | none =>
      match ← next with
      | '\n' => return '\n' :: (← longLiteralRest fuel)
      | '\r' => expect "\n"; return '\n' :: (← longLiteralRest fuel)
      | c => if isPlain c then return c :: (← longLiteralRest fuel) else failure

/-- A string between three single quotes on each side, without escapes. -/
def longLiteralString : Reader String := do
  expect "'''"
  let _ ← optional? newline
  return String.ofList (← longLiteralRest ((← get).length + 1))

def anyString : Reader String := do
  let cs ← get
  if "\"\"\"".toList.isPrefixOf cs then longBasicString
  else if "'''".toList.isPrefixOf cs then longLiteralString
  else if cs.head? = some '"' then basicString
  else literalString

end DeviceLink.Toml
