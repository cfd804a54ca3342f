import DeviceLink.Toml.Node
import DeviceLink.Toml.Text

/-!
# Reading numbers and moments

Digits may be grouped by single underscores between them.

* `integer`, `float`, `moment` — the three kinds.
* `number` — the first kind of the three that can be read.
-/

namespace DeviceLink.Toml

open Reader

/-! ## Digits -/

/-- What follows a first digit: more digits, each with an underscore in front or without. -/
def moreDigits (p : Char → Bool) : List Char → List Char × List Char
  | '_' :: c :: rest =>
    if p c then
      let (digits, left) := moreDigits p rest
      (c :: digits, left)
    else ([], '_' :: c :: rest)
  | c :: rest =>
    if p c then
      let (digits, left) := moreDigits p rest
      (c :: digits, left)
    else ([], c :: rest)
  | [] => ([], [])

def digits (p : Char → Bool) : Reader (List Char) := do
  let c ← next
  if !p c then failure
  let (more, rest) := moreDigits p (← get)
  set rest
  return c :: more

def ofDigits (base : Nat) (ds : List Char) : Nat :=
  ds.foldl (fun n c => n * base + (hexDigit? c).getD 0) 0

/-- A sign, if there is one; true for a minus. -/
def sign : Reader Bool := do
  if ← take? "-" then return true
  let _ ← take? "+"
  return false

/-- Digits to the base ten without a zero in front. -/
def wholeDigits : Reader (List Char) := do
  match ← peek with
  | some '0' => let _ ← next; return ['0']
  | _ => digits Char.isDigit

/-! ## Integers -/

def ofInt (n : Int) : Reader Node :=
  if -9223372036854775808 ≤ n ∧ n ≤ 9223372036854775807 then return .integer n else failure

def isOctal (c : Char) : Bool := '0' ≤ c ∧ c ≤ '7'
def isBinary (c : Char) : Bool := c = '0' || c = '1'

def integer : Reader Node := do
  if ← take? "0x" then ofInt (ofDigits 16 (← digits fun c => (hexDigit? c).isSome))
  else if ← take? "0o" then ofInt (ofDigits 8 (← digits isOctal))
  else if ← take? "0b" then ofInt (ofDigits 2 (← digits isBinary))
  else
    let negative ← sign
    let n := ofDigits 10 (← wholeDigits)
    ofInt (if negative then -n else n)

/-! ## Floats -/

/-- The least number that rounds to infinity: half a unit above the largest double. -/
def infinite : Nat := Nat.pow 2 1024 - Nat.pow 2 970

/-- Whether a mantissa times a power of ten is beyond the largest double. -/
def overflows (mantissa : Nat) (exponent : Int) : Bool :=
  if mantissa = 0 then false
  else if exponent > 400 then true
  else if exponent ≥ 0 then infinite ≤ mantissa * Nat.pow 10 exponent.toNat
  else if mantissa < Nat.pow 10 309 then false
  else if mantissa.log2 < 3 * (-exponent).toNat then false
  else infinite * Nat.pow 10 (-exponent).toNat ≤ mantissa

def fraction : Reader (List Char) := do expect "."; digits Char.isDigit

def exponent : Reader Int := do
  if !(← take? "e") then expect "E"
  let negative ← sign
  let n := ofDigits 10 (← digits Char.isDigit)
  return if negative then -n else n

def specialFloat : Reader Node := do
  let _ ← sign
  if !(← take? "inf") then expect "nan"
  return .float

def decimalFloat : Reader Node := do
  let negative ← sign
  let whole ← wholeDigits
  let behind ← optional? fraction
  let power ← match behind with
    | none => some <$> exponent
    | some _ => optional? exponent
  let ds := whole ++ behind.getD []
  let scale : Int := power.getD 0 - ((behind.getD []).length : Int)
  if !negative && overflows (ofDigits 10 ds) scale then failure
  return .float

def float : Reader Node := do
  match ← optional? decimalFloat with
  | some node => return node
  | none => specialFloat

/-! ## Moments -/

/-- A number of that many digits within bounds. -/
def fixedDigits (count low high : Nat) : Reader Nat := do
  let cs ← get
  let text := cs.take count
  if text.length ≠ count || !text.all Char.isDigit then failure
  let n := ofDigits 10 text
  if low ≤ n ∧ n ≤ high then set (cs.drop count); return n else failure

def monthLength (year month : Nat) : Nat :=
  let leap := year % 4 = 0 ∧ (year % 100 ≠ 0 ∨ year % 400 = 0)
  match month with
  | 2 => if leap then 29 else 28
  | 4 | 6 | 9 | 11 => 30
  | _ => 31

def date : Reader Unit := do
  let year ← fixedDigits 4 0 9999
  expect "-"
  let month ← fixedDigits 2 1 12
  expect "-"
  let _ ← fixedDigits 2 1 (monthLength year month)

def time : Reader Unit := do
  let _ ← fixedDigits 2 0 23
  expect ":"
  let _ ← fixedDigits 2 0 59
  expect ":"
  let _ ← fixedDigits 2 0 60
  let _ ← optional? do
    expect "."
    let c ← next
    if !c.isDigit then failure
    takeWhile Char.isDigit

def offset : Reader Unit := do
  if ← take? "Z" then return
  if ← take? "z" then return
  if !(← take? "+") then expect "-"
  let _ ← fixedDigits 2 0 23
  expect ":"
  let _ ← fixedDigits 2 0 59

def timeOfDate : Reader Unit := do
  match ← next with
  | 'T' | 't' | ' ' => time; let _ ← optional? offset
  | _ => failure

def moment : Reader Node := do
  match ← optional? date with
  | some () => let _ ← optional? timeOfDate
  | none => time
  return .moment

/-- A moment, a float or an integer: whichever can be read first. -/
def number : Reader Node := do
  match ← optional? moment with
  | some node => return node
  | none =>
    match ← optional? float with
    | some node => return node
    | none => integer

end DeviceLink.Toml
