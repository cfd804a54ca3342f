/-!
# Reading bytes as text

Bytes that are no text are read as far as they go.  Where they break off or make no character, a
replacement character stands for the longest piece that could still have become one.

* `Text.step` — the first character of some bytes, or the piece to be replaced.
* `Text.ofBytes` — all of them.
-/

namespace DeviceLink.Text

def replacement : Char := '\ufffd'

/-- The number of bytes that the first byte announces, and the bounds of the second byte; none if
no character starts with it. -/
def announced (b : UInt8) : Option (Nat × UInt8 × UInt8) :=
  if b < 0x80 then some (1, 0, 0)
  else if 0xc2 ≤ b && b ≤ 0xdf then some (2, 0x80, 0xbf)
  else if b = 0xe0 then some (3, 0xa0, 0xbf)
  else if b = 0xed then some (3, 0x80, 0x9f)
  else if 0xe1 ≤ b && b ≤ 0xef then some (3, 0x80, 0xbf)
  else if b = 0xf0 then some (4, 0x90, 0xbf)
  else if b = 0xf4 then some (4, 0x80, 0x8f)
  else if 0xf1 ≤ b && b ≤ 0xf3 then some (4, 0x80, 0xbf)
  else none

/-- The bytes that go on with a character after the first, at most as many as announced. -/
def following (low high : UInt8) : Nat → List UInt8 → List UInt8
  | 0, _ | _, [] => []
  | n + 1, b :: rest => if low ≤ b && b ≤ high then b :: following 0x80 0xbf n rest else []

/-- The character that complete bytes make: the bits of the first byte below its mark, and six
bits of each byte after it. -/
def character (width : Nat) (first : UInt8) (more : List UInt8) : Char :=
  let start := match width with
    | 1 => first.toNat
    | 2 => first.toNat % 0x20
    | 3 => first.toNat % 0x10
    | _ => first.toNat % 0x08
  Char.ofNat (more.foldl (fun n b => n * 0x40 + b.toNat % 0x40) start)

/-- The first character of some bytes, or the replacement of a piece, and how many bytes after the
first belong to it. -/
def step (first : UInt8) (rest : List UInt8) : Char × Nat :=
  match announced first with
  | none => (replacement, 0)
  | some (width, low, high) =>
    let more := following low high (width - 1) rest
    if more.length + 1 = width then (character width first more, more.length)
    else (replacement, more.length)

def chars : List UInt8 → List Char
  | [] => []
  | first :: rest =>
    let (c, more) := step first rest
    c :: chars (rest.drop more)
termination_by bytes => bytes.length
decreasing_by simp only [List.length_drop, List.length_cons]; omega

/-- **Bytes as text.** -/
def ofBytes (bytes : List UInt8) : String := String.ofList (chars bytes)

end DeviceLink.Text
