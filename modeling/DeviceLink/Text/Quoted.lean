import DeviceLink.Text.Unprintable

/-!
# Quoted text and record text

How a value is shown to a person who debugs: text between double quotes with its special
characters escaped, bytes the same way with every byte outside printable ASCII as two hexadecimal
digits, and records as a name with fields in braces.

* `quoted`, `quotedBytes` — text and bytes between quotes.
* `record`, `openRecord`, `variant` — a name with its fields.
-/

namespace DeviceLink.Text

/-! ## Digits -/

def hexDigit (n : Nat) : Char :=
  if n < 10 then Char.ofNat (48 + n) else Char.ofNat (87 + n)

def hexByte (b : UInt8) : String :=
  String.ofList [hexDigit (b.toNat / 16), hexDigit (b.toNat % 16)]

/-- Bytes as lower-case hexadecimal digits, two for each. -/
def hex (bytes : List UInt8) : String :=
  String.join (bytes.map hexByte)

def hexValue? (c : Char) : Option Nat :=
  if '0' ≤ c ∧ c ≤ '9' then some (c.toNat - 48)
  else if 'a' ≤ c ∧ c ≤ 'f' then some (c.toNat - 87)
  else if 'A' ≤ c ∧ c ≤ 'F' then some (c.toNat - 55)
  else none

def bytesOfHex? : List Char → Option (List UInt8)
  | [] => some []
  | a :: b :: rest => do
    let high ← hexValue? a
    let low ← hexValue? b
    let bytes ← bytesOfHex? rest
    return UInt8.ofNat (high * 16 + low) :: bytes
  | [_] => none

def bytes (s : String) : List UInt8 := s.toUTF8.toList

/-! ## Quoting -/

/-- One character as it stands between quotes. -/
def escape (c : Char) : String :=
  match c with
  | '\x00' => "\\0"
  | '\t' => "\\t"
  | '\r' => "\\r"
  | '\n' => "\\n"
  | '"' => "\\\""
  | '\\' => "\\\\"
  | c =>
    if isUnprintable c then
      "\\u\x7b" ++ String.ofList (Nat.toDigits 16 c.toNat) ++ "\x7d"
    else c.toString

def quoted (s : String) : String :=
  "\"" ++ String.join (s.toList.map escape) ++ "\""

/-- One byte as it stands in a quoted byte string. -/
def escapeByte (b : UInt8) : String :=
  match b.toNat with
  | 0 => "\\0"
  | 9 => "\\t"
  | 10 => "\\n"
  | 13 => "\\r"
  | 34 => "\\\""
  | 92 => "\\\\"
  | n => if 0x20 ≤ n ∧ n < 0x7f then (Char.ofNat n).toString else "\\x" ++ hexByte b

def quotedBytes (bytes : List UInt8) : String :=
  "b\"" ++ String.join (bytes.map escapeByte) ++ "\""

/-! ## Records -/

/-- `label: value` for each field, with commas between. -/
def fieldList (fields : List (String × String)) : String :=
  ", ".intercalate (fields.map fun (label, value) => label ++ ": " ++ value)

def record (name : String) (fields : List (String × String)) : String :=
  name ++ " \x7b " ++ fieldList fields ++ " \x7d"

/-- A name with some of its fields, the rest hinted at by two dots. -/
def openRecord (name : String) (fields : List (String × String)) : String :=
  name ++ " \x7b " ++ String.join (fields.map fun (label, value) => label ++ ": " ++ value ++ ", ")
    ++ ".. \x7d"

/-- A name with one unlabelled part. -/
def variant (name part : String) : String :=
  name ++ "(" ++ part ++ ")"

def optional (part : Option String) : String :=
  match part with
  | none => "None"
  | some text => variant "Some" text

def truth (b : Bool) : String :=
  if b then "true" else "false"

end DeviceLink.Text
