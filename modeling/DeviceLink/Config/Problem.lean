/-!
# What is wrong with a configuration

A configuration that reads well can still break a rule.  Each broken rule is a `Problem`: the
setting, the rule, the message for the person who wrote the file, and the value found.

* `FileStatus`, `Files` — what the program may learn about a path.
* `FileFault`, `readFile` — why a path does not name a readable regular file, and its content.
* `Rule`, `Problem` — a broken rule at a setting.
-/

namespace DeviceLink.Config

/-! ## Files -/

/-- What a look at a path shows. -/
inductive FileStatus where
  /-- Nothing is there. -/
  | absent
  /-- The path cannot be looked at, for the given reason. -/
  | unreachable (reason : String)
  /-- Something is there: a regular file or not, with its content or the reason why it cannot be
  read. -/
  | present (regular : Bool) (content : Except String (List UInt8))

/-- The files a program sees: one status for each path. -/
abbrev Files := String → FileStatus

/-- Why a path does not name a regular file that can be opened. -/
inductive FileFault where
  | emptyPath
  | notAFile (path : String)
  | unreadable (path reason : String)
  | notFound (path : String)
  | unreachable (path reason : String)
  deriving DecidableEq, Repr

/-- The content of the regular file that a path names, or why there is none. -/
def readFile (files : Files) (path : String) : Except FileFault (List UInt8) :=
  if path = "" then .error .emptyPath
  else match files path with
    | .absent => .error (.notFound path)
    | .unreachable reason => .error (.unreachable path reason)
    | .present false _ => .error (.notAFile path)
    | .present true (.error reason) => .error (.unreadable path reason)
    | .present true (.ok content) => .ok content

namespace FileFault

def find? (files : Files) (path : String) : Option FileFault :=
  match readFile files path with
  | .error fault => some fault
  | .ok _ => none

def code : FileFault → String
  | emptyPath => "empty_path"
  | notAFile _ => "not_a_file"
  | unreadable _ _ | unreachable _ _ => "file_not_readable"
  | notFound _ => "file_not_found"

def message : FileFault → String
  | emptyPath => "file path is empty"
  | notAFile path => s!"{path} is not a regular file"
  | unreadable path reason => s!"cannot read {path}: {reason}"
  | notFound path => s!"{path} does not exist"
  | unreachable path reason => s!"cannot stat {path}: {reason}"

end FileFault

/-! ## Broken rules -/

/-- A value found in a configuration. -/
inductive Value where
  | number (n : Nat)
  | text (s : String)
  /-- A layout of time stamps given by its description. -/
  | layout (s : String)
  deriving DecidableEq, Repr

/-- A rule that a value breaks. -/
inductive Rule where
  /-- The count of characters is outside the bounds. -/
  | length (min : Nat) (max : Option Nat)
  /-- The number is outside the bounds. -/
  | range (min max : Option Nat)
  /-- The word is no log level. -/
  | logLevel
  /-- The description of time stamps is empty or malformed. -/
  | timeLayout
  /-- The path does not name a readable regular file. -/
  | file (fault : FileFault)
  deriving DecidableEq, Repr

def Rule.code : Rule → String
  | length _ _ => "length"
  | range _ _ => "range"
  | logLevel => "log_level"
  | timeLayout => "timestamp_format"
  | file fault => fault.code

/-- A broken rule at a setting. -/
structure Problem where
  /-- The path of the setting, its parts joined by dots. -/
  setting : String
  rule : Rule
  message : Option String
  value : Value
  deriving DecidableEq, Repr

namespace Problem

def inSection (name : String) (p : Problem) : Problem :=
  { p with setting := name ++ "." ++ p.setting }

/-- The setting and what is wrong with it; every rule of the transport section has a message. -/
def line (p : Problem) : String :=
  p.setting ++ ": " ++ p.message.getD s!"Validation error: {p.rule.code}"

def lines (problems : List Problem) : String :=
  "\n".intercalate (problems.map line)

end Problem

end DeviceLink.Config
