import DeviceLink.Log

/-!
# Which log lines are written

A filter is a list of directives.  Each gives the least important level that passes, for every
part or for the parts whose place in the program starts with a text; the longest such text wins.

* `LogDirective`, `LogFilter` — the directives.
* `LogFilter.parse?` — reads them from a text, separated by commas.
* `LogFilter.passes` — whether a line is written.
-/

namespace DeviceLink

/-- A directive; no level lets nothing pass. -/
structure LogDirective where
  /-- What the place starts with; the empty text stands for every part. -/
  start : String := ""
  level : Option Level
  deriving DecidableEq, Repr

abbrev LogFilter := List LogDirective

namespace LogFilter

def words : List (String × String × Option Level) :=
  [("off", "0", none), ("error", "1", some .error), ("warn", "2", some .warn),
    ("info", "3", some .info), ("debug", "4", some .debug), ("trace", "5", some .trace)]

def level? (text : String) : Option (Option Level) :=
  let small := String.ofList (text.toList.map Char.toLower)
  (words.find? fun w => w.1 = small || w.2.1 = small).map (·.2.2)

def isPlaceChar (c : Char) : Bool := c.isAlphanum || c == '_' || c == ':' || c == '-'

/-- One directive: a level, or a place with a level or without; without one, everything passes. -/
def directive? (text : String) : Option LogDirective :=
  match level? text with
  | some level => some { level }
  | none =>
    let place := text.toList.takeWhile isPlaceChar
    match place, text.toList.dropWhile isPlaceChar with
    | [], _ => none
    | _, [] | _, ['='] => some { start := String.ofList place, level := some .trace }
    | _, '=' :: rest =>
      (level? (String.ofList rest)).map fun level => { start := String.ofList place, level }
    | _, _ => none

/-- **The directives of a text.**  A text without any lets errors pass. -/
def parse? (text : String) : Option LogFilter :=
  match (text.splitOn ",").filter (· ≠ "") with
  | [] => some [{ level := some .error }]
  | parts => parts.mapM directive?

/-- The filter in force: that of the variable of the environment, if it can be read, or else the
one level that is configured. -/
def inForce (variable_ : Option String) (configured : String) : LogFilter :=
  match variable_.bind parse? with
  | some filter => filter
  | none => [{ level := (level? configured).getD (some .error) }]

def deciding? (filter : LogFilter) (place : String) : Option LogDirective :=
  (filter.filter fun d => d.start.isPrefixOf place).foldl (fun best d =>
    match best with
    | some b => if b.start.length ≤ d.start.length then some d else best
    | none => some d) none

/-- **Whether a line is written.** -/
def passes (filter : LogFilter) (r : LogRecord) : Bool :=
  match (filter.deciding? r.source.target).bind LogDirective.level with
  | some least => least.rank ≤ r.line.level.rank
  | none => false

end LogFilter

end DeviceLink
