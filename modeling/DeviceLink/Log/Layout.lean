import DeviceLink.Config.Basic
import DeviceLink.Log
import DeviceLink.Text.Quoted

/-!
# The layout of log lines

How a line looks on the console, apart from its time stamp: plain text, or one object per line.

* `LogRecord.plain`, `LogRecord.object` — the two layouts.
* `LogRecord.laidOut` — the layout that is configured.
-/

namespace DeviceLink

def mainThread : String := "main"

namespace LogRecord

def thread (r : LogRecord) (threadNamePrefix : String) : String :=
  match r.worker with
  | some c => c.threadName threadNamePrefix
  | none => mainThread

def escape (c : Char) : String :=
  if c = '"' then "\\\""
  else if c = '\\' then "\\\\"
  else if c = '\n' then "\\n"
  else if c = '\r' then "\\r"
  else if c = '\t' then "\\t"
  else if c = '\x08' then "\\b"
  else if c = '\x0c' then "\\f"
  else if c.toNat < 0x20 then "\\u00" ++ Text.hexByte (UInt8.ofNat c.toNat)
  else c.toString

def quoted (s : String) : String := "\"" ++ String.join (s.toList.map escape) ++ "\""

def plain (r : LogRecord) (c : ConsoleConfig) (threadNamePrefix : String) : String :=
  r.line.level.word ++ " " ++
    (if c.showThreadNames then r.thread threadNamePrefix ++ " " else "") ++
    (if c.showTarget then r.source.target ++ ": " else "") ++ r.line.text

def object (r : LogRecord) (c : ConsoleConfig) (threadNamePrefix : String) : String :=
  let field (name value : String) : String := quoted name ++ ":" ++ value
  "\x7b" ++ ",".intercalate
    ([field "level" (quoted r.line.level.word),
      field "fields" ("\x7b" ++ field "message" (quoted r.line.text) ++ "\x7d")] ++
      (if c.showTarget then [field "target" (quoted r.source.target)] else []) ++
      (if c.showThreadNames then [field "threadName" (quoted (r.thread threadNamePrefix))] else []))
    ++ "\x7d"

/-- **A line as it is configured.** -/
def laidOut (r : LogRecord) (c : ConsoleConfig) (threadNamePrefix : String) : String :=
  match c.format with
  | .json => r.object c threadNamePrefix
  | .compact | .pretty => r.plain c threadNamePrefix

end LogRecord

end DeviceLink
