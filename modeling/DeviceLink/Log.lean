import DeviceLink.Context

/-!
# Log lines

What the parts of a link write to the log while they work.

* `LogLine` — a level and a text.
* `LogSource`, `LogRecord` — a line with the part that wrote it and the worker it was written on.
-/

namespace DeviceLink

/-- How much a log line matters. -/
inductive Level where
  | trace
  | debug
  | info
  | warn
  | error
  deriving DecidableEq, Repr

namespace Level

def word : Level → String
  | trace => "TRACE"
  | debug => "DEBUG"
  | info => "INFO"
  | warn => "WARN"
  | error => "ERROR"

def all : List Level := [trace, debug, info, warn, error]

def rank : Level → Nat
  | trace => 0
  | debug => 1
  | info => 2
  | warn => 3
  | error => 4

end Level

/-- One line of a log. -/
structure LogLine where
  level : Level
  text : String
  deriving DecidableEq, Repr

namespace LogLine

def trace (text : String) : LogLine := ⟨.trace, text⟩
def debug (text : String) : LogLine := ⟨.debug, text⟩
def info (text : String) : LogLine := ⟨.info, text⟩
def warn (text : String) : LogLine := ⟨.warn, text⟩
def error (text : String) : LogLine := ⟨.error, text⟩

end LogLine

/-- The parts that write log lines. -/
inductive LogSource where
  | program
  | stage
  | chain
  | dispatch
  | unhandled
  | pipeline
  deriving DecidableEq, Repr

/-- The place in the program that a log names for a part. -/
def LogSource.target : LogSource → String
  | program => "hubpipe"
  | stage => "hubpipe::core::stage"
  | chain => "hubpipe::core::chain"
  | dispatch => "hubpipe::core::dispatch"
  | unhandled => "hubpipe::core::unhandled"
  | pipeline => "hubpipe::core::pipeline"

/-- A line with the part that wrote it. -/
structure LogRecord where
  source : LogSource
  /-- The worker that wrote it; none stands for a thread outside. -/
  worker : Option Context
  line : LogLine
  deriving DecidableEq, Repr

end DeviceLink
