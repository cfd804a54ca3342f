import DeviceLink.Config.Check
import DeviceLink.Log

/-!
# Setting up the log

The settings of the log say which outputs it has.  An output that cannot be reached is left out
as long as another one is there.

* `LogOutput` — an output.
* `LoggerFault` — why there is no log.
* `LoggerConfig.outputs` — the outputs that are there, with what is said while they are set up.
* `LoggerConfig.install` — checks the settings and takes the outputs into use.
-/

namespace DeviceLink

/-- Where log lines go. -/
inductive LogOutput where
  | console (c : ConsoleConfig)
  | journald (identifier : String)
  deriving DecidableEq, Repr

/-- Why there is no log. -/
inductive LoggerFault where
  /-- The settings break rules. -/
  | invalid (problems : List Config.Problem)
  /-- The settings ask for no output. -/
  | noOutput
  /-- The journal was to be the only output and cannot be reached. -/
  | journalUnavailable
  /-- The outputs cannot be taken into use. -/
  | notInstalled (reason : String)
  deriving DecidableEq, Repr

namespace LoggerFault

def name : LoggerFault → String
  | invalid _ => "ValidationError"
  | noOutput => "NoLayersConfigured"
  | journalUnavailable => "JournaldUnavailable"
  | notInstalled _ => "InitializationError"

def message : LoggerFault → String
  | invalid problems =>
    s!"Logger configuration validation error: {Config.Problem.lines problems}"
  | noOutput => "No logging layers were configured or successfully initialized"
  | journalUnavailable =>
    "Failed to initialize journald logger and console output is disabled"
  | notInstalled reason => s!"Logger initialization error: {reason}"

end LoggerFault

/-- What the system says when the outputs of a log are taken into use. -/
structure LogSystem where
  /-- Whether the journal can be reached, or the reason why not. -/
  journal : Except String Unit
  /-- The process has a log already. -/
  taken : Bool := false

namespace LoggerConfig

def consoleOutput (c : LoggerConfig) : List LogOutput :=
  match c.console with
  | some console => if console.enabled then [.console console] else []
  | none => []

def wantedJournal (c : LoggerConfig) : Option JournaldConfig :=
  c.journald.filter (·.enabled)

/-- The outputs that can be reached, and what is said on the way. -/
def outputs (c : LoggerConfig) (system : LogSystem) :
    List LogLine × Except LoggerFault (List LogOutput) :=
  let nothing : LogLine :=
    .warn "No logging layers were initialized. Please check your configuration."
  match c.wantedJournal, system.journal, c.consoleOutput with
  | none, _, [] => ([nothing], .error .noOutput)
  | none, _, console => ([], .ok console)
  | some journal, .ok (), console =>
    ([.info s!"Systemd journald logger initialized with identifier: {journal.identifier}"],
      .ok (console ++ [.journald journal.identifier]))
  | some _, .error reason, console =>
    ([.warn s!"Failed to initialize systemd journald logger: IO error: {reason}"],
      match console with
      | [] => .error .journalUnavailable
      | console => .ok console)

/-- **Takes the outputs into use**, if the settings break no rule. -/
def install (c : LoggerConfig) (system : LogSystem) :
    List LogLine × Except LoggerFault (List LogOutput) :=
  match c.problems with
  | [] =>
    let (said, found) := c.outputs system
    match found with
    | .error fault => (said, .error fault)
    | .ok outputs =>
      if system.taken then
        (said, .error (.notInstalled "a global default trace dispatcher has already been set"))
      else (said, .ok outputs)
  | problems => ([], .error (.invalid problems))

end LoggerConfig

end DeviceLink
