import DeviceLink.Config.Check
import DeviceLink.Config.Read

/-!
# Loading a configuration

A configuration comes from a file named by a variable of the environment, or from the usual place.

* `ConfigFault` — why there is no configuration.
* `Config.ofToml` — the configuration a text describes.
* `Config.load`, `Config.locate`, `Config.find` — a given file, the file to take, both.
-/

namespace DeviceLink

/-- Why there is no configuration. -/
inductive ConfigFault where
  /-- No file is named, or the named file is missing. -/
  | missing (reason : String)
  /-- The file cannot be read. -/
  | unreadable (reason : String)
  /-- The text is no document, or a setting has a wrong type. -/
  | malformed
  /-- Rules are broken. -/
  | invalid (problems : List Config.Problem)
  deriving DecidableEq, Repr

namespace ConfigFault

def name : ConfigFault → String
  | missing _ => "Config"
  | unreadable _ => "IoError"
  | malformed => "ParseError"
  | invalid _ => "ValidationError"

/-- The fault in one text; of a malformed document only that it is one. -/
def message : ConfigFault → String
  | missing reason => s!"Configuration error: {reason}"
  | unreadable reason => s!"Cannot read configuration: {reason}"
  | malformed => "Malformed configuration"
  | invalid problems => s!"Invalid configuration: {Config.Problem.lines problems}"

end ConfigFault

namespace Config

/-- The variable of the environment that names the file. -/
def variableName : String := "HUBPIPE_CONFIG"

/-- Where the file is when the variable names none. -/
def defaultPath : String := "/etc/hubpipe/config.toml"

/-- **The configuration a text describes**, if it is well formed and breaks no rule. -/
def ofToml (files : Files) (text : String) : Except ConfigFault Config :=
  match (Toml.parse? text).bind ofDocument? with
  | none => .error .malformed
  | some c =>
    match c.problems files with
    | [] => .ok c
    | problems => .error (.invalid problems)

def readText (status : FileStatus) : Except String String :=
  match status with
  | .absent => .error "No such file or directory (os error 2)"
  | .unreachable reason => .error reason
  | .present _ (.error reason) => .error reason
  | .present _ (.ok content) =>
    match String.fromUTF8? ⟨content.toArray⟩ with
    | some text => .ok text
    | none => .error "stream did not contain valid UTF-8"

def FileStatus.isThere : FileStatus → Bool
  | .present _ _ => true
  | .absent | .unreachable _ => false

def FileStatus.isRegular : FileStatus → Bool
  | .present regular _ => regular
  | .absent | .unreachable _ => false

def load (files : Files) (path : String) : Except ConfigFault Config :=
  if !(files path).isThere then .error (.missing s!"{path} does not exist")
  else match readText (files path) with
    | .error reason => .error (.unreadable reason)
    | .ok text => ofToml files text

/-- The file to load, given what the variable names. -/
def locate (files : Files) (named : Option String) : Except ConfigFault String :=
  match named with
  | some path => .ok path
  | none =>
    if (files defaultPath).isRegular then .ok defaultPath
    else .error (.missing s!"{variableName} is not set and {defaultPath} does not exist")

def find (files : Files) (named : Option String) : Except ConfigFault Config :=
  (locate files named).bind (load files)

end Config

end DeviceLink
