import DeviceLink.Config.Basic
import DeviceLink.Config.Problem
import DeviceLink.Config.TimeLayout
import DeviceLink.Text.Quoted

/-!
# Checking a configuration

Every rule of every setting, checked on its own, so that a file with several mistakes hears of all
of them.

* `LoggerConfig.problems`, `PipelineConfig.problems`, `TransportConfig.problems` — the broken rules
  of a section.
* `Config.problems` — those of all sections.
-/

namespace DeviceLink

namespace Config

/-! ## Rules -/

def checkLength (setting : String) (min : Nat) (max : Option Nat) (message : String)
    (text : String) : List Problem :=
  let n := text.length
  if min ≤ n ∧ max.all (n ≤ ·) then []
  else [⟨setting, .length min max, some message, .text text⟩]

def checkRange (setting : String) (min max : Option Nat) (message : Option String) (n : Nat) :
    List Problem :=
  if min.all (· ≤ n) ∧ max.all (n ≤ ·) then []
  else [⟨setting, .range min max, message, .number n⟩]

def levels : List String := ["trace", "debug", "info", "warn", "error"]

def isLevel (text : String) : Bool :=
  levels.any fun level => level.toList = text.toList.map Char.toLower

def checkLevel (text : String) : List Problem :=
  if isLevel text then []
  else
    let names := ", ".intercalate (levels.map Text.quoted)
    [⟨"level", .logLevel, some s!"unknown log level '{text}', expected one of [{names}]",
      .text text⟩]

/-- What is wrong with a description of a time format. -/
def layoutFault? (description : String) : Option String :=
  if description = "" then some "custom timestamp format cannot be empty"
  else if TimeLayout.valid description then none
  else some s!"bad timestamp format '{description}'"

/-- A description of a time format that can be used. -/
def checkLayout : TimestampFormat → List Problem
  | .rfc3339 | .unix => []
  | .custom description =>
    match layoutFault? description with
    | none => []
    | some message =>
      [⟨"timestamp_format", .timeLayout, some message, .layout description⟩]

/-- A path that names a regular file that can be opened. -/
def checkFile (files : Files) (setting : String) (path : String) : List Problem :=
  match FileFault.find? files path with
  | none => []
  | some fault => [⟨setting, .file fault, some fault.message, .text path⟩]

def within (section_ : String) (problems : List Problem) : List Problem :=
  problems.map (·.inSection section_)

end Config

open Config

/-! ## Sections -/

def JournaldConfig.problems (c : JournaldConfig) : List Problem :=
  checkLength "identifier" 1 none "journald identifier cannot be empty" c.identifier

def LoggerConfig.problems (c : LoggerConfig) : List Problem :=
  checkLevel c.level ++ checkLayout c.timestampFormat ++
    within "journald" (c.journald.toList.flatMap JournaldConfig.problems)

def PipelineConfig.problems (c : PipelineConfig) : List Problem :=
  checkLength "thread_name_prefix" 1 (some 8) "Thread name prefix must be 1 to 8 characters"
      c.threadNamePrefix ++
    checkLength "stage_name" 1 none "Stage name must not be empty" c.stageName ++
    checkRange "unhandled_history" (some 1) (some 1024) none c.unhandledHistory

def TransportConfig.problems (files : Files) (c : TransportConfig) : List Problem :=
  checkRange "port" (some 1) none "port 0 is not a broker port" c.port.toNat ++
    checkRange "keep_alive" (some 5) (some 3600) "keep_alive must be 5..=3600 seconds"
      c.keepAlive.toNat ++
    checkRange "max_inflight" (some 1) (some 1000) "max_inflight must be 1..=1000"
      c.maxInflight.toNat ++
    c.maxPacketSize.toList.flatMap (fun n =>
      checkRange "max_packet_size" (some 64) none
        "max_packet_size below 64 bytes cannot carry a CONNECT" n.toNat) ++
    c.requestChannelCapacity.toList.flatMap (fun n =>
      checkRange "request_channel_capacity" (some 1) (some 255)
        "request_channel_capacity must be 1..=255" n.toNat) ++
    checkRange "qos" none (some 2) "qos must be 0, 1 or 2" c.qos.toNat ++
    c.caCertPath.toList.flatMap (checkFile files "ca_cert_path")

/-- **All broken rules.** -/
def Config.problems (files : Files) (c : Config) : List Problem :=
  within "logger" c.logger.problems ++ within "pipeline" c.pipeline.problems ++
    within "transport" (c.transport.problems files)

end DeviceLink
