/-!
# Settings

The settings of a link in three sections.  Every setting has a default, which stands wherever a
file is silent.

* `LoggerConfig` — what is logged, where and how it is stamped.
* `PipelineConfig` — names of workers and stage, memory for failures.
* `TransportConfig` — what stays the same for every session.
* `Config` — the three together.
-/

namespace DeviceLink

/-! ## Logging -/

/-- The layout of a console line. -/
inductive LogFormat where
  | compact
  | pretty
  | json
  deriving DecidableEq, Repr

/-- How a console line is stamped. -/
inductive TimestampFormat where
  | rfc3339
  | unix
  /-- By a description of the time format. -/
  | custom (description : String)
  deriving DecidableEq, Repr

structure ConsoleConfig where
  enabled : Bool := true
  format : LogFormat := .compact
  /-- The place in the program that a line comes from is shown. -/
  showTarget : Bool := false
  showThreadIds : Bool := false
  showThreadNames : Bool := true
  /-- A line is written when a span closes. -/
  showSpans : Bool := false
  ansiColors : Bool := true
  deriving DecidableEq, Repr

/-- Output to the journal of the system. -/
structure JournaldConfig where
  enabled : Bool := false
  identifier : String := "hubpipe"
  deriving DecidableEq, Repr

structure LoggerConfig where
  level : String := "info"
  timestampFormat : TimestampFormat := .rfc3339
  console : Option ConsoleConfig := some {}
  journald : Option JournaldConfig := none
  deriving DecidableEq, Repr

/-! ## The pipeline -/

structure PipelineConfig where
  /-- What the names of the two worker threads start with. -/
  threadNamePrefix : String := "hubpipe"
  stageName : String := "MQTTClientStage"
  /-- How many failures are remembered. -/
  unhandledHistory : Nat := 64
  deriving DecidableEq, Repr

/-! ## The transport -/

/-- How hard a message's delivery is tried. -/
inductive QoS where
  | atMostOnce
  | atLeastOnce
  | exactlyOnce
  deriving DecidableEq, Repr

def QoS.shown : QoS → String
  | atMostOnce => "AtMostOnce"
  | atLeastOnce => "AtLeastOnce"
  | exactlyOnce => "ExactlyOnce"

/-- The number that stands for a level in packets. -/
def QoS.code : QoS → Nat
  | atMostOnce => 0
  | atLeastOnce => 1
  | exactlyOnce => 2

structure TransportConfig where
  port : UInt16 := 8883
  /-- Seconds of silence before the client asks whether the broker is there. -/
  keepAlive : UInt64 := 60
  cleanSession : Bool := false
  /-- How many messages may wait for their acknowledgement. -/
  maxInflight : UInt16 := 10
  /-- An upper bound on packets in both directions, if there is one. -/
  maxPacketSize : Option UInt16 := some 65535
  /-- How many requests the client queues before it refuses more. -/
  requestChannelCapacity : Option UInt8 := some 10
  qos : UInt8 := 1
  tls : Bool := true
  /-- A file with the certificates that vouch for the broker. -/
  caCertPath : Option String := none
  deriving DecidableEq, Repr

/-- The level for publishing and subscribing; any number that names none counts as 1. -/
def TransportConfig.level (c : TransportConfig) : QoS :=
  match c.qos with
  | 0 => .atMostOnce
  | 2 => .exactlyOnce
  | _ => .atLeastOnce

/-- All settings. -/
structure Config where
  logger : LoggerConfig := {}
  pipeline : PipelineConfig := {}
  transport : TransportConfig := {}
  deriving DecidableEq, Repr

end DeviceLink
