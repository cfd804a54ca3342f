import DeviceLink.Config.Basic
import DeviceLink.Toml.Document

/-!
# Reading settings from a document

A section is read setting by setting.  A setting that is not there keeps its default, a key that
names no setting is passed over, and a setting of the wrong type or out of its type's range makes
the whole document unreadable.

* `Record` — a section as it stands in a document: by names, or as a list in the order of the
  settings.
* `word?`, `natural?`, `truth?` — the types of settings.
* `Config.ofDocument?` — the settings of a document.
-/

namespace DeviceLink

namespace Config

open Toml (Node Entries)

/-! ## Sections -/

/-- A section as it stands in a document. -/
inductive Record where
  | named (es : Entries)
  | listed (items : List Node)

/-- A node that can stand for a section.  A moment is a section that names no setting. -/
def record? : Node → Option Record
  | .table _ es => some (.named es)
  | .moment => some (.named [])
  | .array items => some (.listed items)
  | .tables elements => some (.listed (elements.map (.table .header)))
  | .string _ | .integer _ | .float | .boolean _ => none

/-- What stands for a setting: by its name, or by its place. -/
def Record.get? (r : Record) (place : Nat) (name : String) : Option Node :=
  match r with
  | named es => es.lookup name
  | listed items => items[place]?

def Record.read {α : Type} (r : Record) (place : Nat) (name : String)
    (reader : Node → Option α) (default : α) : Option α :=
  match r.get? place name with
  | none => some default
  | some node => reader node

/-! ## Types of settings -/

def text? : Node → Option String
  | .string s => some s
  | _ => none

def truth? : Node → Option Bool
  | .boolean b => some b
  | _ => none

def largest : Nat := 18446744073709551615

/-- A number that is not negative and at most a bound. -/
def natural? (max : Nat) : Node → Option Nat
  | .integer n => if 0 ≤ n ∧ n ≤ max then some n.toNat else none
  | _ => none

def uint8? (node : Node) : Option UInt8 := (natural? 255 node).map UInt8.ofNat
def uint16? (node : Node) : Option UInt16 := (natural? 65535 node).map UInt16.ofNat
def uint64? (node : Node) : Option UInt64 := (natural? largest node).map UInt64.ofNat

/-- A node that may stand behind the name of a choice that takes nothing. -/
def nothing? : Node → Bool
  | .array items => items.isEmpty
  | .table _ es => es.isEmpty
  | .tables elements => elements.isEmpty
  | .string _ | .integer _ | .float | .boolean _ | .moment => false

/-- A choice by its name: bare, or as the only key of a table with what it takes. -/
def choice? {α : Type} (bare : String → Option α) (taking : String → Node → Option α) :
    Node → Option α
  | .string name => bare name
  | .table _ [(name, node)] =>
    match bare name with
    | some a => if nothing? node then some a else none
    | none => taking name node
  | _ => none

def logFormat? : Node → Option LogFormat :=
  choice? (fun
    | "compact" => some .compact
    | "pretty" => some .pretty
    | "json" => some .json
    | _ => none) (fun _ _ => none)

def timestampFormat? : Node → Option TimestampFormat :=
  choice? (fun
    | "rfc3339" => some .rfc3339
    | "unix" => some .unix
    | _ => none) (fun name node =>
      if name = "custom" then (text? node).map .custom else none)

/-! ## The sections -/

def console? (node : Node) : Option ConsoleConfig := do
  let r ← record? node
  let d : ConsoleConfig := {}
  let enabled ← r.read 0 "enabled" truth? d.enabled
  let format ← r.read 1 "format" logFormat? d.format
  let showTarget ← r.read 2 "show_target" truth? d.showTarget
  let showThreadIds ← r.read 3 "show_thread_ids" truth? d.showThreadIds
  let showThreadNames ← r.read 4 "show_thread_names" truth? d.showThreadNames
  let showSpans ← r.read 5 "show_spans" truth? d.showSpans
  let ansiColors ← r.read 6 "ansi_colors" truth? d.ansiColors
  return { enabled, format, showTarget, showThreadIds, showThreadNames, showSpans, ansiColors }

def journald? (node : Node) : Option JournaldConfig := do
  let r ← record? node
  let d : JournaldConfig := {}
  let enabled ← r.read 0 "enabled" truth? d.enabled
  let identifier ← r.read 1 "identifier" text? d.identifier
  return { enabled, identifier }

def logger? (node : Node) : Option LoggerConfig := do
  let r ← record? node
  let d : LoggerConfig := {}
  let level ← r.read 0 "level" text? d.level
  let timestampFormat ← r.read 1 "timestamp_format" timestampFormat? d.timestampFormat
  let console ← r.read 2 "console" (fun n => (console? n).map some) d.console
  let journald ← r.read 3 "journald" (fun n => (journald? n).map some) d.journald
  return { level, timestampFormat, console, journald }

def pipeline? (node : Node) : Option PipelineConfig := do
  let r ← record? node
  let d : PipelineConfig := {}
  let threadNamePrefix ← r.read 0 "thread_name_prefix" text? d.threadNamePrefix
  let stageName ← r.read 1 "stage_name" text? d.stageName
  let unhandledHistory ←
    r.read 2 "unhandled_history" (natural? largest) d.unhandledHistory
  return { threadNamePrefix, stageName, unhandledHistory }

def transport? (node : Node) : Option TransportConfig := do
  let r ← record? node
  let d : TransportConfig := {}
  let port ← r.read 0 "port" uint16? d.port
  let keepAlive ← r.read 1 "keep_alive" uint64? d.keepAlive
  let cleanSession ← r.read 2 "clean_session" truth? d.cleanSession
  let maxInflight ← r.read 3 "max_inflight" uint16? d.maxInflight
  let maxPacketSize ← r.read 4 "max_packet_size" (fun n => (uint16? n).map some) d.maxPacketSize
  let requestChannelCapacity ←
    r.read 5 "request_channel_capacity" (fun n => (uint8? n).map some) d.requestChannelCapacity
  let qos ← r.read 6 "qos" uint8? d.qos
  let tls ← r.read 7 "tls" truth? d.tls
  let caCertPath ← r.read 8 "ca_cert_path" (fun n => (text? n).map some) d.caCertPath
  return {
    port, keepAlive, cleanSession, maxInflight, maxPacketSize, requestChannelCapacity, qos, tls,
    caCertPath }

/-- **The settings of a document.** -/
def ofDocument? (es : Entries) : Option Config := do
  let r := Record.named es
  let d : Config := {}
  let logger ← r.read 0 "logger" logger? d.logger
  let pipeline ← r.read 1 "pipeline" pipeline? d.pipeline
  let transport ← r.read 2 "transport" transport? d.transport
  return { logger, pipeline, transport }

end Config

end DeviceLink
