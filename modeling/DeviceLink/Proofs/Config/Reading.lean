import DeviceLink.Config.Load
import Mathlib.Data.List.Basic

/-!
# What a document says

What it means that a document describes a configuration, setting by setting: a setting that is
there has a value of its type, and a setting that is not there has its default.  Reading a document
finds the configuration that it describes, if there is one.

* `IsText`, `IsTruth`, `IsNatural`, `IsNamed` — the values of each type.
* `Says`, `Given` — what a section says for a setting, and a setting that may be absent.
* `ConsoleConfig.Described` and the like, **`Config.Described`** — what the sections and the whole
  document describe.
* `Reads` — a reader finds just what is described; `reads_given`, `reads_section` build one reader
  from others.
* **`ofDocument?_eq_some_iff`** — the settings of a document are those that it describes.
-/

namespace DeviceLink

open Toml (Node Entries)

namespace Config

/-! ## Values -/

inductive IsText : Node → String → Prop where
  | string (s : String) : IsText (.string s) s

inductive IsTruth : Node → Bool → Prop where
  | boolean (b : Bool) : IsTruth (.boolean b) b

/-- A number from zero up to a bound. -/
inductive IsNatural (max : Nat) : Node → Nat → Prop where
  | integer {n : Nat} (h : n ≤ max) : IsNatural max (.integer n) n

/-- Nothing is said: an empty array, or an empty table. -/
inductive IsNothing : Node → Prop where
  | array : IsNothing (.array [])
  | table (kind : Toml.TableKind) : IsNothing (.table kind [])
  | tables : IsNothing (.tables [])

/-- The name of a choice, by itself or as the only key of a table, with nothing more to say. -/
inductive IsNamed (name : String) : Node → Prop where
  | bare : IsNamed name (.string name)
  | key (kind : Toml.TableKind) {node : Node} (h : IsNothing node) :
      IsNamed name (.table kind [(name, node)])

inductive IsLogFormat : Node → LogFormat → Prop where
  | compact {node : Node} (h : IsNamed "compact" node) : IsLogFormat node .compact
  | pretty {node : Node} (h : IsNamed "pretty" node) : IsLogFormat node .pretty
  | json {node : Node} (h : IsNamed "json" node) : IsLogFormat node .json

inductive IsTimestampFormat : Node → TimestampFormat → Prop where
  | rfc3339 {node : Node} (h : IsNamed "rfc3339" node) : IsTimestampFormat node .rfc3339
  | unix {node : Node} (h : IsNamed "unix" node) : IsTimestampFormat node .unix
  | custom (kind : Toml.TableKind) (description : String) :
      IsTimestampFormat (.table kind [("custom", .string description)]) (.custom description)

/-- A value that may be left out is there. -/
def Something {α : Type} (R : Node → α → Prop) (node : Node) (o : Option α) : Prop :=
  ∃ a, o = some a ∧ R node a

/-! ## Settings and sections -/

/-- **What a section says for a setting**: in a table, what stands under its name; in a list, what
stands at its place. -/
inductive Says : Record → Nat → String → Node → Prop where
  | named {es : Entries} {place : Nat} {name : String} {node : Node}
      (h : es.lookup name = some node) : Says (.named es) place name node
  | listed {items : List Node} {place : Nat} {name : String} {node : Node}
      (h : items[place]? = some node) : Says (.listed items) place name node

/-- **A setting**: it has a value of its type, or it is absent and has its default. -/
inductive Given {α : Type} (r : Record) (place : Nat) (name : String) (R : Node → α → Prop)
    (default : α) : α → Prop where
  | absent (h : ∀ node, ¬ Says r place name node) : Given r place name R default default
  | present {node : Node} {a : α} (h : Says r place name node) (ha : R node a) :
      Given r place name R default a

/-- What a node says as a section: settings by their names, in a table; or in a list, in their
order.  A moment is a section that names no setting. -/
inductive IsRecord : Node → Record → Prop where
  | table (kind : Toml.TableKind) (es : Entries) : IsRecord (.table kind es) (.named es)
  | moment : IsRecord .moment (.named [])
  | array (items : List Node) : IsRecord (.array items) (.listed items)
  | tables (elements : List Entries) :
      IsRecord (.tables elements) (.listed (elements.map (.table .header)))

/-- A section whose settings are described. -/
def IsSection {α : Type} (D : Record → α → Prop) (node : Node) (a : α) : Prop :=
  ∃ r, IsRecord node r ∧ D r a

end Config

open Config

structure ConsoleConfig.Described (r : Record) (c : ConsoleConfig) : Prop where
  enabled : Given r 0 "enabled" IsTruth true c.enabled
  format : Given r 1 "format" IsLogFormat .compact c.format
  showTarget : Given r 2 "show_target" IsTruth false c.showTarget
  showThreadIds : Given r 3 "show_thread_ids" IsTruth false c.showThreadIds
  showThreadNames : Given r 4 "show_thread_names" IsTruth true c.showThreadNames
  showSpans : Given r 5 "show_spans" IsTruth false c.showSpans
  ansiColors : Given r 6 "ansi_colors" IsTruth true c.ansiColors

structure JournaldConfig.Described (r : Record) (c : JournaldConfig) : Prop where
  enabled : Given r 0 "enabled" IsTruth false c.enabled
  identifier : Given r 1 "identifier" IsText "hubpipe" c.identifier

structure LoggerConfig.Described (r : Record) (c : LoggerConfig) : Prop where
  level : Given r 0 "level" IsText "info" c.level
  timestampFormat : Given r 1 "timestamp_format" IsTimestampFormat .rfc3339 c.timestampFormat
  console :
    Given r 2 "console" (Something (IsSection ConsoleConfig.Described)) (some {}) c.console
  journald : Given r 3 "journald" (Something (IsSection JournaldConfig.Described)) none c.journald

structure PipelineConfig.Described (r : Record) (c : PipelineConfig) : Prop where
  threadNamePrefix : Given r 0 "thread_name_prefix" IsText "hubpipe" c.threadNamePrefix
  stageName : Given r 1 "stage_name" IsText "MQTTClientStage" c.stageName
  unhandledHistory :
    Given r 2 "unhandled_history" (IsNatural (UInt64.size - 1)) 64 c.unhandledHistory

/-- Numbers of 8, 16 and 64 bits. -/
def Config.IsUInt8 (node : Node) (n : UInt8) : Prop := IsNatural (UInt8.size - 1) node n.toNat

def Config.IsUInt16 (node : Node) (n : UInt16) : Prop := IsNatural (UInt16.size - 1) node n.toNat

def Config.IsUInt64 (node : Node) (n : UInt64) : Prop := IsNatural (UInt64.size - 1) node n.toNat

structure TransportConfig.Described (r : Record) (c : TransportConfig) : Prop where
  port : Given r 0 "port" IsUInt16 8883 c.port
  keepAlive : Given r 1 "keep_alive" IsUInt64 60 c.keepAlive
  cleanSession : Given r 2 "clean_session" IsTruth false c.cleanSession
  maxInflight : Given r 3 "max_inflight" IsUInt16 10 c.maxInflight
  maxPacketSize : Given r 4 "max_packet_size" (Something IsUInt16) (some 65535) c.maxPacketSize
  requestChannelCapacity :
    Given r 5 "request_channel_capacity" (Something IsUInt8) (some 10) c.requestChannelCapacity
  qos : Given r 6 "qos" IsUInt8 1 c.qos
  tls : Given r 7 "tls" IsTruth true c.tls
  caCertPath : Given r 8 "ca_cert_path" (Something IsText) none c.caCertPath

/-- **What a document describes:** its settings, and the defaults of all others. -/
structure Config.Described (es : Entries) (c : Config) : Prop where
  logger : Given (.named es) 0 "logger" (IsSection LoggerConfig.Described) {} c.logger
  pipeline : Given (.named es) 1 "pipeline" (IsSection PipelineConfig.Described) {} c.pipeline
  transport : Given (.named es) 2 "transport" (IsSection TransportConfig.Described) {} c.transport

namespace Config

/-! ## Readers -/

/-- **A reader finds just what is described.** -/
def Reads {α : Type} (reader : Node → Option α) (R : Node → α → Prop) : Prop :=
  ∀ node a, reader node = some a ↔ R node a

lemma reads_text? : Reads text? IsText := by
  intro node s
  constructor
  · intro h
    cases node <;> cases h
    exact .string _
  · rintro ⟨s⟩
    rfl

lemma reads_truth? : Reads truth? IsTruth := by
  intro node b
  constructor
  · intro h
    cases node <;> cases h
    exact .boolean _
  · rintro ⟨b⟩
    rfl

lemma reads_natural? (max : Nat) : Reads (natural? max) (IsNatural max) := by
  intro node n
  constructor
  · intro h
    cases node with
    | integer i =>
        rw [natural?, Option.ite_none_right_eq_some] at h
        obtain ⟨⟨hpos, hmax⟩, hn⟩ := h
        obtain ⟨k, rfl⟩ := Int.eq_ofNat_of_zero_le hpos
        cases hn
        exact .integer (Int.ofNat_le.mp hmax)
    | _ => cases h
  · rintro ⟨h⟩
    rw [natural?, if_pos ⟨Int.natCast_nonneg n, Int.ofNat_le.mpr h⟩]
    rfl

/-- A number of a few bits, by its value. -/
lemma reads_bounded {α : Type} {max : Nat} {make : Nat → α} {value : α → Nat}
    (hmake : ∀ n ≤ max, value (make n) = n) (hvalue : ∀ a, make (value a) = a) :
    Reads (fun node => (natural? max node).map make)
      (fun node a => IsNatural max node (value a)) := by
  intro node a
  rw [Option.map_eq_some_iff]
  constructor
  · rintro ⟨n, hn, rfl⟩
    have h := (reads_natural? max node n).mp hn
    rw [hmake n (by cases h; assumption)]
    exact h
  · intro h
    exact ⟨value a, (reads_natural? max node (value a)).mpr h, hvalue a⟩

lemma reads_uint8? : Reads uint8? IsUInt8 :=
  reads_bounded (fun _ h => UInt8.toNat_ofNat_of_lt (Nat.lt_succ_of_le h))
    fun _ => UInt8.ofNat_toNat

lemma reads_uint16? : Reads uint16? IsUInt16 :=
  reads_bounded (fun _ h => UInt16.toNat_ofNat_of_lt (Nat.lt_succ_of_le h))
    fun _ => UInt16.ofNat_toNat

lemma reads_uint64? : Reads uint64? IsUInt64 :=
  reads_bounded (fun _ h => UInt64.toNat_ofNat_of_lt (Nat.lt_succ_of_le h))
    fun _ => UInt64.ofNat_toNat

lemma nothing?_eq_true_iff (node : Node) : nothing? node = true ↔ IsNothing node := by
  constructor
  · intro h
    cases node with
    | array items => cases items <;> first | exact .array | cases h
    | table kind es => cases es <;> first | exact .table kind | cases h
    | tables elements => cases elements <;> first | exact .tables | cases h
    | _ => cases h
  · rintro (_ | _ | _) <;> rfl

/-- A choice is taken by its name alone, or with what it takes. -/
lemma choice?_eq_some_iff {α : Type} {bare : String → Option α}
    {taking : String → Node → Option α} {node : Node} {a : α} :
    choice? bare taking node = some a ↔
      (∃ name, IsNamed name node ∧ bare name = some a) ∨
        ∃ kind name inner, node = .table kind [(name, inner)] ∧ bare name = none ∧
          taking name inner = some a := by
  constructor
  · intro h
    unfold choice? at h
    split at h
    · exact .inl ⟨_, .bare, h⟩
    · next kind name inner =>
        split at h
        · next hbare =>
            split at h
            · next hnothing =>
                have hempty := (nothing?_eq_true_iff inner).mp hnothing
                exact .inl ⟨name, .key kind hempty, hbare.trans h⟩
            · cases h
        · next hbare => exact .inr ⟨kind, name, inner, rfl, hbare, h⟩
    · cases h
  · rintro (⟨name, hnamed, hbare⟩ | ⟨kind, name, inner, rfl, hbare, htaking⟩)
    · cases hnamed with
      | bare => exact hbare
      | key kind hnothing => simp [choice?, hbare, (nothing?_eq_true_iff _).mpr hnothing]
    · simp [choice?, hbare, htaking]

lemma reads_logFormat? : Reads logFormat? IsLogFormat := by
  intro node a
  rw [logFormat?, choice?_eq_some_iff]
  constructor
  · rintro (⟨name, hnamed, hbare⟩ | ⟨_, _, _, _, _, htaking⟩)
    · split at hbare <;> cases hbare
      · exact .compact hnamed
      · exact .pretty hnamed
      · exact .json hnamed
    · cases htaking
  · rintro (h | h | h)
    · exact .inl ⟨_, h, rfl⟩
    · exact .inl ⟨_, h, rfl⟩
    · exact .inl ⟨_, h, rfl⟩

lemma reads_timestampFormat? : Reads timestampFormat? IsTimestampFormat := by
  intro node a
  rw [timestampFormat?, choice?_eq_some_iff]
  constructor
  · rintro (⟨name, hnamed, hbare⟩ | ⟨kind, name, inner, rfl, -, htaking⟩)
    · split at hbare <;> cases hbare
      · exact .rfc3339 hnamed
      · exact .unix hnamed
    · split at htaking
      · next hname =>
          subst hname
          obtain ⟨description, htext, rfl⟩ := Option.map_eq_some_iff.mp htaking
          obtain ⟨⟩ := (reads_text? inner description).mp htext
          exact .custom kind description
      · cases htaking
  · rintro (h | h | ⟨kind, description⟩)
    · exact .inl ⟨_, h, rfl⟩
    · exact .inl ⟨_, h, rfl⟩
    · exact .inr ⟨kind, _, _, rfl, rfl, rfl⟩

/-- A reader of something that may be left out. -/
lemma reads_something {α : Type} {reader : Node → Option α} {R : Node → α → Prop}
    (h : Reads reader R) : Reads (fun node => (reader node).map some) (Something R) := by
  intro node o
  rw [Option.map_eq_some_iff]
  constructor
  · rintro ⟨a, ha, rfl⟩
    exact ⟨a, rfl, (h node a).mp ha⟩
  · rintro ⟨a, rfl, ha⟩
    exact ⟨a, (h node a).mpr ha, rfl⟩

/-- **The look-up finds what the section says**, and nothing else. -/
lemma get?_eq_some_iff {r : Record} {place : Nat} {name : String} {node : Node} :
    r.get? place name = some node ↔ Says r place name node := by
  constructor
  · intro h
    cases r with
    | named es => exact .named h
    | listed items => exact .listed h
  · rintro (h | h)
    · exact h
    · exact h

lemma get?_eq_none_iff {r : Record} {place : Nat} {name : String} :
    r.get? place name = none ↔ ∀ node, ¬ Says r place name node := by
  rw [Option.eq_none_iff_forall_ne_some]
  exact forall_congr' fun node => not_congr get?_eq_some_iff

/-- **A setting is read** as it is given. -/
lemma read_eq_some_iff {α : Type} {reader : Node → Option α} {R : Node → α → Prop}
    (h : Reads reader R) {r : Record} {place : Nat} {name : String} {default a : α} :
    r.read place name reader default = some a ↔ Given r place name R default a := by
  rw [Record.read]
  cases hget : r.get? place name with
  | none =>
      have hnone := get?_eq_none_iff.mp hget
      constructor
      · rintro ⟨⟩
        exact .absent hnone
      · rintro (_ | ⟨hpresent, _⟩)
        · rfl
        · exact (hnone _ hpresent).elim
  | some node =>
      have hsays := get?_eq_some_iff.mp hget
      constructor
      · exact fun ha => .present hsays ((h node a).mp ha)
      · rintro (hnone | ⟨hpresent, ha⟩)
        · exact (hnone node hsays).elim
        · cases hget.symm.trans (get?_eq_some_iff.mpr hpresent)
          exact (h node a).mpr ha

lemma record?_eq_some_iff {node : Node} {r : Record} : record? node = some r ↔ IsRecord node r := by
  constructor
  · intro h
    cases node with
    | table kind es => cases h; exact .table kind es
    | moment => cases h; exact .moment
    | array items => cases h; exact .array items
    | tables elements => cases h; exact .tables elements
    | _ => cases h
  · rintro (_ | _ | _ | _) <;> rfl

/-- **A section is read** as it is described. -/
lemma reads_section {α : Type} {reader : Record → Option α} {D : Record → α → Prop}
    (h : ∀ r a, reader r = some a ↔ D r a) :
    Reads (fun node => (record? node).bind reader) (IsSection D) := by
  intro node a
  rw [Option.bind_eq_some_iff]
  exact exists_congr fun r => and_congr record?_eq_some_iff (h r a)

lemma reads_console? : Reads console? (IsSection ConsoleConfig.Described) := by
  refine reads_section fun r c => ?_
  simp only [Option.bind_eq_bind, Option.bind_eq_some_iff, Option.pure_def, Option.some.injEq,
    read_eq_some_iff reads_truth?, read_eq_some_iff reads_logFormat?]
  constructor
  · rintro ⟨enabled, h0, format, h1, showTarget, h2, showThreadIds, h3, showThreadNames, h4,
      showSpans, h5, ansiColors, h6, rfl⟩
    exact ⟨h0, h1, h2, h3, h4, h5, h6⟩
  · intro h
    exact ⟨_, h.enabled, _, h.format, _, h.showTarget, _, h.showThreadIds, _, h.showThreadNames, _,
      h.showSpans, _, h.ansiColors, rfl⟩

lemma reads_journald? : Reads journald? (IsSection JournaldConfig.Described) := by
  refine reads_section fun r c => ?_
  simp only [Option.bind_eq_bind, Option.bind_eq_some_iff, Option.pure_def, Option.some.injEq,
    read_eq_some_iff reads_truth?, read_eq_some_iff reads_text?]
  constructor
  · rintro ⟨enabled, h0, identifier, h1, rfl⟩
    exact ⟨h0, h1⟩
  · intro h
    exact ⟨_, h.enabled, _, h.identifier, rfl⟩

lemma reads_logger? : Reads logger? (IsSection LoggerConfig.Described) := by
  refine reads_section fun r c => ?_
  simp only [Option.bind_eq_bind, Option.bind_eq_some_iff, Option.pure_def, Option.some.injEq,
    read_eq_some_iff reads_text?, read_eq_some_iff reads_timestampFormat?,
    read_eq_some_iff (reads_something reads_console?),
    read_eq_some_iff (reads_something reads_journald?)]
  constructor
  · rintro ⟨level, h0, timestampFormat, h1, console, h2, journald, h3, rfl⟩
    exact ⟨h0, h1, h2, h3⟩
  · intro h
    exact ⟨_, h.level, _, h.timestampFormat, _, h.console, _, h.journald, rfl⟩

lemma reads_pipeline? : Reads pipeline? (IsSection PipelineConfig.Described) := by
  refine reads_section fun r c => ?_
  simp only [Option.bind_eq_bind, Option.bind_eq_some_iff, Option.pure_def, Option.some.injEq,
    read_eq_some_iff reads_text?, read_eq_some_iff (reads_natural? largest)]
  constructor
  · rintro ⟨threadNamePrefix, h0, stageName, h1, unhandledHistory, h2, rfl⟩
    exact ⟨h0, h1, h2⟩
  · intro h
    exact ⟨_, h.threadNamePrefix, _, h.stageName, _, h.unhandledHistory, rfl⟩

lemma reads_transport? : Reads transport? (IsSection TransportConfig.Described) := by
  refine reads_section fun r c => ?_
  simp only [Option.bind_eq_bind, Option.bind_eq_some_iff, Option.pure_def, Option.some.injEq,
    read_eq_some_iff reads_truth?, read_eq_some_iff reads_uint8?, read_eq_some_iff reads_uint16?,
    read_eq_some_iff reads_uint64?, read_eq_some_iff (reads_something reads_uint8?),
    read_eq_some_iff (reads_something reads_uint16?),
    read_eq_some_iff (reads_something reads_text?)]
  constructor
  · rintro ⟨port, h0, keepAlive, h1, cleanSession, h2, maxInflight, h3, maxPacketSize, h4,
      requestChannelCapacity, h5, qos, h6, tls, h7, caCertPath, h8, rfl⟩
    exact ⟨h0, h1, h2, h3, h4, h5, h6, h7, h8⟩
  · intro h
    exact ⟨_, h.port, _, h.keepAlive, _, h.cleanSession, _, h.maxInflight, _, h.maxPacketSize, _,
      h.requestChannelCapacity, _, h.qos, _, h.tls, _, h.caCertPath, rfl⟩

/-- **The settings of a document** are those that it describes. -/
theorem ofDocument?_eq_some_iff {es : Entries} {c : Config} :
    ofDocument? es = some c ↔ c.Described es := by
  simp only [ofDocument?, Option.bind_eq_bind, Option.bind_eq_some_iff, Option.pure_def,
    Option.some.injEq, read_eq_some_iff reads_logger?, read_eq_some_iff reads_pipeline?,
    read_eq_some_iff reads_transport?]
  constructor
  · rintro ⟨logger, h0, pipeline, h1, transport, h2, rfl⟩
    exact ⟨h0, h1, h2⟩
  · intro h
    exact ⟨_, h.logger, _, h.pipeline, _, h.transport, rfl⟩

end Config

end DeviceLink
