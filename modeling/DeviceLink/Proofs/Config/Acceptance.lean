import DeviceLink.Proofs.Config.Reading
import Mathlib.Data.List.Forall2

/-!
# Which documents are accepted

A configuration is accepted if it keeps every rule, and the rules are checked on what a document
describes, defaults included.  So a document is accepted just if it describes a configuration that
keeps the rules; and whoever is refused is told whether the document or the rules are to blame.

* `SameLetter`, `isLevel_iff` — words that differ in capitals only.
* `LoggerConfig.Valid` and the like, **`Config.Valid`** — the rules, one by one.
* **`Config.problems_eq_nil_iff`** — no problem is found just if all rules are kept.
* **`ofToml_accepts_iff_valid`** — what is accepted, and why not.
* `valid_default`, `ofToml_empty` — the defaults keep the rules, and stand where nothing is said.
-/

namespace DeviceLink

namespace Config

/-! ## Capitals -/

/-- Two characters are the same, or one letter of the alphabet with and without a capital. -/
def SameLetter (c d : Char) : Prop :=
  c = d ∨ c.isUpper = true ∧ d.toNat = c.toNat + 32 ∨ d.isUpper = true ∧ c.toNat = d.toNat + 32

/-- The capitals are where they are in the table of characters. -/
lemma isUpper_iff {c : Char} : c.isUpper = true ↔ 65 ≤ c.toNat ∧ c.toNat ≤ 90 :=
  decide_eq_true_iff.trans Iff.rfl

/-- A capital is 32 places ahead of its letter. -/
lemma toNat_toLower {c : Char} (hc : c.isUpper = true) : c.toLower.toNat = c.toNat + 32 := by
  have hbound : c.val.toNat ≤ 90 := (isUpper_iff.mp hc).2
  have hlower : c.toLower.val = c.val + ('a'.val - 'A'.val) :=
    congrArg Char.val (dif_pos (of_decide_eq_true hc))
  have hadd : (c.val + ('a'.val - 'A'.val)).toNat = (c.val.toNat + 32) % 2 ^ 32 :=
    UInt32.toNat_add _ _
  refine (congrArg UInt32.toNat hlower).trans (hadd.trans (Nat.mod_eq_of_lt ?_))
  omega

/-- Whatever is no capital stays. -/
lemma toLower_eq_self {c : Char} (hc : c.isUpper = false) : c.toLower = c :=
  dif_neg (of_decide_eq_false hc)

lemma toLower_eq_iff {c d : Char} (hd : d.isUpper = false) : c.toLower = d ↔ SameLetter c d := by
  rw [SameLetter, hd]
  by_cases hc : c.isUpper = true
  · have hne : c ≠ d := fun he => by rw [he, hd] at hc; cases hc
    have hplace := toNat_toLower hc
    simp only [hne, hc, true_and, false_or, Bool.false_eq_true, false_and, or_false]
    exact ⟨fun he => he ▸ hplace, fun he => Char.toNat_inj.mp (hplace.trans he.symm)⟩
  · rw [Bool.not_eq_true] at hc
    simp [toLower_eq_self hc, hc]

/-- Two words differ in capitals only. -/
def SameWord (s t : String) : Prop := List.Forall₂ SameLetter s.toList t.toList

lemma map_toLower_eq_iff {cs ds : List Char} (hds : ∀ d ∈ ds, d.isUpper = false) :
    ds = cs.map Char.toLower ↔ List.Forall₂ SameLetter cs ds := by
  induction cs generalizing ds with
  | nil =>
      cases ds with
      | nil => exact ⟨fun _ => .nil, fun _ => rfl⟩
      | cons _ _ => exact ⟨by rintro ⟨⟩, by rintro ⟨⟩⟩
  | cons c cs ih =>
      cases ds with
      | nil => exact ⟨by rintro ⟨⟩, by rintro ⟨⟩⟩
      | cons d ds =>
          rw [List.forall_mem_cons] at hds
          rw [List.map_cons, List.cons_eq_cons, List.forall₂_cons, ih hds.2, eq_comm,
            toLower_eq_iff hds.1]

/-- No level is written with capitals. -/
lemma isUpper_of_mem_level : ∀ level ∈ levels, ∀ d ∈ level.toList, d.isUpper = false := by
  simp [levels]

lemma isLevel_iff (text : String) :
    isLevel text = true ↔
      ∃ level ∈ ["trace", "debug", "info", "warn", "error"], SameWord text level := by
  rw [isLevel, List.any_eq_true]
  refine exists_congr fun level => and_congr_right fun hlevel => ?_
  rw [decide_eq_true_eq, map_toLower_eq_iff (isUpper_of_mem_level level hlevel), SameWord]

/-! ## The rules -/

/-- A path that names a regular file, which can be read. -/
def Readable (files : Files) (path : String) : Prop :=
  path ≠ "" ∧ ∃ content, files path = .present true (.ok content)

end Config

open Config

/-- The journal's identifier counts even if nothing goes to the journal. -/
structure LoggerConfig.Valid (c : LoggerConfig) : Prop where
  level : ∃ level ∈ ["trace", "debug", "info", "warn", "error"], SameWord c.level level
  timestampFormat : ∀ description, c.timestampFormat = .custom description →
    description ≠ "" ∧ TimeLayout.valid description = true
  journald : ∀ journald, c.journald = some journald → journald.identifier ≠ ""

/-- Lengths are counted in characters. -/
structure PipelineConfig.Valid (c : PipelineConfig) : Prop where
  threadNamePrefix : 1 ≤ c.threadNamePrefix.length ∧ c.threadNamePrefix.length ≤ 8
  stageName : c.stageName ≠ ""
  unhandledHistory : 1 ≤ c.unhandledHistory ∧ c.unhandledHistory ≤ 1024

structure TransportConfig.Valid (files : Files) (c : TransportConfig) : Prop where
  port : 1 ≤ c.port.toNat
  keepAlive : 5 ≤ c.keepAlive.toNat ∧ c.keepAlive.toNat ≤ 3600
  maxInflight : 1 ≤ c.maxInflight.toNat ∧ c.maxInflight.toNat ≤ 1000
  maxPacketSize : ∀ n, c.maxPacketSize = some n → 64 ≤ n.toNat
  requestChannelCapacity : ∀ n, c.requestChannelCapacity = some n → 1 ≤ n.toNat ∧ n.toNat ≤ 255
  qos : c.qos.toNat ≤ 2
  caCertPath : ∀ path, c.caCertPath = some path → Readable files path

/-- **The rules of all sections.** -/
structure Config.Valid (files : Files) (c : Config) : Prop where
  logger : c.logger.Valid
  pipeline : c.pipeline.Valid
  transport : c.transport.Valid files

/-! ## Checks -/

namespace Config

lemma checkLength_eq_nil_iff {setting message text : String} {min : Nat} {max : Option Nat} :
    checkLength setting min max message text = [] ↔
      min ≤ text.length ∧ ∀ bound ∈ max, text.length ≤ bound := by
  rw [checkLength]
  cases max <;> simp

/-- Whoever has a character is not empty. -/
lemma one_le_length_iff {text : String} : 1 ≤ text.length ↔ text ≠ "" := by
  rw [Nat.one_le_iff_ne_zero, Ne, String.length_eq_zero_iff]

lemma checkRange_eq_nil_iff {setting : String} {min max : Option Nat} {message : Option String}
    {n : Nat} :
    checkRange setting min max message n = [] ↔
      (∀ bound ∈ min, bound ≤ n) ∧ ∀ bound ∈ max, n ≤ bound := by
  rw [checkRange]
  cases min <;> cases max <;> simp

lemma checkLevel_eq_nil_iff {text : String} : checkLevel text = [] ↔ isLevel text = true := by
  rw [checkLevel]
  cases isLevel text <;> simp

lemma checkLayout_eq_nil_iff {format : TimestampFormat} :
    checkLayout format = [] ↔ ∀ description, format = .custom description →
      description ≠ "" ∧ TimeLayout.valid description = true := by
  cases format with
  | rfc3339 | unix => exact ⟨fun _ _ => by rintro ⟨⟩, fun _ => rfl⟩
  | custom description =>
      have hfault : layoutFault? description = none ↔
          description ≠ "" ∧ TimeLayout.valid description = true := by
        rw [layoutFault?]
        by_cases hempty : description = ""
        · simp [hempty]
        · cases TimeLayout.valid description <;> simp [hempty]
      have hcheck : checkLayout (.custom description) = [] ↔ layoutFault? description = none := by
        rw [checkLayout]
        cases layoutFault? description <;> simp
      rw [hcheck, hfault]
      exact ⟨fun h _ he => by cases he; exact h, fun h => h _ rfl⟩

lemma checkFile_eq_nil_iff {files : Files} {setting path : String} :
    checkFile files setting path = [] ↔ Readable files path := by
  rw [checkFile, FileFault.find?, readFile, Readable]
  by_cases hempty : path = ""
  · simp [hempty]
  · rw [if_neg hempty]
    rcases files path with _ | reason | ⟨regular, content⟩
    · simp
    · simp
    · cases regular <;> cases content <;> simp [hempty]

lemma within_eq_nil_iff {name : String} {problems : List Problem} :
    within name problems = [] ↔ problems = [] := List.map_eq_nil_iff

/-- A check of what may be left out. -/
lemma flatMap_toList_eq_nil_iff {α : Type} {o : Option α} {check : α → List Problem} :
    o.toList.flatMap check = [] ↔ ∀ a, o = some a → check a = [] := by
  cases o <;> simp

end Config

lemma LoggerConfig.problems_eq_nil_iff (c : LoggerConfig) : c.problems = [] ↔ c.Valid := by
  rw [problems, List.append_eq_nil_iff, List.append_eq_nil_iff, checkLevel_eq_nil_iff, isLevel_iff,
    checkLayout_eq_nil_iff, within_eq_nil_iff, flatMap_toList_eq_nil_iff]
  simp only [JournaldConfig.problems, checkLength_eq_nil_iff, one_le_length_iff]
  exact ⟨fun h => ⟨h.1.1, h.1.2, fun j hj => (h.2 j hj).1⟩,
    fun h => ⟨⟨h.level, h.timestampFormat⟩, fun j hj => ⟨h.journald j hj, by simp⟩⟩⟩

lemma PipelineConfig.problems_eq_nil_iff (c : PipelineConfig) : c.problems = [] ↔ c.Valid := by
  simp only [problems, List.append_eq_nil_iff, checkLength_eq_nil_iff, checkRange_eq_nil_iff,
    Option.mem_def, Option.some.injEq, forall_eq', reduceCtorEq, false_implies,
    implies_true, and_true]
  exact ⟨fun h => ⟨h.1.1, one_le_length_iff.mp h.1.2, h.2⟩,
    fun h => ⟨⟨h.threadNamePrefix, one_le_length_iff.mpr h.stageName⟩, h.unhandledHistory⟩⟩

lemma TransportConfig.problems_eq_nil_iff (files : Files) (c : TransportConfig) :
    c.problems files = [] ↔ c.Valid files := by
  simp only [problems, List.append_eq_nil_iff, checkRange_eq_nil_iff, flatMap_toList_eq_nil_iff,
    checkFile_eq_nil_iff, Option.mem_def, Option.some.injEq, forall_eq', reduceCtorEq,
    false_implies, implies_true, and_true, true_and]
  exact ⟨fun h => ⟨h.1.1.1.1.1.1, h.1.1.1.1.1.2, h.1.1.1.1.2, h.1.1.1.2, h.1.1.2, h.1.2, h.2⟩,
    fun h => ⟨⟨⟨⟨⟨⟨h.port, h.keepAlive⟩, h.maxInflight⟩, h.maxPacketSize⟩,
      h.requestChannelCapacity⟩, h.qos⟩, h.caCertPath⟩⟩

/-- **No problem is found** just if all rules are kept. -/
theorem Config.problems_eq_nil_iff (files : Files) (c : Config) :
    c.problems files = [] ↔ c.Valid files := by
  rw [problems, List.append_eq_nil_iff, List.append_eq_nil_iff, within_eq_nil_iff,
    within_eq_nil_iff, within_eq_nil_iff, LoggerConfig.problems_eq_nil_iff,
    PipelineConfig.problems_eq_nil_iff, TransportConfig.problems_eq_nil_iff]
  exact ⟨fun h => ⟨h.1.1, h.1.2, h.2⟩, fun h => ⟨⟨h.logger, h.pipeline⟩, h.transport⟩⟩

/-! ## Acceptance -/

namespace Config

/-- A text is the text of a document, and the document describes a configuration. -/
def Describes (text : String) (c : Config) : Prop :=
  ∃ es, Toml.parse? text = some es ∧ c.Described es

lemma bind_ofDocument?_eq_some_iff {text : String} {c : Config} :
    (Toml.parse? text).bind ofDocument? = some c ↔ Describes text c := by
  rw [Option.bind_eq_some_iff]
  exact exists_congr fun es => and_congr_right fun _ => ofDocument?_eq_some_iff

/-- A text describes one configuration at most. -/
lemma describes_unique {text : String} {c d : Config} (hc : Describes text c)
    (hd : Describes text d) : c = d :=
  Option.some.inj ((bind_ofDocument?_eq_some_iff.mpr hc).symm.trans
    (bind_ofDocument?_eq_some_iff.mpr hd))

lemma ofToml_of_not_describes (files : Files) {text : String} (h : ∀ c, ¬ Describes text c) :
    ofToml files text = .error .malformed := by
  rw [ofToml]
  cases hread : (Toml.parse? text).bind ofDocument? with
  | none => rfl
  | some c => exact (h c (bind_ofDocument?_eq_some_iff.mp hread)).elim

lemma ofToml_of_valid {files : Files} {text : String} {c : Config} (h : Describes text c)
    (hvalid : c.Valid files) : ofToml files text = .ok c := by
  have hproblems := (c.problems_eq_nil_iff files).mpr hvalid
  simp only [ofToml, bind_ofDocument?_eq_some_iff.mpr h, hproblems]

lemma ofToml_of_not_valid {files : Files} {text : String} {c : Config} (h : Describes text c)
    (hbroken : ¬ c.Valid files) : ofToml files text = .error (.invalid (c.problems files)) := by
  cases hproblems : c.problems files with
  | nil => exact (hbroken ((c.problems_eq_nil_iff files).mp hproblems)).elim
  | cons problem more => simp only [ofToml, bind_ofDocument?_eq_some_iff.mpr h, hproblems]

/-- **What is accepted, and why not.**  A text is accepted just if it describes a configuration that
keeps all rules, and then that is the result.  Otherwise either the text describes none, or it
describes one that breaks rules. -/
theorem ofToml_accepts_iff_valid (files : Files) (text : String) :
    (∀ c, ofToml files text = .ok c ↔ Describes text c ∧ c.Valid files) ∧
      ∀ fault, ofToml files text = .error fault →
        (fault.name = "ParseError" ∧ ∀ c, ¬ Describes text c) ∨
          fault.name = "ValidationError" ∧ ∃ c, Describes text c ∧ ¬ c.Valid files := by
  by_cases hsome : ∃ d, Describes text d
  · obtain ⟨d, hd⟩ := hsome
    by_cases hvalid : d.Valid files
    · rw [ofToml_of_valid hd hvalid]
      refine ⟨fun c => ⟨?_, fun h => ?_⟩, by rintro _ ⟨⟩⟩
      · rintro ⟨⟩
        exact ⟨hd, hvalid⟩
      · rw [describes_unique hd h.1]
    · rw [ofToml_of_not_valid hd hvalid]
      refine ⟨fun c => ⟨by rintro ⟨⟩, fun h => ?_⟩, ?_⟩
      · exact (hvalid (describes_unique hd h.1 ▸ h.2)).elim
      · rintro fault ⟨⟩
        exact .inr ⟨rfl, d, hd, hvalid⟩
  · have hnone : ∀ c, ¬ Describes text c := fun c h => hsome ⟨c, h⟩
    rw [ofToml_of_not_describes files hnone]
    refine ⟨fun c => ⟨by rintro ⟨⟩, fun h => (hnone c h.1).elim⟩, ?_⟩
    rintro fault ⟨⟩
    exact .inl ⟨rfl, hnone⟩

/-! ## Silence -/

/-- A table without settings says nothing for any. -/
lemma not_says_nil (place : Nat) (name : String) (node : Toml.Node) :
    ¬ Says (.named []) place name node := by
  rintro ⟨⟨⟩⟩

/-- The default of a setting stands in a table without settings. -/
lemma given_nil {α : Type} (place : Nat) (name : String) (R : Toml.Node → α → Prop) (default : α) :
    Given (.named []) place name R default default := .absent (not_says_nil place name)

/-- A document that says nothing describes the defaults. -/
lemma described_nil : ({} : Config).Described [] :=
  ⟨given_nil .., given_nil .., given_nil ..⟩

/-- **The defaults of a section** are what it describes when nothing is said in it. -/
theorem sections_described_nil :
    ({} : ConsoleConfig).Described (.named []) ∧ ({} : JournaldConfig).Described (.named []) ∧
      ({} : LoggerConfig).Described (.named []) ∧ ({} : PipelineConfig).Described (.named []) ∧
      ({} : TransportConfig).Described (.named []) := by
  refine ⟨⟨?_, ?_, ?_, ?_, ?_, ?_, ?_⟩, ⟨?_, ?_⟩, ⟨?_, ?_, ?_, ?_⟩, ⟨?_, ?_, ?_⟩,
    ⟨?_, ?_, ?_, ?_, ?_, ?_, ?_, ?_, ?_⟩⟩ <;> exact given_nil ..

/-- **The defaults keep all rules**, whatever files there are. -/
theorem valid_default (files : Files) : ({} : Config).Valid files where
  logger :=
    { level := ⟨"info", by simp, List.forall₂_same.mpr fun _ _ => .inl rfl⟩
      timestampFormat := by rintro _ ⟨⟩
      journald := by rintro _ ⟨⟩ }
  pipeline :=
    { threadNamePrefix := by decide
      stageName := by decide
      unhandledHistory := by decide }
  transport :=
    { port := by decide
      keepAlive := by decide
      maxInflight := by decide
      maxPacketSize := by rintro _ ⟨⟩; decide
      requestChannelCapacity := by rintro _ ⟨⟩; decide
      qos := by decide
      caCertPath := by rintro _ ⟨⟩ }

/-- **An empty text** is accepted, and the defaults stand. -/
theorem ofToml_empty (files : Files) : ofToml files "" = .ok {} :=
  ofToml_of_valid ⟨[], rfl, described_nil⟩ (valid_default files)

end Config

end DeviceLink
