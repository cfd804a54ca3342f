import DeviceLink.Failure.Basic
import Mathlib.Tactic.Common

/-!
# What a report tells

A report is written by a walk from cause to cause.  However a failure was made, and however deep its
causes go, the walk meets every one of them, once and in order: the report is the failure's own line
and then one link for each error that is behind it.

* `Cause.texts` — the texts that a cause has to add to a report, read off how it was made.
* `Failure.lineage` — the chain that the walk meets, from the nearest cause on.
* **`Failure.report_eq`** — the walk reports the whole chain.
* `Making` — how a failure is made: what is begun with, another message, another cause.
* **`Making.report_complete`** — what its report says, and what each change makes of it.
-/

namespace DeviceLink

/-! ## Texts -/

/-- What a cause adds to a report: its own text, then those of the causes that it was made with. -/
def Cause.texts : Cause → List String
  | client fault => [fault.message]
  | io text => [text]
  | dispatch (.closed c) => [(DispatchFault.closed c).message]
  | dispatch (.dropped c) => [(DispatchFault.dropped c).message]
  | dispatch (.spawn c reason) => [(DispatchFault.spawn c reason).message, reason]
  | noRuntime => [noRuntime.message]
  | other text _ => [text]
  | otherFrom text _ cause => text :: cause.texts
  | failure kind text => [kind.name ++ ": " ++ text]
  | failureFrom kind text cause => (kind.name ++ ": " ++ text) :: cause.texts

/-- The first text is the cause's own, and the others are those of the next link. -/
lemma Cause.texts_eq (c : Cause) : c.texts = c.message :: c.source.elim [] Cause.texts := by
  match c with
  | client _ | io _ | noRuntime | other _ _ | failure _ _
  | dispatch (.closed _) | dispatch (.dropped _) | dispatch (.spawn _ _)
  | otherFrom _ _ _ | failureFrom _ _ _ => rfl

/-- A failure stands in a chain with its line, before what it was caused by. -/
lemma Cause.texts_toCause (f : Failure) :
    f.toCause.texts = f.display :: f.cause.elim [] Cause.texts := by
  obtain ⟨kind, message, cause⟩ := f
  cases cause <;> rfl

namespace Failure

/-! ## The walk -/

/-- The chain of causes from one on: each is followed by its source. -/
def lineage (next : Option Cause) : List Cause :=
  match next with
  | none => []
  | some c => c :: lineage c.source
termination_by next.elim 0 Cause.depth
decreasing_by
  rw [Option.elim_some, c.depth_source]
  exact Nat.lt_succ_self _

/-- Where the walk goes is what the causes were made with. -/
lemma map_message_lineage (next : Option Cause) :
    (lineage next).map Cause.message = next.elim [] Cause.texts := by
  induction next using lineage.induct with
  | case1 => rw [lineage]; rfl
  | case2 c ih => rw [lineage, List.map_cons, ih, Option.elim_some, c.texts_eq]

/-- The links of a chain in one line: each text in brackets, with a blank in front. -/
def links (texts : List String) : String :=
  String.join (texts.map fun text => " (caused by: " ++ text ++ ")")

/-- The walk adds such a link for a cause. -/
lemma reportLink_eq (c : Cause) : reportLink c = " (caused by: " ++ c.message ++ ")" := rfl

lemma links_cons (text : String) (texts : List String) :
    links (text :: texts) = " (caused by: " ++ text ++ ")" ++ links texts := by
  rw [links, List.map_cons, String.join_cons, links]

lemma reportFrom_eq (text : String) (next : Option Cause) :
    reportFrom text next = text ++ links (next.elim [] Cause.texts) := by
  induction text, next using reportFrom.induct with
  | case1 text => rw [reportFrom]; exact String.append_empty.symm
  | case2 text c ih =>
      rw [reportFrom, ih, Option.elim_some, c.texts_eq, links_cons, reportLink_eq,
        String.append_assoc]

/-- **The walk reports the whole chain.** -/
theorem report_eq (f : Failure) : f.report = f.display ++ links (f.cause.elim [] Cause.texts) :=
  reportFrom_eq f.display f.cause

end Failure

/-! ## Making failures -/

/-- How a failure is made. -/
inductive Making where
  /-- Begun with what there is, made of a code, a fault or a text. -/
  | base (f : Failure)
  | withMessage (m : Making) (text : String)
  /-- Caused by anything, with all that is behind it. -/
  | withCause (m : Making) (cause : Cause)
  /-- Caused by a failure that was made likewise. -/
  | withFailure (m other : Making)

namespace Making

def made : Making → Failure
  | base f => f
  | withMessage m text => m.made.withMessage text
  | withCause m cause => m.made.withCause cause
  | withFailure m other => m.made.withCause other.made.toCause

/-- The kind is that of the beginning. -/
def kind : Making → Failure.Kind
  | base f => f.kind
  | withMessage m _ | withCause m _ | withFailure m _ => m.kind

/-- The message that was given last. -/
def message : Making → String
  | base f => f.message
  | withMessage _ text => text
  | withCause m _ | withFailure m _ => m.message

def headOf (kind : Failure.Kind) (message : String) : String := kind.name ++ ": " ++ message

def head (m : Making) : String := headOf m.kind m.message

/-- The texts of the cause that was given last, and of all that is behind it. -/
def texts : Making → List String
  | base f => f.cause.elim [] Cause.texts
  | withMessage m _ => m.texts
  | withCause _ cause => cause.texts
  | withFailure _ other => other.head :: other.texts

lemma kind_made (m : Making) : m.made.kind = m.kind := by
  induction m with
  | base f => rfl
  | withMessage m text ih => exact ih
  | withCause m cause ih => exact ih
  | withFailure m other ih _ => exact ih

lemma message_made (m : Making) : m.made.message = m.message := by
  induction m with
  | base f => rfl
  | withMessage m text _ => rfl
  | withCause m cause ih => exact ih
  | withFailure m other ih _ => exact ih

lemma display_made (m : Making) : m.made.display = m.head := by
  rw [Failure.display, kind_made, message_made, head, headOf]

lemma texts_made (m : Making) : m.made.cause.elim [] Cause.texts = m.texts := by
  induction m with
  | base f => rfl
  | withMessage m text ih => exact ih
  | withCause m cause _ => rfl
  | withFailure m other _ ih =>
      change other.made.toCause.texts = other.head :: other.texts
      rw [Cause.texts_toCause, ih, display_made]

/-- The report of whatever was made. -/
theorem report_made (m : Making) : m.made.report = m.head ++ Failure.links m.texts := by
  rw [Failure.report_eq, display_made, texts_made]

/-- **A report that is complete**, of a failure made in some way. -/
structure Complete (m : Making) : Prop where
  /-- It is the failure's own line, then a link for each cause. -/
  report : m.made.report = headOf m.kind m.message ++ Failure.links m.texts
  /-- The causes are those that lead from one to the next, none left out and each there once. -/
  chain : m.texts = (Failure.lineage m.made.cause).map Cause.message
  /-- Neither message nor cause has changed the kind. -/
  kind : m.made.kind = m.kind
  /-- Another message changes the failure's own line. -/
  withMessage : ∀ text,
    (m.withMessage text).made.report = headOf m.kind text ++ Failure.links m.texts
  /-- Another cause changes all that follows it. -/
  withCause : ∀ cause,
    (m.withCause cause).made.report = headOf m.kind m.message ++ Failure.links cause.texts
  /-- A failure as the cause adds its own report. -/
  withFailure : ∀ other, (m.withFailure other).made.report
    = headOf m.kind m.message ++ " (caused by: " ++ headOf other.kind other.message ++ ")"
      ++ Failure.links other.texts

/-- **Every report is complete**, however the failure was made. -/
theorem report_complete (m : Making) : m.Complete where
  report := m.report_made
  chain := by rw [Failure.map_message_lineage, texts_made]
  kind := m.kind_made
  withMessage text := (m.withMessage text).report_made
  withCause cause := (m.withCause cause).report_made
  withFailure other := by
    rw [report_made, texts, Failure.links_cons]
    simp only [head, message, kind, String.append_assoc]

/-- A worker that could not be started, told to whoever wanted to connect. -/
example : ((base (.ofDispatch (.spawn .callback "no memory"))).withMessage "not now").made.report
    = "Pipeline: not now (caused by: failed to start the callback worker thread)"
      ++ " (caused by: no memory)" := by
  rw [report_made]
  decide

end Making

end DeviceLink
