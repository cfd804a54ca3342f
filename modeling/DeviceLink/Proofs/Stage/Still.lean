import DeviceLink.Stage.Turn
import Mathlib.Tactic.Common

/-!
# A stage that nobody comes back into

The chain of a link only queues and publishes, so nothing comes into the stage while it waits for
its surroundings.  Whatever the state was when something was handed over, it still is when the
surroundings return.

* `Stage.Still` — what the state is like while the stage waits for something.
* `Turn.Still` — a stretch of work leaves a state like that.
* **`still_run`**, **`still_report`**, **`still_proceed`**, **`still_created`**,
  **`still_answered`** — every stretch of work does, if nothing is ever given up.
-/

namespace DeviceLink

variable {κ : Type}

/-- What the state is like while the stage waits: both slots are empty while what was in them is
superseded, there is no session while one is made, and a call goes to the session that there is. -/
def Stage.Still (s : Stage κ) : Ask κ × Frame κ → Prop
  | (.chain _, .last) | (.chain _, .announced) | (.chain _, .retired _) => True
  | (.chain _, .superseding _ _ _) => s.activeConnect = none ∧ s.activeDisconnect = none
  | (.create _, .creating _ _) => s.session = none
  | (.call session _, .starting slot) => s.session = some session ∧ (s.slot slot).isSome
  | (.call session _, .requesting _) => s.session = some session
  | _ => False

/-- A stretch of work leaves the state as it has to be while the stage waits. -/
def Turn.Still (t : Turn κ) : Prop := ∀ a frame, t.next = .ask a frame → t.stage.Still (a, frame)

namespace Turn

variable {t : Turn κ}

lemma still_of_next_done (h : t.next = .done) : t.Still := by
  intro a frame hn
  rw [h] at hn
  cases hn

lemma still_of_next_ask {a : Ask κ} {frame : Frame κ} (hn : t.next = .ask a frame)
    (h : t.stage.Still (a, frame)) : t.Still := by
  intro b other hb
  rw [hn] at hb
  cases hb
  exact h

lemma Still.logging (h : t.Still) (line : LogLine) : (t.logging line).Still := h

end Turn

namespace Stage

open Turn

variable {s : Stage κ} {op : Operation κ}

lemma still_inside {t : Turn κ} (h : t.Still) : (s.inside t).Still := by
  rw [inside]
  split
  · intro a frame hn
    cases hn
  · exact h

lemma still_complete : (s.complete op).Still := still_of_next_ask rfl trivial

lemma still_refuse (f : Failure) : (s.refuse op f).Still := still_of_next_ask rfl trivial

/-! ## An operation arrives -/

lemma still_setConnectionArgs (args : ConnectionArgs) : (s.setConnectionArgs op args).Still := by
  rw [setConnectionArgs]
  refine (still_inside ?_).logging _
  cases hs : s.session with
  | some session => exact still_complete
  | none => exact still_of_next_ask rfl hs

lemma still_startConnection (aim : Aim) : (s.startConnection aim op).Still := by
  rw [startConnection]
  refine still_inside ?_
  cases hs : s.session with
  | none => exact still_refuse _
  | some session =>
      refine still_of_next_ask rfl ⟨?_, ?_⟩
      · cases aim <;> exact hs
      · cases aim <;> rfl

/-- Superseding goes on with both slots empty. -/
lemma still_supersede (hc : s.activeConnect = none) (hd : s.activeDisconnect = none) (aim : Aim)
    (left : List (Operation κ)) : (s.supersede aim op left).Still := by
  cases left with
  | nil => exact still_startConnection aim
  | cons old left => exact still_of_next_ask rfl ⟨hc, hd⟩

lemma still_runConnection (aim : Aim) : (s.runConnection aim op).Still := by
  rw [runConnection]
  exact (still_inside (still_supersede rfl rfl aim _)).logging _

lemma still_runRequest (c : SessionCall) (text : String) : (s.runRequest op c text).Still := by
  rw [runRequest]
  refine (still_inside ?_).logging _
  cases hs : s.session with
  | none => exact still_refuse _
  | some session => exact still_of_next_ask rfl hs

/-- **An operation arrives.** -/
theorem still_run (o : Origin) : (s.run o op).Still := by
  rw [run]
  cases o.check .pipeline with
  | error text =>
      intro a frame hn
      cases hn
  | ok u =>
      cases op.request with
      | setConnectionArgs args => exact still_setConnectionArgs args
      | setCredential credential => exact (still_inside still_complete).logging _
      | connect => exact still_runConnection .connect
      | reconnect => exact still_runConnection .reconnect
      | disconnect => exact still_runConnection .disconnect
      | publish _ _ | subscribe _ | unsubscribe _ => exact still_runRequest _ _
      | enableFeature _ | disableFeature _ => exact still_of_next_ask rfl trivial

/-! ## The session reports -/

lemma still_connectionFailed (cause : Failure) : (s.connectionFailed cause).Still := by
  rw [connectionFailed]
  refine (still_inside ?_).logging _
  cases s.activeConnect with
  | none => exact still_of_next_done rfl
  | some op => exact still_complete.logging _

lemma still_announced : s.announced.Still := by
  rw [announced]
  refine still_inside ?_
  cases s.activeConnect with
  | none => exact still_of_next_done rfl
  | some op => exact still_complete.logging _

lemma still_retired (cause : Option Failure) : (s.retired cause).Still := by
  rw [retired]
  refine still_inside ?_
  cases s.activeDisconnect with
  | none => exact still_of_next_done rfl
  | some op => exact still_complete.logging _

lemma still_acknowledged (id : Nat) (outcome : Outcome) : (s.acknowledged id outcome).Still := by
  rw [acknowledged]
  refine still_inside ?_
  cases s.awaiting? id with
  | none => exact still_of_next_done rfl
  | some op => cases outcome <;> exact still_complete.logging _

/-- **The session reports.** -/
theorem still_report (r : Report) : (s.report r).Still := by
  cases r with
  | connected | disconnected _ | message _ _ => exact still_of_next_ask rfl trivial
  | connectionFailed cause => exact still_connectionFailed cause
  | acknowledged id outcome => exact still_acknowledged id outcome

/-! ## The surroundings return -/

/-- **The chain returns** to a stage as it was. -/
theorem still_proceed {a : Ask κ} {frame : Frame κ} {t : Turn κ} (h : s.Still (a, frame))
    (ht : s.proceed frame = some t) : t.Still := by
  cases frame with
  | last =>
      cases ht
      exact still_of_next_done rfl
  | superseding left aim op =>
      cases ht
      cases a with
      | chain c => exact still_supersede h.1 h.2 aim left
      | create _ | call _ _ | release _ => exact h.elim
  | announced =>
      cases ht
      exact still_announced
  | retired cause =>
      cases ht
      exact still_retired cause
  | replacing op | abandoning left session => cases a <;> exact h.elim
  | creating _ _ | starting _ | requesting _ => cases ht

/-- **A session was made**, or was not, where there was none. -/
theorem still_created {a : Ask κ} {frame : Frame κ} {result : Except Failure SessionId}
    {t : Turn κ} (h : s.Still (a, frame)) (ht : s.created result frame = some t) : t.Still := by
  cases frame with
  | creating op args =>
      have hs : s.session = none := by cases a <;> first | exact h | exact h.elim
      cases result with
      | error f =>
          cases ht
          exact still_complete.logging _
      | ok session =>
          cases ht
          refine (still_inside ?_).logging _
          rw [hs]
          exact still_complete
  | last | superseding _ _ _ | replacing _ | starting _ | requesting _ | announced | retired _
  | abandoning _ _ => cases ht

/-- **The session has answered.** -/
theorem still_answered {frame : Frame κ} {outcome : Outcome} {t : Turn κ}
    (ht : s.answered outcome frame = some t) : t.Still := by
  cases frame with
  | starting slot =>
      simp only [answered] at ht
      split at ht <;> cases ht
      · exact still_refuse _
      all_goals exact still_of_next_done rfl
  | requesting id =>
      simp only [answered] at ht
      split at ht <;> cases ht
      · exact still_refuse _
      all_goals exact still_of_next_done rfl
  | last | superseding _ _ _ | creating _ _ | replacing _ | announced | retired _
  | abandoning _ _ => cases ht

end Stage

end DeviceLink
