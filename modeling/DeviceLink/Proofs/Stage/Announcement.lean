import DeviceLink.Proofs.Stage.Lone
import DeviceLink.Root

/-!
# What the stage announces

The chain is told that the connection is up, or down, just when the stage takes a report that says
so, and the root publishes what it is told.

* `Report.word?`, `Ask.word?` — what a report, or something handed over, says of the connection.
* `Root.state_handle` — the root publishes what it is told.
* **`Lone.words_step`** — after a move of the worker the stage hands over what the move has brought.
-/

namespace DeviceLink

variable {κ : Type}

/-! ## Words -/

/-- What a report says of the connection.  A failed attempt has never been up and says nothing. -/
def Report.word? : Report → Option ConnectionState
  | connected => some .connected
  | disconnected _ => some .disconnected
  | connectionFailed _ | message _ _ | acknowledged _ _ => none

def ChainCall.word? : ChainCall κ → Option ConnectionState
  | connected => some .connected
  | disconnected => some .disconnected
  | complete _ | pass _ | event _ => none

/-- What is said of the connection by what the stage hands over. -/
def Ask.word? : Ask κ → Option ConnectionState
  | chain c => c.word?
  | create _ | call _ _ | release _ => none

def Move.word? : Move κ → Option ConnectionState
  | deliver r => r.word?
  | enter _ _ | abandon _ | proceed | created _ | answered _ | panic _ => none

/-- The root publishes what it is told, and nothing else changes what is published. -/
lemma Root.state_handle (r : Root) (c : ChainCall κ) :
    (r.handle c).1.state = c.word?.getD r.state := by
  cases c <;> rfl

/-- What a stretch of work says of the connection. -/
def Turn.word? (t : Turn κ) : Option ConnectionState :=
  match t.next with
  | .ask a _ => a.word?
  | .done | .panic _ => none

namespace Stage

variable {s : Stage κ} {op : Operation κ}

lemma word?_inside {t : Turn κ} (h : t.word? = none) : (s.inside t).word? = none := by
  rw [inside]
  split
  · rfl
  · exact h

/-! ## An operation arrives -/

lemma word?_startConnection (aim : Aim) : (s.startConnection aim op).word? = none := by
  rw [startConnection]
  refine word?_inside ?_
  cases s.session <;> rfl

lemma word?_supersede (aim : Aim) (left : List (Operation κ)) :
    (s.supersede aim op left).word? = none := by
  cases left with
  | nil => exact word?_startConnection aim
  | cons old left => rfl

lemma word?_runConnection (aim : Aim) : (s.runConnection aim op).word? = none := by
  rw [runConnection]
  exact word?_inside (word?_supersede aim s.active)

lemma word?_runRequest (c : SessionCall) (text : String) :
    (s.runRequest op c text).word? = none := by
  rw [runRequest]
  refine word?_inside ?_
  cases s.session <;> rfl

lemma word?_run (o : Origin) : (s.run o op).word? = none := by
  rw [run]
  cases o.check .pipeline with
  | error text => rfl
  | ok u =>
      cases op.request with
      | setConnectionArgs args =>
          refine word?_inside ?_
          cases s.session <;> rfl
      | setCredential credential => exact word?_inside rfl
      | connect => exact word?_runConnection .connect
      | reconnect => exact word?_runConnection .reconnect
      | disconnect => exact word?_runConnection .disconnect
      | publish _ _ | subscribe _ | unsubscribe _ => exact word?_runRequest _ _
      | enableFeature _ | disableFeature _ => rfl

/-! ## The session reports -/

lemma word?_report (r : Report) : (s.report r).word? = r.word? := by
  cases r with
  | connected | disconnected _ | message _ _ => rfl
  | connectionFailed cause =>
      refine word?_inside ?_
      cases s.activeConnect <;> rfl
  | acknowledged id outcome =>
      refine word?_inside ?_
      cases s.awaiting? id with
      | none => rfl
      | some held => cases outcome <;> rfl

/-! ## The surroundings return -/

lemma word?_proceed {frame : Frame κ} {t : Turn κ} (ht : s.proceed frame = some t) :
    t.word? = none := by
  cases frame with
  | last | replacing _ =>
      cases ht
      rfl
  | superseding left aim op =>
      cases ht
      exact word?_supersede aim left
  | announced =>
      cases ht
      refine word?_inside ?_
      cases s.activeConnect <;> rfl
  | retired cause =>
      cases ht
      refine word?_inside ?_
      cases s.activeDisconnect <;> rfl
  | abandoning left session =>
      cases ht
      cases left with
      | nil => cases session <;> rfl
      | cons old left => rfl
  | creating _ _ | starting _ | requesting _ => cases ht

lemma word?_created {frame : Frame κ} {result : Except Failure SessionId} {t : Turn κ}
    (ht : s.created result frame = some t) : t.word? = none := by
  cases frame with
  | creating op args =>
      cases result with
      | error f =>
          cases ht
          rfl
      | ok session =>
          cases ht
          refine word?_inside ?_
          cases s.session <;> rfl
  | last | superseding _ _ _ | replacing _ | starting _ | requesting _ | announced | retired _
  | abandoning _ _ => cases ht

lemma word?_answered {frame : Frame κ} {outcome : Outcome} {t : Turn κ}
    (ht : s.answered outcome frame = some t) : t.word? = none := by
  cases frame with
  | starting _ | requesting _ =>
      simp only [answered] at ht
      split at ht <;> cases ht <;> rfl
  | last | superseding _ _ _ | creating _ _ | replacing _ | announced | retired _
  | abandoning _ _ => cases ht

end Stage

namespace Activity

variable {a a' : Activity κ} {m : Move κ} {traces : List (Trace κ)}

/-- **Every stretch of work says what the move has brought**, and nothing else. -/
theorem word?_turn {t : Turn κ} (ht : a.turn? m = some t) (hm : ∀ o, m ≠ .abandon o) :
    t.word? = m.word? := by
  cases m with
  | enter o op =>
      cases ht
      exact Stage.word?_run o
  | deliver report =>
      cases ht
      exact Stage.word?_report report
  | abandon o => exact (hm o rfl).elim
  | panic message => cases ht
  | proceed =>
      obtain ⟨l, -, ht⟩ := Option.bind_eq_some_iff.mp ht
      exact Stage.word?_proceed ht
  | created result =>
      obtain ⟨l, -, ht⟩ := Option.bind_eq_some_iff.mp ht
      exact Stage.word?_created ht
  | answered outcome =>
      obtain ⟨l, -, ht⟩ := Option.bind_eq_some_iff.mp ht
      exact Stage.word?_answered ht

/-- What the stage has said to the chain and the chain has not yet taken. -/
def words (a : Activity κ) : List ConnectionState := a.levels.filterMap (·.1.word?)

lemma words_of_levels {ask : Ask κ} {frame : Frame κ} (h : a.levels = [(ask, frame)]) :
    a.words = ask.word?.toList := by
  rw [words, h, List.filterMap_cons, List.filterMap_nil]
  cases ask.word? <;> rfl

lemma words_of_nil (h : a.levels = []) : a.words = [] := by
  rw [words, h, List.filterMap_nil]

/-- **After a move of the worker** the stage says what the move has brought. -/
theorem Lone.words_step (h : a.Lone) (hm : a.ByWorker m) (hs : a.step m = some (a', traces)) :
    a'.words = m.word?.toList := by
  rcases h.outcome hm hs with ⟨message, session, c, -, rfl, rfl, -⟩ | ⟨t, ht, rfl, -⟩
  · rfl
  · have hword : t.word? = m.word? := by
      refine word?_turn ht ?_
      rintro o rfl
      exact hm
    rw [← hword, settle, Turn.word?]
    cases t.next with
    | done | panic message => rfl
    | ask asked frame => exact words_of_levels rfl

end Activity

end DeviceLink
