import DeviceLink.Proofs.Stage.Lone

/-!
# Who is in the connect slot

An operation gets into the slot of those that make a connection only when the session is called for
it, and a report on a connection attempt completes nobody but who is there.

* `Turn.KeepsSlot` — nobody new is in the slot, unless the session is called.
* **`keepsSlot_turn`**, **`Lone.slot_step`** — that is so of every stretch of work of the worker.
* `OnlyHeld`, **`onlyHeld_connectionFailed`**, **`onlyHeld_announced`** — who is completed by a
  report.
-/

namespace DeviceLink

variable {κ : Type}

/-- Whoever is in the connect slot after a stretch of work was there before it, or the session is
called now. -/
def Turn.KeepsSlot (s : Stage κ) (t : Turn κ) : Prop :=
  ∀ op, t.stage.activeConnect = some op →
    s.activeConnect = some op ∨
      ∃ session c, t.next = .ask (.call session c) (.starting .connect)

namespace Turn

variable {s : Stage κ} {t : Turn κ}

lemma keepsSlot_of_eq (h : t.stage.activeConnect = s.activeConnect) : t.KeepsSlot s :=
  fun _ hop => .inl (h ▸ hop)

lemma keepsSlot_of_none (h : t.stage.activeConnect = none) : t.KeepsSlot s := by
  intro op hop
  rw [h] at hop
  cases hop

lemma KeepsSlot.logging (h : t.KeepsSlot s) (line : LogLine) : (t.logging line).KeepsSlot s := h

lemma KeepsSlot.inside (h : t.KeepsSlot s) : (s.inside t).KeepsSlot s := by
  rw [Stage.inside]
  split
  · exact keepsSlot_of_eq rfl
  · exact h

end Turn

namespace Stage

open Turn

variable {s : Stage κ} {op : Operation κ}

/-! ## An operation arrives -/

lemma keepsSlot_startConnection (aim : Aim) : (s.startConnection aim op).KeepsSlot s := by
  rw [startConnection]
  refine KeepsSlot.inside ?_
  cases s.session with
  | none =>
      cases aim with
      | connect | reconnect => exact keepsSlot_of_none rfl
      | disconnect => exact keepsSlot_of_eq rfl
  | some session =>
      cases aim with
      | connect | reconnect => exact fun _ _ => .inr ⟨session, _, rfl⟩
      | disconnect => exact keepsSlot_of_eq rfl

lemma keepsSlot_supersede (aim : Aim) (left : List (Operation κ)) :
    (s.supersede aim op left).KeepsSlot s := by
  cases left with
  | nil => exact keepsSlot_startConnection aim
  | cons old left => exact keepsSlot_of_eq rfl

lemma keepsSlot_runConnection (aim : Aim) : (s.runConnection aim op).KeepsSlot s := by
  rw [runConnection]
  refine (KeepsSlot.inside ?_).logging _
  intro held hheld
  rcases keepsSlot_supersede aim s.active held hheld with hc | hcall
  · cases hc
  · exact .inr hcall

lemma keepsSlot_run (o : Origin) : (s.run o op).KeepsSlot s := by
  rw [run]
  cases o.check .pipeline with
  | error text => exact keepsSlot_of_eq rfl
  | ok u =>
      cases op.request with
      | setConnectionArgs args =>
          refine (KeepsSlot.inside ?_).logging _
          cases s.session <;> exact keepsSlot_of_eq rfl
      | setCredential credential =>
          refine (KeepsSlot.inside ?_).logging _
          exact keepsSlot_of_eq rfl
      | connect => exact keepsSlot_runConnection .connect
      | reconnect => exact keepsSlot_runConnection .reconnect
      | disconnect => exact keepsSlot_runConnection .disconnect
      | publish _ _ | subscribe _ | unsubscribe _ =>
          refine (KeepsSlot.inside ?_).logging _
          cases s.session <;> exact keepsSlot_of_eq rfl
      | enableFeature _ | disableFeature _ => exact keepsSlot_of_eq rfl

/-! ## The session reports -/

lemma keepsSlot_connectionFailed (cause : Failure) : (s.connectionFailed cause).KeepsSlot s := by
  rw [connectionFailed]
  refine (KeepsSlot.inside ?_).logging _
  cases s.activeConnect with
  | none => exact keepsSlot_of_eq rfl
  | some held => exact keepsSlot_of_none rfl

lemma keepsSlot_announced : s.announced.KeepsSlot s := by
  rw [announced]
  refine KeepsSlot.inside ?_
  cases s.activeConnect with
  | none => exact keepsSlot_of_eq rfl
  | some held => exact keepsSlot_of_none rfl

lemma keepsSlot_retired (cause : Option Failure) : (s.retired cause).KeepsSlot s := by
  rw [retired]
  refine KeepsSlot.inside ?_
  cases s.activeDisconnect <;> exact keepsSlot_of_eq rfl

lemma keepsSlot_acknowledged (id : Nat) (outcome : Outcome) :
    (s.acknowledged id outcome).KeepsSlot s := by
  rw [acknowledged]
  refine KeepsSlot.inside ?_
  cases s.awaiting? id with
  | none => exact keepsSlot_of_eq rfl
  | some held => cases outcome <;> exact keepsSlot_of_eq rfl

lemma keepsSlot_report (r : Report) : (s.report r).KeepsSlot s := by
  cases r with
  | connected | disconnected _ | message _ _ => exact keepsSlot_of_eq rfl
  | connectionFailed cause => exact keepsSlot_connectionFailed cause
  | acknowledged id outcome => exact keepsSlot_acknowledged id outcome

/-- What is handed over completes nobody but who is in the slot, and nobody else is completed when
it is done with. -/
def OnlyHeld (s : Stage κ) (a : Ask κ) (frame : Frame κ) : Prop :=
  (frame = .announced ∨ frame = .last) ∧
    ∀ op, a = .chain (.complete op) → ∃ held, s.activeConnect = some held ∧ held.id = op.id

theorem onlyHeld_connectionFailed {cause : Failure} {a : Ask κ} {frame : Frame κ}
    (h : (s.connectionFailed cause).next = .ask a frame) : s.OnlyHeld a frame := by
  simp only [connectionFailed, inside] at h
  split at h
  · cases h
  · cases hc : s.activeConnect with
    | none =>
        rw [hc] at h
        cases h
    | some held =>
        rw [hc] at h
        cases h
        refine ⟨.inr rfl, ?_⟩
        rintro op ⟨⟩
        exact ⟨held, hc, rfl⟩

theorem onlyHeld_announced {a : Ask κ} {frame : Frame κ} (h : s.announced.next = .ask a frame) :
    s.OnlyHeld a frame := by
  simp only [announced, inside] at h
  split at h
  · cases h
  · cases hc : s.activeConnect with
    | none =>
        rw [hc] at h
        cases h
    | some held =>
        rw [hc] at h
        cases h
        refine ⟨.inr rfl, ?_⟩
        rintro op ⟨⟩
        exact ⟨held, hc, rfl⟩

/-! ## The surroundings return -/

lemma keepsSlot_proceed {frame : Frame κ} {t : Turn κ} (ht : s.proceed frame = some t) :
    t.KeepsSlot s := by
  cases frame with
  | last | replacing _ =>
      cases ht
      exact keepsSlot_of_eq rfl
  | superseding left aim op =>
      cases ht
      exact keepsSlot_supersede aim left
  | announced =>
      cases ht
      exact keepsSlot_announced
  | retired cause =>
      cases ht
      exact keepsSlot_retired cause
  | abandoning left session =>
      cases ht
      cases left with
      | nil => cases session <;> exact keepsSlot_of_eq rfl
      | cons old left => exact keepsSlot_of_eq rfl
  | creating _ _ | starting _ | requesting _ => cases ht

lemma keepsSlot_created {frame : Frame κ} {result : Except Failure SessionId} {t : Turn κ}
    (ht : s.created result frame = some t) : t.KeepsSlot s := by
  cases frame with
  | creating op args =>
      cases result with
      | error f =>
          cases ht
          exact keepsSlot_of_eq rfl
      | ok session =>
          cases ht
          refine (KeepsSlot.inside ?_).logging _
          cases s.session <;> exact keepsSlot_of_eq rfl
  | last | superseding _ _ _ | replacing _ | starting _ | requesting _ | announced | retired _
  | abandoning _ _ => cases ht

lemma keepsSlot_answered {frame : Frame κ} {outcome : Outcome} {t : Turn κ}
    (ht : s.answered outcome frame = some t) : t.KeepsSlot s := by
  cases frame with
  | starting slot =>
      simp only [answered] at ht
      split at ht <;> cases ht
      · cases slot with
        | connect => exact keepsSlot_of_none rfl
        | disconnect => exact keepsSlot_of_eq rfl
      all_goals exact keepsSlot_of_eq rfl
  | requesting id =>
      simp only [answered] at ht
      split at ht <;> cases ht <;> exact keepsSlot_of_eq rfl
  | last | superseding _ _ _ | creating _ _ | replacing _ | announced | retired _
  | abandoning _ _ => cases ht

/-- What a session answers never leads to another call. -/
lemma not_call_of_answered {frame : Frame κ} {outcome : Outcome} {t : Turn κ}
    (ht : s.answered outcome frame = some t) {session : SessionId} {c : SessionCall}
    {next : Frame κ} : t.next ≠ .ask (.call session c) next := by
  intro hn
  cases frame with
  | starting slot =>
      simp only [answered] at ht
      split at ht <;> cases ht <;> cases hn
  | requesting id =>
      simp only [answered] at ht
      split at ht <;> cases ht <;> cases hn
  | last | superseding _ _ _ | creating _ _ | replacing _ | announced | retired _
  | abandoning _ _ => cases ht

end Stage

namespace Activity

variable {a a' : Activity κ} {m : Move κ} {traces : List (Trace κ)}

/-- **Every stretch of work keeps the slot**, unless the session is called. -/
theorem keepsSlot_turn {t : Turn κ} (ht : a.turn? m = some t) (hm : ∀ o, m ≠ .abandon o) :
    t.KeepsSlot a.stage := by
  cases m with
  | enter o op =>
      cases ht
      exact Stage.keepsSlot_run o
  | deliver report =>
      cases ht
      exact Stage.keepsSlot_report report
  | abandon o => exact (hm o rfl).elim
  | panic message => cases ht
  | proceed =>
      obtain ⟨l, -, ht⟩ := Option.bind_eq_some_iff.mp ht
      exact Stage.keepsSlot_proceed ht
  | created result =>
      obtain ⟨l, -, ht⟩ := Option.bind_eq_some_iff.mp ht
      exact Stage.keepsSlot_created ht
  | answered outcome =>
      obtain ⟨l, -, ht⟩ := Option.bind_eq_some_iff.mp ht
      exact Stage.keepsSlot_answered ht

/-- What the stage waits for after a move of the worker is what the stretch of work has handed
over. -/
lemma Lone.next_of_levels (h : a.Lone) (hm : a.ByWorker m) (hs : a.step m = some (a', traces))
    {ask : Ask κ} {frame : Frame κ} (hlevels : a'.levels = [(ask, frame)]) :
    ∃ t, a.turn? m = some t ∧ t.next = .ask ask frame :=
  h.single.next_of_levels hm.driven hs hlevels

/-- Whoever is in the slot after a move of the worker was there before it, or the session is called
for it now. -/
theorem Lone.slot_step (h : a.Lone) (hm : a.ByWorker m)
    (hs : a.step m = some (a', traces)) {op : Operation κ}
    (hop : a'.stage.activeConnect = some op) :
    a.stage.activeConnect = some op ∨
      ∃ session c, a'.levels = [(.call session c, .starting .connect)] := by
  rcases h.outcome hm hs with ⟨message, session, c, -, -, rfl, -⟩ | ⟨t, ht, rfl, -⟩
  · exact .inl hop
  · have hstage : (settle [] t).1.stage.activeConnect = t.stage.activeConnect := by
      rw [settle]
      cases t.next <;> rfl
    rw [hstage] at hop
    have hkeeps : t.KeepsSlot a.stage := by
      refine keepsSlot_turn ht ?_
      rintro o rfl
      exact hm
    rcases hkeeps op hop with hop | ⟨session, c, hn⟩
    · exact .inl hop
    · refine .inr ⟨session, c, ?_⟩
      rw [settle, hn]

end Activity

end DeviceLink
