import DeviceLink.Proofs.Stage.Single
import DeviceLink.Proofs.Stage.Still

/-!
# A stage that is left alone

As long as nothing is given up, the state of a stage that waits is the one in which it will go on;
so nothing is ever lost.

* `Activity.Lone` — a stage at work with one level at most, as it waits.
* **`Lone.step`**, **`Lone.stock_step`** — the moves of the worker keep the shape, and every
  operation.
-/

namespace DeviceLink

variable {κ : Type}

namespace Activity

variable {a a' : Activity κ} {m : Move κ} {traces : List (Trace κ)}

/-- **A stage at work with one level at most**, in the state in which it will go on. -/
structure Lone (a : Activity κ) : Prop where
  orderly : a.Orderly
  alone : a.levels.length ≤ 1
  still : ∀ l ∈ a.levels, a.stage.Still l

lemma lone_new (name : String) : ({ stage := .new name } : Activity κ).Lone :=
  ⟨orderly_new name, Nat.zero_le 1, List.forall_mem_nil _⟩

lemma Lone.single (h : a.Lone) : a.Single := ⟨h.orderly, h.alone⟩

lemma Lone.levels_eq (h : a.Lone) {l : Ask κ × Frame κ} (hl : l ∈ a.levels) : a.levels = [l] :=
  h.single.levels_eq hl

/-- While nobody comes in, the slot of whatever supersedes is empty. -/
lemma displaced_of_still {s : Stage κ} {a : Ask κ} {frame : Frame κ} (h : s.Still (a, frame)) :
    s.displaced frame = none := by
  cases frame with
  | superseding left aim op =>
      cases left with
      | nil =>
          have hslots : s.activeConnect = none ∧ s.activeDisconnect = none := by
            cases a <;> first | exact h | exact h.elim
          cases aim <;> first | exact hslots.1 | exact hslots.2
      | cons old left => rfl
  | last | creating _ _ | replacing _ | starting _ | requesting _ | announced | retired _
  | abandoning _ _ => rfl

/-- **Nothing is lost** by a move of the worker. -/
lemma Lone.losing_eq_nil (h : a.Lone) (hm : a.ByWorker m) : a.losing m = [] :=
  h.single.losing_eq_nil hm.driven fun l hl => displaced_of_still (h.still l hl)

/-- Every stretch of work of the worker leaves the state as it has to be. -/
lemma Lone.still_turn (h : a.Lone) (hm : a.ByWorker m) {t : Turn κ} (ht : a.turn? m = some t) :
    t.Still := by
  cases m with
  | enter o op =>
      cases ht
      exact Stage.still_run o
  | deliver report =>
      cases ht
      exact Stage.still_report report
  | abandon o => exact hm.elim
  | panic message => cases ht
  | proceed =>
      obtain ⟨l, hl, ht⟩ := Option.bind_eq_some_iff.mp ht
      exact Stage.still_proceed (h.still l (List.mem_of_head? hl)) ht
  | created result =>
      obtain ⟨l, hl, ht⟩ := Option.bind_eq_some_iff.mp ht
      exact Stage.still_created (h.still l (List.mem_of_head? hl)) ht
  | answered outcome =>
      obtain ⟨l, hl, ht⟩ := Option.bind_eq_some_iff.mp ht
      exact Stage.still_answered ht

/-- What comes of a move of the worker: a session has panicked and everything is unwound, or a
stretch of work has come to its end with nothing beneath it. -/
lemma Lone.outcome (h : a.Lone) (hm : a.ByWorker m) (hs : a.step m = some (a', traces)) :
    (∃ message session c, a.asked? = some (.call session c) ∧ m = .panic message ∧
        a' = (unwind a.stage message a.levels).1 ∧
        traces = (unwind a.stage message a.levels).2) ∨
      ∃ t, a.turn? m = some t ∧ a' = (settle [] t).1 ∧ traces = (settle [] t).2 :=
  h.single.outcome hm.driven hs

/-- **A move of the worker keeps the shape.** -/
theorem Lone.step (h : a.Lone) (hm : a.ByWorker m)
    (fresh : ∀ op ∈ m.brings, a.stage.awaiting? op.id = none)
    (hs : a.step m = some (a', traces)) : a'.Lone := by
  obtain ⟨horderly, halone⟩ := h.single.step hm.driven fresh hs
  refine ⟨horderly, halone, ?_⟩
  rcases h.outcome hm hs with ⟨message, session, c, -, -, rfl, -⟩ | ⟨t, ht, rfl, -⟩
  · exact List.forall_mem_nil _
  · have hstill := h.still_turn hm ht
    rw [settle]
    cases hn : t.next with
    | done => exact List.forall_mem_nil _
    | panic message => exact List.forall_mem_nil _
    | ask a frame =>
        intro l hl
        rw [List.mem_singleton] at hl
        subst hl
        exact hstill a frame hn

/-- **No move of the worker loses an operation**, or doubles one. -/
theorem Lone.stock_step (h : a.Lone) (hm : a.ByWorker m)
    (fresh : ∀ op ∈ m.brings, a.stage.awaiting? op.id = none)
    (hs : a.step m = some (a', traces)) :
    stock a'.operations = stock m.brings + stock a.inHand := by
  rw [h.single.operations_eq hm.driven fresh hs,
    ← Activity.stock_step h.orderly hm.driven.permits fresh hs, h.losing_eq_nil hm, stock_nil,
    add_zero]

end Activity

end DeviceLink
