import DeviceLink.Proofs.Run
import DeviceLink.Proofs.Stage.Single

/-!
# A stage under watch

The chain does not come back into the stage: an operation, a report or the order to give everything
up finds the stage with nothing handed over.  Sessions, the factory and the chain return whatever
they like, and may panic.  Somebody watches and writes down, in one list, what comes to the stage
and what the stage hands over.

* `Activity.undisturbed`, `Activity.comes` — a move with which nobody comes back.
* `Entry`, `Activity.watch` — the record, and a run with it.
* **`comes_cases`** — what comes of such a move: everything is unwound, or a stretch of work has
  come to its end with nothing beneath it.
-/

namespace DeviceLink

variable {κ : Type}

/-! ## Moves -/

namespace Activity

/-- Nobody comes back into the stage with this move. -/
def undisturbed (a : Activity κ) : Move κ → Bool
  | .enter _ _ | .deliver _ | .abandon _ => a.levels.isEmpty
  | .proceed | .created _ | .answered _ | .panic _ => true

/-- One move with which nobody comes back, if it can be made. -/
def comes (a : Activity κ) (m : Move κ) : Option (Activity κ × List (Trace κ)) :=
  if a.undisturbed m then a.step m else none

end Activity

/-! ## The record of a run -/

/-- What is written down of a stage. -/
inductive Entry (κ : Type) where
  /-- An operation arrives, while these are in the slots. -/
  | arrived (op : Operation κ) (occupants : List (Operation κ))
  | reported (r : Report)
  /-- The session answers a call. -/
  | answered (outcome : Outcome)
  /-- The stage hands something over. -/
  | asked (a : Ask κ)
  deriving DecidableEq, Repr

def Move.noted? (s : Stage κ) : Move κ → Option (Entry κ)
  | enter _ op => some (.arrived op s.active)
  | deliver r => some (.reported r)
  | answered outcome => some (.answered outcome)
  | abandon _ | proceed | created _ | panic _ => none

def Trace.noted? : Trace κ → Option (Entry κ)
  | ask a => some (.asked a)
  | log _ | unhandled _ | gone _ | panic _ => none

def Next.noted? : Next κ → Option (Entry κ)
  | ask a _ => some (.asked a)
  | done | panic _ => none

namespace Activity

/-- What is written down of one move. -/
def entries (a : Activity κ) (m : Move κ) (traces : List (Trace κ)) : List (Entry κ) :=
  (m.noted? a.stage).toList ++ traces.filterMap Trace.noted?

/-- **A run, with its record.**  A move that can not be made, or with which somebody would come
back, is passed over. -/
def watch : Activity κ × List (Entry κ) → List (Move κ) → Activity κ × List (Entry κ) :=
  runWith comes Prod.fst fun m a r g => g ++ a.entries m r.2

variable {a a' : Activity κ} {m : Move κ} {traces : List (Trace κ)}

/-! ## What is written down -/

lemma filterMap_noted?_of_remarks {traces : List (Trace κ)} (h : traces.all Trace.remarks) :
    traces.filterMap Trace.noted? = [] := by
  rw [List.filterMap_eq_nil_iff]
  intro trace ht
  have hr := List.all_eq_true.mp h trace ht
  cases trace <;> first | rfl | cases hr

/-- Of a panic it can be seen which sessions go with it, and that it was one. -/
lemma of_mem_unwind {s : Stage κ} {message : String} {levels : List (Ask κ × Frame κ)}
    {trace : Trace κ} (h : trace ∈ (unwind s message levels).2) :
    (∃ session, trace = .gone session) ∨ trace = .panic message := by
  rcases List.mem_append.mp h with h | h
  · obtain ⟨l, -, hl⟩ := List.mem_filterMap.mp h
    obtain ⟨session, -, rfl⟩ := Option.map_eq_some_iff.mp hl
    exact .inl ⟨session, rfl⟩
  · exact .inr (List.mem_singleton.mp h)

/-- A panic hands nothing over. -/
lemma filterMap_noted?_unwind (s : Stage κ) (message : String) (levels : List (Ask κ × Frame κ)) :
    (unwind s message levels).2.filterMap Trace.noted? = [] := by
  rw [List.filterMap_eq_nil_iff]
  intro trace ht
  rcases of_mem_unwind ht with ⟨session, rfl⟩ | rfl <;> rfl

/-- Of a stretch of work it is written down what is handed over at its end. -/
lemma filterMap_noted?_settle {t : Turn κ} (h : t.traces.all Trace.remarks) :
    (settle [] t).2.filterMap Trace.noted? = t.next.noted?.toList := by
  have hquiet := filterMap_noted?_of_remarks h
  rw [settle]
  cases t.next with
  | done => exact hquiet
  | ask ask frame =>
      rw [List.filterMap_append, hquiet]
      rfl
  | panic message =>
      simp only [List.filterMap_append, hquiet, filterMap_noted?_unwind]
      rfl

/-! ## What comes of a move -/

lemma step_of_comes (h : a.comes m = some (a', traces)) :
    a.undisturbed m ∧ a.step m = some (a', traces) := by
  rw [comes] at h
  split at h
  · next hu => exact ⟨hu, h⟩
  · cases h

/-- A move with which nobody comes back leaves nothing beneath it. -/
lemma beneath_of_undisturbed (halone : a.levels.length ≤ 1) (h : a.undisturbed m) :
    a.beneath m = [] := by
  cases m with
  | enter _ _ | deliver _ | abandon _ => exact List.isEmpty_iff.mp h
  | panic message => rfl
  | proceed | created _ | answered _ =>
      refine List.length_eq_zero_iff.mp ?_
      rw [beneath, List.length_tail]
      omega

/-- **What comes of a move** with which nobody comes back. -/
theorem comes_cases (halone : a.levels.length ≤ 1) (h : a.comes m = some (a', traces)) :
    (∃ message, a' = (unwind a.stage message a.levels).1 ∧
        traces = (unwind a.stage message a.levels).2) ∨
      a.Driven m ∧ ∃ t, a.turn? m = some t ∧ a' = (settle [] t).1 ∧ traces = (settle [] t).2 := by
  obtain ⟨hu, hs⟩ := step_of_comes h
  rcases step_cases hs with ⟨message, rfl, hr⟩ | ⟨t, ht, hr⟩
  · exact .inl ⟨message, congrArg Prod.fst hr, congrArg Prod.snd hr⟩
  have hbeneath := beneath_of_undisturbed halone hu
  -- whoever comes in from elsewhere panics at the door
  have hdoor : (∃ text, t = { stage := a.stage, next := .panic text } ∧ a.levels = []) ∨
      a.Driven m := by
    cases m with
    | enter o op =>
        cases ht
        rcases hc : o.check .pipeline with text | u
        · exact .inl ⟨text, by rw [Stage.run, hc], List.isEmpty_iff.mp hu⟩
        · refine .inr (.inl ⟨?_, List.isEmpty_iff.mp hu⟩)
          by_contra hne
          rw [Origin.check, if_neg hne] at hc
          cases hc
    | abandon o =>
        cases ht
        rcases hc : o.check .pipeline with text | u
        · exact .inl ⟨text, by rw [Stage.abandon, hc], List.isEmpty_iff.mp hu⟩
        · refine .inr (.inr ⟨?_, List.isEmpty_iff.mp hu⟩)
          by_contra hne
          rw [Origin.check, if_neg] at hc
          · cases hc
          · exact fun he => hne (he ▸ rfl)
    | deliver r => exact .inr (.inl (List.isEmpty_iff.mp hu))
    | proceed | created _ | answered _ => exact .inr (.inl trivial)
    | panic message => cases ht
  rcases hdoor with ⟨text, rfl, hlevels⟩ | hdriven
  · rw [hbeneath, ← hlevels] at hr
    exact .inl ⟨text, congrArg Prod.fst hr, congrArg Prod.snd hr⟩
  · rw [hbeneath] at hr
    exact .inr ⟨hdriven, t, ht, congrArg Prod.fst hr, congrArg Prod.snd hr⟩

end Activity

end DeviceLink
