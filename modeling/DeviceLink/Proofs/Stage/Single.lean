import DeviceLink.Proofs.Stage.Reentry

/-!
# A stage with one level at most

In a link the worker makes every move, one after the other, and nobody comes back into the stage.
So there is never more than one level, also when everything is given up.

* `Activity.Single` — a stage at work with one level at most.
* `Activity.ByWorker`, `Activity.Driven` — a move that the worker makes, without and with giving
  everything up.
* **`Single.step`** — such moves keep the shape.
* **`exists_step_of_fits`** — whatever the stage waits for, it goes on from there.
-/

namespace DeviceLink

variable {κ : Type}

namespace Activity

variable {a a' : Activity κ} {m : Move κ} {traces : List (Trace κ)}

/-- **A stage at work with one level at most.** -/
structure Single (a : Activity κ) : Prop where
  orderly : a.Orderly
  alone : a.levels.length ≤ 1

lemma Single.levels_eq (h : a.Single) {l : Ask κ × Frame κ} (hl : l ∈ a.levels) :
    a.levels = [l] := by
  have halone := h.alone
  rcases hlevels : a.levels with _ | ⟨first, below⟩
  · rw [hlevels] at hl
    cases hl
  · rw [hlevels] at hl halone
    have hbelow : below = [] := by simpa using halone
    rw [hbelow] at hl ⊢
    rw [List.mem_singleton.mp hl]

lemma mem_of_levels {l : Ask κ × Frame κ} (h : a.levels = [l]) : l ∈ a.levels := by
  rw [h]
  exact List.mem_singleton_self l

lemma asked?_of_levels {ask : Ask κ} {frame : Frame κ} (h : a.levels = [(ask, frame)]) :
    a.asked? = some ask := by
  rw [asked?, h]
  rfl

lemma asked?_of_nil (h : a.levels = []) : a.asked? = none := by
  rw [asked?, h]
  rfl

/-- Whatever is handed over, it is handed over by the one level that there is. -/
lemma Single.levels_of_asked? (h : a.Single) {ask : Ask κ} (hask : a.asked? = some ask) :
    ∃ frame, a.levels = [(ask, frame)] := by
  obtain ⟨⟨other, frame⟩, hhead, he⟩ := Option.map_eq_some_iff.mp hask
  cases (he : other = ask)
  exact ⟨frame, h.levels_eq (List.mem_of_head? hhead)⟩

/-! ## Moves of the worker -/

/-- A move that the worker makes: it starts a job when nothing is handed over, or it brings the
answer to what is.  Only a session panics, and nothing is given up. -/
def ByWorker (a : Activity κ) : Move κ → Prop
  | .enter o _ => o = .on .pipeline ∧ a.levels = []
  | .deliver _ => a.levels = []
  | .proceed | .created _ | .answered _ => True
  | .panic _ => ∃ session c, a.asked? = some (.call session c)
  | .abandon _ => False

/-- A move that the worker makes, which may be to give everything up. -/
def Driven (a : Activity κ) (m : Move κ) : Prop :=
  a.ByWorker m ∨ m = .abandon (.on .pipeline) ∧ a.levels = []

lemma ByWorker.driven (h : a.ByWorker m) : a.Driven m := .inl h

lemma Driven.permits (h : a.Driven m) : a.Permits m := by
  rcases h with h | ⟨rfl, hlevels⟩
  · cases m with
    | enter o op => exact ⟨h.1, by rw [isOpen, asked?_of_nil h.2]⟩
    | deliver report => exact h
    | abandon o => exact h.elim
    | proceed | created _ | answered _ | panic _ => trivial
  · exact ⟨rfl, by rw [isOpen, asked?_of_nil hlevels]⟩

lemma Single.beneath_eq_nil (h : a.Single) (hm : a.Driven m) : a.beneath m = [] := by
  obtain ⟨s, levels⟩ := a
  rcases hm with hm | ⟨rfl, hlevels⟩
  · cases m with
    | enter o op => exact hm.2
    | deliver report => exact hm
    | abandon o => exact hm.elim
    | panic message => rfl
    | proceed | created _ | answered _ =>
        cases levels with
        | nil => rfl
        | cons l below =>
            have halone : below.length ≤ 0 := Nat.le_of_succ_le_succ h.alone
            exact List.length_eq_zero_iff.mp (Nat.le_zero.mp halone)
  · exact hlevels

/-- What comes of a move of the worker: a session has panicked and everything is unwound, or a
stretch of work has come to its end with nothing beneath it. -/
lemma Single.outcome (h : a.Single) (hm : a.Driven m) (hs : a.step m = some (a', traces)) :
    (∃ message session c, a.asked? = some (.call session c) ∧ m = .panic message ∧
        a' = (unwind a.stage message a.levels).1 ∧
        traces = (unwind a.stage message a.levels).2) ∨
      ∃ t, a.turn? m = some t ∧ a' = (settle [] t).1 ∧ traces = (settle [] t).2 := by
  rcases step_cases hs with ⟨message, rfl, hr⟩ | ⟨t, ht, hr⟩
  · rcases hm with ⟨session, c, hc⟩ | ⟨he, -⟩
    · exact .inl ⟨message, session, c, hc, rfl, congrArg Prod.fst hr, congrArg Prod.snd hr⟩
    · cases he
  · rw [h.beneath_eq_nil hm] at hr
    exact .inr ⟨t, ht, congrArg Prod.fst hr, congrArg Prod.snd hr⟩

/-- **A move of the worker keeps the shape.** -/
theorem Single.step (h : a.Single) (hm : a.Driven m)
    (fresh : ∀ op ∈ m.brings, a.stage.awaiting? op.id = none)
    (hs : a.step m = some (a', traces)) : a'.Single := by
  refine ⟨h.orderly.step hm.permits fresh hs, ?_⟩
  rcases h.outcome hm hs with ⟨message, session, c, -, -, rfl, -⟩ | ⟨t, ht, rfl, -⟩
  · exact Nat.zero_le 1
  · rw [settle]
    cases t.next <;> simp [unwind]

/-- What the stage waits for after a move of the worker is what the stretch of work has handed
over. -/
lemma Single.next_of_levels (h : a.Single) (hm : a.Driven m) (hs : a.step m = some (a', traces))
    {ask : Ask κ} {frame : Frame κ} (hlevels : a'.levels = [(ask, frame)]) :
    ∃ t, a.turn? m = some t ∧ t.next = .ask ask frame := by
  rcases h.outcome hm hs with ⟨message, session, c, -, -, rfl, -⟩ | ⟨t, ht, rfl, -⟩
  · cases hlevels
  · refine ⟨t, ht, ?_⟩
    rw [settle] at hlevels
    cases hn : t.next <;> rw [hn] at hlevels <;> cases hlevels
    rfl

/-- No session goes in a panic: whoever panics is a session, and while one is called nothing is
being given up. -/
lemma Single.not_gone (h : a.Single) (hm : a.Driven m)
    (fresh : ∀ op ∈ m.brings, a.stage.awaiting? op.id = none)
    (hs : a.step m = some (a', traces)) (session : SessionId) : .gone session ∉ traces := by
  rcases h.outcome hm hs with ⟨message, target, c, hask, -, -, rfl⟩ | ⟨t, ht, -, rfl⟩
  · obtain ⟨frame, hlevels⟩ := h.levels_of_asked? hask
    have hfits := h.orderly.fits _ (mem_of_levels hlevels)
    rw [unwind, hlevels]
    intro hg
    rcases List.mem_append.mp hg with hg | hg
    · obtain ⟨l, hl, hgone⟩ := List.mem_filterMap.mp hg
      cases List.mem_singleton.mp hl
      cases frame with
      | abandoning left session => exact hfits.elim
      | last | superseding _ _ _ | creating _ _ | replacing _ | starting _ | requesting _
      | announced | retired _ => cases hgone
    · cases List.mem_singleton.mp hg
  · obtain ⟨given, horder, -⟩ := h.orderly.turn hm.permits fresh ht
    have hquiet := List.all_eq_true.mp horder.quiet
    have hready := horder.ready
    rw [Turn.Ready] at hready
    rw [settle]
    intro hg
    cases hn : t.next with
    | done =>
        rw [hn] at hg
        cases hquiet _ hg
    | ask a frame =>
        rw [hn] at hg
        rcases List.mem_append.mp hg with hg | hg
        · cases hquiet _ hg
        · cases List.mem_singleton.mp hg
    | panic message =>
        rw [hn] at hready
        exact hready

/-- While a session is called, no operation is in hand. -/
lemma operations_of_fits {session : SessionId} {c : SessionCall} {frame : Frame κ}
    (h : (Ask.call session c).Fits frame) : frame.operations = [] := by
  cases frame <;> first | rfl | exact h.elim

/-- A move of the worker loses nothing, if every slot that is filled again is empty. -/
lemma Single.losing_eq_nil (h : a.Single) (hm : a.Driven m)
    (hfree : ∀ l ∈ a.levels, a.stage.displaced l.2 = none) : a.losing m = [] := by
  rcases hm with hm | ⟨rfl, -⟩
  · cases m with
    | proceed =>
        rw [losing]
        cases hl : a.levels.head? with
        | none => rfl
        | some l =>
            rw [Option.toList_some, List.flatMap_singleton, hfree l (List.mem_of_head? hl),
              Option.toList_none]
    | panic message =>
        obtain ⟨session, c, hc⟩ := hm
        obtain ⟨frame, hlevels⟩ := h.levels_of_asked? hc
        have hfits := h.orderly.fits _ (mem_of_levels hlevels)
        rw [losing, hlevels, List.flatMap_singleton, operations_of_fits hfits]
    | enter _ _ | deliver _ | created _ | answered _ => rfl
    | abandon o => exact hm.elim
  · rfl

/-- What is handed over by a move of the worker is what the stage waits for then. -/
lemma Single.operations_eq (h : a.Single) (hm : a.Driven m)
    (fresh : ∀ op ∈ m.brings, a.stage.awaiting? op.id = none)
    (hs : a.step m = some (a', traces)) :
    stock a'.operations = stock a'.inHand + stock (handed traces) := by
  rcases h.outcome hm hs with ⟨message, session, c, -, -, rfl, rfl⟩ | ⟨t, ht, rfl, rfl⟩
  · rw [handed_unwind]
    simp [unwind, operations, inHand]
  · obtain ⟨given, horder, -⟩ := h.orderly.turn hm.permits fresh ht
    have hready := horder.ready
    rw [Turn.Ready] at hready
    rw [settle]
    cases hn : t.next with
    | done => simp [operations, inHand, handed_of_remarks horder.quiet]
    | ask a frame =>
        simp only [operations, inHand, handed_of_remarks horder.quiet, List.flatMap_cons,
          List.flatMap_nil, handed_append, handed_cons, handed_nil, Trace.operations, stock_append,
          stock_nil]
        abel
    | panic message =>
        rw [hn] at hready
        exact hready.elim

/-- **The stage goes on** from whatever it waits for. -/
theorem exists_step_of_fits {ask : Ask κ} {frame : Frame κ} (h : ask.Fits frame) (s : Stage κ) :
    match ask with
    | .chain _ | .release _ => ∃ r,
        ({ stage := s, levels := [(ask, frame)] } : Activity κ).step .proceed = some r
    | .create _ => ∀ result, ∃ r,
        ({ stage := s, levels := [(ask, frame)] } : Activity κ).step (.created result) = some r
    | .call _ _ => ∀ outcome, ∃ r,
        ({ stage := s, levels := [(ask, frame)] } : Activity κ).step (.answered outcome)
          = some r := by
  cases ask with
  | chain c => cases frame <;> first | exact ⟨_, rfl⟩ | (cases c <;> exact h.elim)
  | release session => cases frame <;> first | exact ⟨_, rfl⟩ | exact h.elim
  | create args =>
      intro result
      cases frame <;> first | exact h.elim | (cases result <;> exact ⟨_, rfl⟩)
  | call session c =>
      intro outcome
      have hsome : ∃ t, s.answered outcome frame = some t := by
        cases frame <;> first | exact h.elim | skip
        all_goals
          simp only [Stage.answered]
          split <;> exact ⟨_, rfl⟩
      obtain ⟨t, ht⟩ := hsome
      exact ⟨_, congrArg (Option.map _) ht⟩

end Activity

end DeviceLink
