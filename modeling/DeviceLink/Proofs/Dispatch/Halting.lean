import DeviceLink.Proofs.Dispatch.Tickets

/-!
# Which worker stops first

Whoever stops the workers orders the pipeline's worker to stop, waits for its end, and then orders
the callback worker to stop.  But only the first who comes waits: one who comes while another waits
goes on at once.  So the callback worker may be gone while the pipeline's worker still has closures
to run, which may call the user's code.

* `Halting` — the record of a run: who has begun to stop the workers, who has gone past the
  pipeline's worker while it was there, and who has ordered the callback worker to stop meanwhile.
* `Machine.Halted`, **`Halted.happens`** — what is known of this record in every run.
* `Machine.InTurn` — as long as nobody hurries, the callback worker takes and runs all that the
  pipeline's worker gives it; and who hurries has found another who waits.
* **`Machine.inTurn_follow`** — so it is in every run.
* **`Machine.hurried_unserved`** — the second of two may hurry, and then a closure is lost.
-/

namespace DeviceLink.Dispatch

variable {ν J : Type}

/-! ## The record of a run -/

def Command.isStop : Command J → Bool
  | stop => true
  | run _ => false

namespace Machine

/-- A thread begins to stop the workers. -/
def halts (m : Machine ν) (t : Thread) : Bool :=
  match m.stack t with
  | .running _ (.stop :: _) _ _ :: _ => true
  | _ => false

/-- The pipeline's worker is there. -/
def serves (m : Machine ν) : Bool := m.boxes.pipeline.phase ≠ .exited

/-- A thread that stops the workers goes past the pipeline's worker while that is there: another has
claimed the right to wait for its end, or the thread is that worker itself. -/
def passes (m : Machine ν) (t : Thread) : Bool :=
  match m.stack t with
  | .stopping (.pipeline :: _) :: _ =>
    m.serves && (!m.boxes.pipeline.joinable || t = .worker .pipeline)
  | _ => false

/-- The callback worker is ordered to stop while the pipeline's worker is there. -/
def hurries (before after : Machine ν) : Bool :=
  before.serves && (before.sends after .callback).any Command.isStop

end Machine

/-- The record of a run. -/
structure Halting (ν : Type) extends Chronicle ν where
  /-- The threads that have begun to stop the workers. -/
  halts : List Thread := []
  /-- Those that have gone past the pipeline's worker while it was there. -/
  passed : List Thread := []
  /-- Those that have ordered the callback worker to stop while the pipeline's worker was there. -/
  hurried : List Thread := []

/-- What the observer writes down. -/
def Halting.note : Event ν → Machine ν → Machine ν → Halting ν → Halting ν
  | .begin _ _, _, _, g => g
  | .move t, before, after, g =>
    { toChronicle := g.toChronicle.note (.move t) before after
      halts := g.halts ++ if before.halts t then [t] else []
      passed := g.passed ++ if before.passes t then [t] else []
      hurried := g.hurried ++ if before.hurries after then [t] else [] }

/-! ## What is ahead of an order to stop -/

namespace Mailbox

variable {commands : List (Command J)} {job : J}

/-- What comes later does not change what is ahead. -/
lemma ahead_prefix_append (commands more : List (Command J)) :
    ahead commands <+: ahead (commands ++ more) := by
  induction commands with
  | nil => exact List.nil_prefix
  | cons command rest ih =>
      cases command with
      | stop => exact List.nil_prefix
      | run job => exact (List.prefix_cons_inj job).mpr ih

lemma mem_ahead (hstop : .stop ∉ commands) (h : .run job ∈ commands) : job ∈ ahead commands := by
  induction commands with
  | nil => cases h
  | cons command rest ih =>
      cases command with
      | stop => exact (hstop List.mem_cons_self).elim
      | run other =>
          rcases List.mem_cons.mp h with he | hrest
          · cases he
            exact List.mem_cons_self
          · have hnot : .stop ∉ rest := fun hmem => hstop (List.mem_cons_of_mem _ hmem)
            exact List.mem_cons_of_mem _ (ih hnot hrest)

end Mailbox

/-! ## What a step does to stopping -/

section Effects

variable {m m' m₀ : Machine ν} {t u : Thread} {c : Context} {waits : Option Nat}

/-- No worker is ordered to stop by an action. -/
lemma Prepares.stop_notMem_sends (h : Prepares m t waits m₀) (c : Context) :
    .stop ∉ m.sends m₀ c := by
  have hsame : ∀ {k : Machine ν}, k.boxes = m.boxes → .stop ∉ m.sends k c := by
    intro k hk
    rw [Machine.sends_of_boxes_eq hk]
    exact List.not_mem_nil
  cases h with
  | same _ _ _ _ _ | lets _ _ | forgets _ _ | takes _ => exact hsame rfl
  | queues body hopen | keeps body hopen =>
      rw [Machine.sends_of_boxes_set rfl rfl]
      split <;> simp

/-- Nor is anybody's wait for a worker's end claimed. -/
lemma Prepares.joinable_eq (h : Prepares m t waits m₀) (c : Context) :
    (m₀.boxes.get c).joinable = (m.boxes.get c).joinable := by
  cases h with
  | same _ _ _ _ _ | lets _ _ | forgets _ _ | takes _ => rfl
  | queues body hopen | keeps body hopen =>
      rw [PerContext.get_set]
      split
      · next he => rw [he]
      · rfl

lemma sends_setStack (m₀ : Machine ν) (frames : List (Frame ν)) :
    m.sends (m₀.setStack t frames) c = m.sends m₀ c := by
  rw [Machine.sends, Machine.sends, Machine.boxes_setStack]

/-- **Who orders a worker to stop** has come to it. -/
lemma Does.stopping_of_stop_mem (h : Does m t m') (hstop : .stop ∈ m.sends m' c) :
    ∃ todo below, m.stack t = .stopping (c :: todo) :: below := by
  cases h with
  | goes hpre hgoes hends =>
      rw [sends_setStack] at hstop
      exact (hpre.stop_notMem_sends c hstop).elim
  | @orders d todo below next hstack hnext log =>
      rw [Machine.sends_of_boxes_set (Machine.boxes_setStack _ _ _) (grows_order _).queue] at hstop
      split at hstop
      · next he => exact he ▸ ⟨todo, below, hstack⟩
      · cases hstop
  | joined hstack hexited log =>
      rw [sends_setStack] at hstop
      exact (List.not_mem_nil (Machine.sends_of_boxes_eq rfl c ▸ hstop)).elim
  | @ends m₀ goal report hpre cells hlast hgoal hends =>
      obtain ⟨tickets, results, log, heq⟩ := Machine.exists_tell_eq { m₀ with cells } t goal report
      rw [sends_setStack, heq] at hstop
      exact (hpre.stop_notMem_sends c hstop).elim

/-- **Who claims the wait** for a worker's end waits for it, or is that worker. -/
lemma Does.joining_of_claimed (h : Does m t m') (hbefore : (m.boxes.get c).joinable = true)
    (hafter : (m'.boxes.get c).joinable = false) :
    ∃ todo below, m.stack t = .stopping (c :: todo) :: below ∧
      (m'.stack t = .joining c todo :: below ∧ t ≠ .worker c ∨ t = .worker c) := by
  cases h with
  | goes hpre hgoes hends =>
      rw [Machine.boxes_setStack, hpre.joinable_eq, hbefore] at hafter
      cases hafter
  | @orders d todo below next hstack hnext log =>
      rw [Machine.boxes_setStack, PerContext.get_set] at hafter
      split at hafter
      · next he =>
          subst he
          refine ⟨todo, below, hstack, ?_⟩
          rcases hnext with ⟨rfl, -, hne⟩ | ⟨rfl, hgone | hself⟩
          · refine .inl ⟨Machine.stack_setStack_of_ne_nil ?_ _, hne⟩
            have hsame : ({ m with boxes := m.boxes.set c (m.boxes.get c).sendStop.claim, log }
                : Machine ν).stack t = m.stack t := by cases t <;> rfl
            rw [hsame, hstack]
            exact List.cons_ne_nil _ _
          · cases hgone.symm.trans hbefore
          · exact .inr hself
      · cases hafter.symm.trans hbefore
  | joined hstack hexited log =>
      rw [Machine.boxes_setStack] at hafter
      cases hafter.symm.trans hbefore
  | @ends m₀ goal report hpre cells hlast hgoal hends =>
      obtain ⟨tickets, results, log, heq⟩ := Machine.exists_tell_eq { m₀ with cells } t goal report
      rw [Machine.boxes_setStack, heq, hpre.joinable_eq, hbefore] at hafter
      cases hafter

/-- Who waits for a worker's end waits until then. -/
lemma Does.exited_of_joining (h : Does m t m') {todo : List Context} {below : List (Frame ν)}
    (hstack : m.stack t = .joining c todo :: below) : (m.boxes.get c).phase = .exited := by
  cases h with
  | goes hpre hgoes hends =>
      rw [hstack] at hgoes
      cases hgoes with
      | resumes hframe v => cases hframe
  | orders hother hnext log => cases hother.symm.trans hstack
  | joined hother hexited log =>
      cases hother.symm.trans hstack
      exact hexited
  | ends hpre cells hlast hgoal hends =>
      rw [Machine.ends?, Machine.raises?, hstack] at hends
      cases hends

end Effects

/-! ## Who goes past whom -/

namespace Machine

variable {m m' : Machine ν} {t u : Thread} {c : Context} {g : Halting ν}

/-- A thread that stops the workers has the pipeline's worker before it, or that is gone, or the
thread has gone past it. -/
def Placed (m : Machine ν) (g : Halting ν) (t : Thread) : Frame ν → Prop
  | .stopping todo => t ∈ g.halts ∧ (todo = [.pipeline, .callback] ∨
      .pipeline ∉ todo ∧ (m.serves = false ∨ t ∈ g.passed))
  | .joining .pipeline todo => t ∈ g.halts ∧ .pipeline ∉ todo
  | .joining .callback todo => t ∈ g.halts ∧ .pipeline ∉ todo ∧ (m.serves = false ∨ t ∈ g.passed)
  | .running _ _ _ _ | .awaiting _ | .discarding _ _ => True

/-- Another thread than the pipeline's worker waits for the end of that. -/
def Waits (m : Machine ν) (u : Thread) : Prop :=
  u ≠ .worker .pipeline ∧ ∃ todo below, m.stack u = .joining .pipeline todo :: below

/-- **What is known of those who stop the workers.** -/
structure Halted (m : Machine ν) (g : Halting ν) : Prop where
  placed : ∀ t frame below, m.stack t = frame :: below → m.Placed g t frame
  claimed : m.boxes.pipeline.joinable = false →
    m.serves = false ∨ .worker .pipeline ∈ g.halts ∨ ∃ u, m.Waits u
  overlap : ∀ t ∈ g.passed, t ∈ g.halts ∧ (.worker .pipeline ∈ g.halts ∨ ∃ u ∈ g.halts, u ≠ t)
  passed : ∀ t ∈ g.hurried, t ∈ g.passed
  first : .stop ∈ g.commands .callback → m.serves = false ∨ g.hurried ≠ []
  ahead : g.hurried = [] → ∀ call, (.worker .pipeline, .run call) ∈ g.sent .callback →
    call ∈ Mailbox.ahead (g.commands .callback)

/-- Threads stay where they are placed. -/
lemma Placed.mono {g' : Halting ν} {frame : Frame ν} (h : m.Placed g t frame)
    (hserves : m.serves = false → m'.serves = false) (hhalts : g.halts ⊆ g'.halts)
    (hpassed : g.passed ⊆ g'.passed) : m'.Placed g' t frame := by
  cases frame with
  | running _ _ _ _ | awaiting _ | discarding _ _ => trivial
  | stopping todo =>
      obtain ⟨hmem, hall | ⟨hnone, hpast⟩⟩ := h
      · exact ⟨hhalts hmem, .inl hall⟩
      · exact ⟨hhalts hmem, .inr ⟨hnone, hpast.imp hserves (@hpassed t)⟩⟩
  | joining c todo =>
      cases c with
      | pipeline => exact ⟨hhalts h.1, h.2⟩
      | callback => exact ⟨hhalts h.1, h.2.1, h.2.2.imp hserves (@hpassed t)⟩

lemma serves_eq_false : m.serves = false ↔ (m.boxes.get .pipeline).phase = .exited := by
  simp [serves, PerContext.get]

lemma serves_eq_true : m.serves = true ↔ (m.boxes.get .pipeline).phase ≠ .exited := by
  simp [serves, PerContext.get]

/-- Who goes past the pipeline's worker has found another who waits, unless that worker stops the
workers itself. -/
lemma Halted.overlap_of_passes (h : m.Halted g) (hpasses : m.passes t = true) :
    t ∈ g.halts ∧ (.worker .pipeline ∈ g.halts ∨ ∃ u, u ≠ t ∧ m.Waits u) := by
  unfold passes at hpasses
  split at hpasses
  · next todo below hstack =>
      have hmem : t ∈ g.halts := (h.placed t _ _ hstack).1
      rw [Bool.and_eq_true, Bool.or_eq_true, Bool.not_eq_true', decide_eq_true_eq] at hpasses
      obtain ⟨hserves, hclaimed | rfl⟩ := hpasses
      · refine ⟨hmem, ?_⟩
        rcases h.claimed hclaimed with hgone | hself | ⟨u, hwaits⟩
        · cases hgone.symm.trans hserves
        · exact .inl hself
        · refine .inr ⟨u, ?_, hwaits⟩
          rintro rfl
          obtain ⟨-, _, _, hjoining⟩ := hwaits
          cases hjoining.symm.trans hstack
      · exact ⟨hmem, .inl hmem⟩
  · cases hpasses

lemma hurries_iff : m.hurries m' = true ↔ m.serves = true ∧ .stop ∈ m.sends m' .callback := by
  rw [hurries, Bool.and_eq_true, List.any_eq_true]
  refine and_congr_right fun _ => ⟨?_, fun hstop => ⟨.stop, hstop, rfl⟩⟩
  rintro ⟨command, hmem, hisStop⟩
  cases command with
  | run call => cases hisStop
  | stop => exact hmem

/-- Who hurries has gone past the pipeline's worker. -/
lemma Halted.mem_passed_of_hurries (h : m.Halted g)
    (hstops : .stop ∈ m.sends m' .callback →
      ∃ todo below, m.stack t = .stopping (.callback :: todo) :: below)
    (hhurries : m.hurries m' = true) : t ∈ g.passed := by
  obtain ⟨hthere, hstop⟩ := hurries_iff.mp hhurries
  obtain ⟨todo, below, hstack⟩ := hstops hstop
  obtain ⟨-, hall | ⟨-, hgone | hpast⟩⟩ := h.placed t _ _ hstack
  · cases hall
  · cases hgone.symm.trans hthere
  · exact hpast

/-- As long as the pipeline's worker is there and nobody hurries, the callback worker is not ordered
to stop. -/
lemma Halted.stop_notMem (h : m.Halted g) (hthere : m.serves = true) (hnone : g.hurried = []) :
    .stop ∉ g.commands .callback := by
  intro hstop
  rcases h.first hstop with hgone | hsome
  · cases hgone.symm.trans hthere
  · exact hsome hnone

lemma note_hurried_eq_nil (h : (g.note (.move t) m m').hurried = []) :
    g.hurried = [] ∧ m.hurries m' ≠ true := by
  obtain ⟨hbefore, hcalm⟩ := List.append_eq_nil_iff.mp h
  refine ⟨hbefore, fun hhurries => ?_⟩
  rw [if_pos hhurries] at hcalm
  cases hcalm

lemma mem_note {b : Bool} {l : List Thread} (hu : u ∈ l ++ if b then [t] else []) :
    u ∈ l ∨ u = t ∧ b = true := by
  refine (List.mem_append.mp hu).imp_right fun hu => ?_
  split at hu
  · next hb => exact ⟨List.mem_singleton.mp hu, hb⟩
  · cases hu

/-- What is written down of a move is right, if the pipeline's worker, once gone, stays so, and only
who has come to the callback worker orders that to stop. -/
lemma Halted.move (h : m.Halted g) (hserves : m.serves = false → m'.serves = false)
    (hstops : .stop ∈ m.sends m' .callback →
      ∃ todo below, m.stack t = .stopping (.callback :: todo) :: below)
    (hself : t = .worker .pipeline → m.serves = true)
    (hplaced : ∀ u frame below, m'.stack u = frame :: below →
      m'.Placed (g.note (.move t) m m') u frame)
    (hclaimed : m'.boxes.pipeline.joinable = false → m'.serves = false ∨
      .worker .pipeline ∈ (g.note (.move t) m m').halts ∨ ∃ u, m'.Waits u) :
    m'.Halted (g.note (.move t) m m') := by
  have hcommands : (g.note (.move t) m m').commands .callback
      = g.commands .callback ++ m.sends m' .callback := commands_note g.toChronicle t m m' .callback
  refine ⟨hplaced, hclaimed, fun u hu => ?_, fun u hu => ?_, fun hstop => ?_,
    fun hnone call hcall => ?_⟩
  · have hold : u ∈ g.halts ∧ (.worker .pipeline ∈ g.halts ∨ ∃ v ∈ g.halts, v ≠ u) := by
      rcases mem_note hu with hu | ⟨rfl, hpasses⟩
      · exact h.overlap u hu
      · obtain ⟨hmem, hothers⟩ := h.overlap_of_passes hpasses
        refine ⟨hmem, hothers.imp_right ?_⟩
        rintro ⟨v, hne, -, todo, below, hjoining⟩
        exact ⟨v, (h.placed v _ _ hjoining).1, hne⟩
    obtain ⟨hmem, hothers⟩ := hold
    refine ⟨List.mem_append_left _ hmem, hothers.imp (List.mem_append_left _) ?_⟩
    rintro ⟨v, hv, hne⟩
    exact ⟨v, List.mem_append_left _ hv, hne⟩
  · refine List.mem_append_left _ ?_
    rcases mem_note hu with hu | ⟨rfl, hhurries⟩
    · exact h.passed u hu
    · exact h.mem_passed_of_hurries hstops hhurries
  · by_contra hcontra
    obtain ⟨hthere, hnone⟩ := not_or.mp hcontra
    obtain ⟨hbefore, hcalm⟩ := note_hurried_eq_nil (not_not.mp hnone)
    have hserved : m.serves = true := 
      eq_true_of_ne_false fun hgone => hthere (hserves hgone)
    rw [hcommands] at hstop
    rcases List.mem_append.mp hstop with hstop | hstop
    · exact h.stop_notMem hserved hbefore hstop
    · exact hcalm (hurries_iff.mpr ⟨hserved, hstop⟩)
  · obtain ⟨hbefore, hcalm⟩ := note_hurried_eq_nil hnone
    rw [hcommands]
    rcases List.mem_append.mp hcall with hcall | hcall
    · exact (Mailbox.ahead_prefix_append _ _).subset (h.ahead hbefore call hcall)
    · obtain ⟨command, hmem, he⟩ := List.mem_map.mp hcall
      cases he
      refine Mailbox.mem_ahead (fun hstop => ?_) (List.mem_append_right _ hmem)
      rcases List.mem_append.mp hstop with hstop | hstop
      · exact h.stop_notMem (hself rfl) hbefore hstop
      · exact hcalm (hurries_iff.mpr ⟨hself rfl, hstop⟩)

/-! ### One case for everything that can happen -/

/-- A thread that goes on stays where it is placed. -/
lemma Halted.placed_of_does (h : m.Halted g) (hne : m.stack t ≠ []) (hs : Does m t m')
    (hserves : m.serves = false → m'.serves = false) {frame : Frame ν} {below : List (Frame ν)}
    (hframe : m'.stack t = frame :: below) : m'.Placed (g.note (.move t) m m') t frame := by
  have hkeeps : ∀ {frame : Frame ν}, m.Placed g t frame →
      m'.Placed (g.note (.move t) m m') t frame :=
    fun hplaced => hplaced.mono hserves (List.subset_append_left _ _) (List.subset_append_left _ _)
  have htop : ∀ {k : Machine ν} {frames : List (Frame ν)}, (∀ u, k.stack u = m.stack u) →
      (k.setStack t frames).stack t = frame :: below → frames = frame :: below := by
    intro k frames hsame heq
    rwa [stack_setStack_of_ne_nil (by rwa [hsame])] at heq
  cases hs with
  | goes hpre hgoes hends =>
      generalize hold : m.stack t = old at hgoes
      cases hgoes with
      | acts v | enters _ _ | leaves _ v | resumes _ v =>
          cases htop hpre.stack_eq hframe
          trivial
      | awaits hhas =>
          cases htop hpre.stack_eq hframe
          cases hhas <;> trivial
      | halts =>
          cases htop hpre.stack_eq hframe
          have hhalts : m.halts t = true := by rw [Machine.halts, hold]
          exact ⟨List.mem_append_right _ (by simp [hhalts]), .inl rfl⟩
  | @orders c todo rest next hstack hnext log =>
      cases htop (fun u => by cases u <;> rfl) hframe
      obtain ⟨hmem, hall | ⟨hpast, hgone⟩⟩ := h.placed t _ _ hstack
      · cases hall
        rcases hnext with ⟨rfl, -, -⟩ | ⟨rfl, hlast⟩
        · exact ⟨List.mem_append_left _ hmem, by decide⟩
        · refine ⟨List.mem_append_left _ hmem, .inr ⟨by decide, ?_⟩⟩
          cases hthere : m.serves with
          | false => exact .inl (hserves hthere)
          | true =>
              have hpasses : m.passes t = true := by
                rw [passes, hstack, hthere, Bool.true_and, Bool.or_eq_true, Bool.not_eq_true',
                  decide_eq_true_eq]
                exact hlast
              exact .inr (List.mem_append_right _ (by simp [hpasses]))
      · have hrest : .pipeline ∉ todo := fun hin => hpast (List.mem_cons_of_mem _ hin)
        refine hkeeps ?_
        rcases hnext with ⟨rfl, -, -⟩ | ⟨rfl, -⟩
        · cases c with
          | pipeline => exact (hpast List.mem_cons_self).elim
          | callback => exact ⟨hmem, hrest, hgone⟩
        · exact ⟨hmem, .inr ⟨hrest, hgone⟩⟩
  | @joined c todo rest hstack hexited log =>
      cases htop (fun u => by cases u <;> rfl) hframe
      have hplaced := h.placed t _ _ hstack
      refine hkeeps ?_
      cases c with
      | pipeline => exact ⟨hplaced.1, .inr ⟨hplaced.2, .inl (serves_eq_false.mpr hexited)⟩⟩
      | callback => exact ⟨hplaced.1, .inr hplaced.2⟩
  | @ends m₀ goal report hpre cells hlast hgoal hends =>
      obtain ⟨tickets, results, log, heq⟩ := exists_tell_eq { m₀ with cells } t goal report
      cases htop (fun u => by rw [heq, ← hpre.stack_eq]; cases u <;> rfl) hframe

/-- Who has claimed the wait for the end of the pipeline's worker waits for it. -/
lemma Halted.claimed_of_does (h : m.Halted g) (hs : Does m t m')
    (hserves : m.serves = false → m'.serves = false)
    (hclaimed : m'.boxes.pipeline.joinable = false) : m'.serves = false ∨
      .worker .pipeline ∈ (g.note (.move t) m m').halts ∨ ∃ u, m'.Waits u := by
  cases hbefore : m.boxes.pipeline.joinable with
  | true =>
      obtain ⟨todo, below, hstack, ⟨hjoining, hne⟩ | rfl⟩ :=
        hs.joining_of_claimed (c := .pipeline) hbefore hclaimed
      · exact .inr (.inr ⟨t, hne, todo, below, hjoining⟩)
      · exact .inr (.inl (List.mem_append_left _ (h.placed _ _ _ hstack).1))
  | false =>
      rcases h.claimed hbefore with hgone | hself | ⟨u, hne, todo, below, hjoining⟩
      · exact .inl (hserves hgone)
      · exact .inr (.inl (List.mem_append_left _ hself))
      · by_cases hu : u = t
        · subst hu
          exact .inl (hserves (serves_eq_false.mpr (hs.exited_of_joining hjoining)))
        · exact .inr (.inr ⟨u, hne, todo, below, (hs.stack_of_ne hu).trans hjoining⟩)

/-- A thread that has something under way. -/
lemma Halted.does (h : m.Halted g) (hc : m.Chronicled g.toChronicle) (hne : m.stack t ≠ [])
    (hs : Does m t m') : m'.Halted (g.note (.move t) m m') := by
  have hserves : m.serves = false → m'.serves = false := by
    rw [serves_eq_false, serves_eq_false, (hs.grows .pipeline).phase]
    exact id
  refine h.move hserves hs.stopping_of_stop_mem (fun hself => ?_) (fun u frame below hframe => ?_)
    (h.claimed_of_does hs hserves)
  · rw [serves_eq_true, hc.running .pipeline (hself ▸ hne)]
    decide
  · by_cases hu : u = t
    · subst hu
      exact h.placed_of_does hne hs hserves hframe
    · rw [hs.stack_of_ne hu] at hframe
      exact (h.placed u _ _ hframe).mono hserves (List.subset_append_left _ _)
        (List.subset_append_left _ _)

/-- A worker that turns to its mailbox. -/
lemma Halted.turns (h : m.Halted g) (hidle : m.stack (.worker c) = []) (hs : Turns m c m') :
    m'.Halted (g.note (.move (.worker c)) m m') := by
  obtain ⟨box, hboxes, hthere, hjoinable, -⟩ := exists_box_of_turns hs
  have hserves : m.serves = false → m'.serves = false := by
    rw [serves_eq_false, serves_eq_false, hboxes, PerContext.get_set]
    split
    · next he => exact fun hgone => (hthere (he ▸ hgone)).elim
    · exact id
  have hclaims : (m'.boxes.get .pipeline).joinable = (m.boxes.get .pipeline).joinable := by
    rw [hboxes, PerContext.get_set]
    split
    · next he => exact he ▸ hjoinable
    · rfl
  refine h.move hserves (fun hstop => ?_) (fun hself => ?_) (fun u frame below hframe => ?_)
    (fun hclaimed => ?_)
  · rw [sends_of_turns hs] at hstop
    cases hstop
  · cases hself
    exact serves_eq_true.mpr hthere
  · by_cases hu : u = .worker c
    · subst hu
      rcases stack_worker_of_turns hidle hs with ⟨call, hstack⟩ | hstack <;>
        cases hstack.symm.trans hframe
      trivial
    · rw [stack_of_turns hs hu] at hframe
      exact (h.placed u _ _ hframe).mono hserves (List.subset_append_left _ _)
        (List.subset_append_left _ _)
  · rcases h.claimed (hclaims.symm.trans hclaimed) with hgone | hself | ⟨u, hne, _, _, hjoining⟩
    · exact .inl (hserves hgone)
    · exact .inr (.inl (List.mem_append_left _ hself))
    · refine .inr (.inr ⟨u, hne, _, _, (stack_of_turns hs ?_).trans hjoining⟩)
      rintro rfl
      cases hidle.symm.trans hjoining

/-- The start of something on a thread outside. -/
lemma Halted.begin (h : m.Halted g) {n : Nat} (hidle : m.stack (.outside n) = []) (a : Action ν) :
    (m.begin n a).Halted g := by
  refine ⟨fun u frame below hframe => ?_, fun hclaimed => ?_, h.overlap, h.passed, h.first, h.ahead⟩
  · by_cases hu : u = .outside n
    · subst hu
      rcases stack_begin hidle a with hstack | hstack <;> cases hstack.symm.trans hframe
      trivial
    · rw [show (m.begin n a).stack u = m.stack u from stack_setStack_of_ne hu _] at hframe
      exact (h.placed u _ _ hframe).mono id (List.Subset.refl _) (List.Subset.refl _)
  · refine (h.claimed hclaimed).imp_right (Or.imp_right ?_)
    rintro ⟨u, hne, _, _, hjoining⟩
    refine ⟨u, hne, _, _, (stack_setStack_of_ne ?_ _).trans hjoining⟩
    rintro rfl
    cases hidle.symm.trans hjoining

/-- **Everything that happens** keeps it so. -/
theorem Halted.happens (h : m.Halted g) (hc : m.Chronicled g.toChronicle) {e : Event ν}
    (hs : m.happens e = some m') : m'.Halted (g.note e m m') := by
  cases hc.follows hs with
  | begin hidle a => exact h.begin hidle a
  | does hne hdoes => exact h.does hc hne hdoes
  | turns hidle hturns => exact h.turns hidle hturns

/-! ## Every run -/

/-- **The workers stop in turn**, unless somebody hurries. -/
structure InTurn (m : Machine ν) (g : Halting ν) : Prop where
  /-- Who goes past the pipeline's worker while that is there finds another who waits for its end,
  unless that worker has begun to stop the workers itself. -/
  waits : ∀ t, m.passes t = true → .worker .pipeline ∈ g.halts ∨ ∃ u, u ≠ t ∧ m.Waits u
  /-- Only who has gone past it orders the callback worker to stop while it is there; -/
  passed : ∀ t ∈ g.hurried, t ∈ g.passed
  /-- so nobody does if there is only one who stops the workers, and not the pipeline's worker. -/
  overlap : ∀ t ∈ g.hurried, t ∈ g.halts ∧
    (.worker .pipeline ∈ g.halts ∨ ∃ u ∈ g.halts, u ≠ t)
  /-- As long as nobody does, the callback worker is ordered to stop when the pipeline's worker is
  gone; -/
  first : g.hurried = [] → .stop ∈ g.commands .callback → (m.boxes.get .pipeline).phase = .exited
  /-- until then it takes everything; -/
  takes : g.hurried = [] → (m.boxes.get .pipeline).phase ≠ .exited →
    (m.boxes.get .callback).phase = .running
  /-- and when it is gone, all that the pipeline's worker has given it has run. -/
  served : g.hurried = [] → (m.boxes.get .callback).phase = .exited →
    ∀ call, (.worker .pipeline, .run call) ∈ g.sent .callback → ∃ (i : Nat) (r : Report),
      (g.begun .callback)[i]? = some call ∧ (g.ended .callback)[i]? = some r

lemma halted_start (names : String) (threads : Nat) :
    (start names threads : Machine ν).Halted {} := by
  refine ⟨fun t frame below hstack => ?_, ?_, ?_, ?_, ?_, ?_⟩
  · cases (stack_start names threads t).symm.trans hstack
  · rintro ⟨⟩
  · rintro t ⟨⟩
  · rintro t ⟨⟩
  · rintro ⟨⟩
  · rintro - call ⟨⟩

lemma halted_follow (names : String) (threads : Nat) (events : List (Event ν)) :
    (follow Halting.note (start names threads, {}) events).1.Chronicled
        (follow Halting.note (start names threads, {}) events).2.toChronicle ∧
      (follow Halting.note (start names threads, {}) events).1.Halted
        (follow Halting.note (start names threads, {}) events).2 := by
  refine runWith_induction (fun (m : Machine ν) g => m.Chronicled g.toChronicle ∧ m.Halted g) ?_
    ⟨chronicled_start names threads, halted_start names threads⟩
  rintro e - m g next ⟨hc, hh⟩ hs
  have hnote : (g.note e m next).toChronicle = g.toChronicle.note e m next := by
    cases e <;> rfl
  exact ⟨hnote ▸ hc.happens hs, hh.happens hc hs⟩

/-- **In every run the workers stop in turn**, unless somebody hurries; and nobody does who has not
found another who waits. -/
theorem inTurn_follow (names : String) (threads : Nat) (events : List (Event ν)) :
    (follow Halting.note (start names threads, {}) events).1.InTurn
      (follow Halting.note (start names threads, {}) events).2 := by
  have h := halted_follow names threads events
  generalize follow Halting.note (start names threads, {}) events = p at h
  obtain ⟨m, g⟩ := p
  obtain ⟨hc, hh⟩ := h
  have hfirst : g.hurried = [] → .stop ∈ g.commands .callback →
      (m.boxes.get .pipeline).phase = .exited := by
    intro hnone hstop
    by_contra hthere
    exact hh.stop_notMem (serves_eq_true.mpr hthere) hnone hstop
  refine ⟨fun t hpasses => (hh.overlap_of_passes hpasses).2, hh.passed,
    fun t ht => hh.overlap t (hh.passed t ht), hfirst, fun hnone hthere => ?_,
    fun hnone hexited call hcall => ?_⟩
  · by_contra hphase
    exact hthere (hfirst hnone ((hc.order .callback).eq_ahead hphase).1)
  · have hidle : m.stack (.worker .callback) = [] := by
      by_contra hne
      cases (hc.running .callback hne).symm.trans hexited
    obtain ⟨-, hall⟩ := (hc.order .callback).eq_ahead (by simp [hexited])
    have hmem : call ∈ g.begun .callback := hall ▸ hh.ahead hnone call hcall
    obtain ⟨i, hi, rfl⟩ := List.getElem_of_mem hmem
    have hlength : i < (g.ended .callback).length := hc.length_of_idle hidle ▸ hi
    exact ⟨i, _, List.getElem?_eq_getElem hi, List.getElem?_eq_getElem hlength⟩

/-- The pipeline's worker has taken a closure, and has not yet called the user's code, when two
threads stop the workers: the first waits for it, the second goes on. -/
def overtaking : List (Event Nat) :=
  [.begin 0 (.call .dropping none .pipeline [.call .dropping none .callback [.record 6]]),
    .move (.outside 0), .move (.outside 0), .move (.outside 0), .move (.worker .pipeline),
    .begin 0 .stop, .move (.outside 0), .move (.outside 0),
    .begin 1 .stop, .move (.outside 1), .move (.outside 1), .move (.outside 1),
    .move (.worker .pipeline), .move (.worker .callback), .move (.worker .callback)]

/-- **The second of two may hurry**: the callback worker is gone, without having run what the
pipeline's worker, which is still there, has given it. -/
theorem hurried_unserved :
    let r := follow Halting.note (start "" 2, {}) overtaking
    r.2.halts = [.outside 0, .outside 1] ∧ r.2.hurried = [.outside 1] ∧
      r.1.boxes.pipeline.phase = .running ∧ r.1.boxes.callback.phase = .exited ∧
      r.2.sent .callback
        = [(.outside 1, .stop), (.worker .pipeline, .run ⟨1, [.record 6]⟩)] ∧
      r.2.begun .callback = [] :=
  ⟨rfl, rfl, rfl, rfl, rfl, rfl⟩

end Machine

end DeviceLink.Dispatch
