import DeviceLink.Proofs.Stage.Deeds
import DeviceLink.Proofs.Stage.Watch

/-!
# Nobody enters the cell twice

The state of a stage lies in a cell: whoever enters has to be on the pipeline context, and nobody
may be inside.  The stage is inside while it calls a session or replaces one, and outside while the
chain has control, so the chain may come back into it.  Sessions and their factory only call
handlers.  A handler does not claim to be on any context, so what it reports becomes a job of its
own, and that job finds nobody inside.

* `Stage.panics_of_entered` — the cell is guarded.
* **`Guarded.ready_turn`** — a stretch of work leaves the cell as the next one needs it, and does
  not panic.
* `Activity.Guarded`, `Activity.caught` — who is inside; a panic that the chain catches.
* `Hosted`, `Hosted.Act`, `Hosted.run` — a stage with its handlers and its worker, and what may be
  done.
* **`cell_never_faults`** — no panic of the cell, in any run.
-/

namespace DeviceLink

variable {κ : Type}

/-! ## Stretches of work -/

namespace Stage

variable {s : Stage κ} {op : Operation κ}

/-- **The cell is guarded.**  An operation that comes while somebody is inside panics, unless it is
only passed on. -/
theorem panics_of_entered (hc : s.entered = true) (henable : ∀ f, op.request ≠ .enableFeature f)
    (hdisable : ∀ f, op.request ≠ .disableFeature f) :
    (s.run (.on .pipeline) op).next = .panic Context.pipeline.reentered := by
  have hinside : ∀ t : Turn κ, (s.inside t).next = .panic Context.pipeline.reentered := by
    intro t
    rw [inside, if_pos hc]
  have hcheck : (Origin.on .pipeline).check .pipeline = .ok () := rfl
  rw [run, hcheck]
  cases hr : op.request with
  | enableFeature f => exact (henable f hr).elim
  | disableFeature f => exact (hdisable f hr).elim
  | setConnectionArgs _ | setCredential _ | connect | reconnect | disconnect | publish _ _
  | subscribe _ | unsubscribe _ => exact hinside _

lemma ready_complete (hc : s.entered = false) (op : Operation κ) : (s.complete op).Ready :=
  ⟨trivial, hc⟩

lemma ready_setConnectionArgs (hc : s.entered = false) (args : ConnectionArgs) :
    (s.setConnectionArgs op args).Ready := by
  rw [setConnectionArgs, inside_eq hc]
  cases s.session <;> exact ⟨trivial, hc⟩

lemma ready_setCredential (hc : s.entered = false) (credential : Credential) :
    (s.setCredential op credential).Ready := by
  rw [setCredential, inside_eq hc]
  exact ready_complete (s := { s with credential := some credential }) hc op

lemma ready_startConnection (hc : s.entered = false) (aim : Aim) (op : Operation κ) :
    (s.startConnection aim op).Ready := by
  rw [startConnection, inside_eq hc]
  cases s.session with
  | none => exact ⟨trivial, by cases aim <;> exact hc⟩
  | some session => exact ⟨by cases aim <;> simp [Ask.Fits, Aim.slot, callFor], rfl⟩

lemma ready_supersede (hc : s.entered = false) (aim : Aim) (op : Operation κ)
    (left : List (Operation κ)) : (s.supersede aim op left).Ready := by
  cases left with
  | nil => exact ready_startConnection hc aim op
  | cons old left => exact ⟨trivial, hc⟩

lemma ready_runConnection (hc : s.entered = false) (aim : Aim) :
    (s.runConnection aim op).Ready := by
  rw [runConnection, inside_eq hc]
  exact ready_supersede (s := { s with activeConnect := none, activeDisconnect := none }) hc _ _ _

lemma ready_runRequest (hc : s.entered = false) {c : SessionCall} (hid : c.ackId? = some op.id)
    (text : String) : (s.runRequest op c text).Ready := by
  rw [runRequest, inside_eq hc]
  cases s.session with
  | none => exact ⟨trivial, hc⟩
  | some session => exact ⟨hid, rfl⟩

lemma ready_run (hc : s.entered = false) : (s.run (.on .pipeline) op).Ready := by
  have hcheck : (Origin.on .pipeline).check .pipeline = .ok () := rfl
  rw [run, hcheck]
  cases hr : op.request with
  | setConnectionArgs args => exact ready_setConnectionArgs hc args
  | setCredential credential => exact ready_setCredential hc credential
  | connect | reconnect | disconnect => exact ready_runConnection hc _
  | publish _ _ | subscribe _ | unsubscribe _ => exact ready_runRequest hc rfl _
  | enableFeature _ | disableFeature _ => exact ⟨trivial, hc⟩

lemma ready_report (hc : s.entered = false) (r : Report) : (s.report r).Ready := by
  cases r with
  | connected | disconnected _ | message _ _ => exact ⟨trivial, hc⟩
  | connectionFailed cause =>
      rw [report, connectionFailed, inside_eq hc]
      cases s.activeConnect <;> first | exact hc | exact ⟨trivial, hc⟩
  | acknowledged id outcome =>
      rw [report, acknowledged, inside_eq hc]
      cases s.awaiting? id with
      | none => exact hc
      | some op => cases outcome <;> exact ⟨trivial, hc⟩

lemma ready_abandonRest (hc : s.entered = false) (session : Option SessionId)
    (left : List (Operation κ)) : (s.abandonRest session left).Ready := by
  cases left with
  | nil => cases session <;> first | exact hc | exact ⟨trivial, hc⟩
  | cons op left => exact ⟨trivial, hc⟩

lemma ready_abandon (hc : s.entered = false) : (s.abandon (.on .pipeline)).Ready := by
  have hcheck : (Origin.on .pipeline).check .pipeline = .ok () := rfl
  rw [abandon, hcheck]
  simp only [inside_eq hc]
  exact ready_abandonRest (s := { s with
    session := none, activeConnect := none, activeDisconnect := none, awaitingAck := [] }) hc _ _

lemma ready_proceed {frame : Frame κ} {t : Turn κ} (hc : s.entered = frame.holdsCell)
    (h : s.proceed frame = some t) : t.Ready := by
  cases frame with
  | last =>
      cases h
      exact hc
  | superseding left aim op =>
      cases h
      exact ready_supersede hc aim op left
  | replacing op =>
      cases h
      exact ⟨trivial, rfl⟩
  | announced =>
      cases h
      rw [announced, inside_eq hc]
      cases s.activeConnect <;> first | exact hc | exact ⟨trivial, hc⟩
  | retired cause =>
      cases h
      rw [retired, inside_eq hc]
      cases s.activeDisconnect <;> first | exact hc | exact ⟨trivial, hc⟩
  | abandoning left session =>
      cases h
      exact ready_abandonRest hc session left
  | creating _ _ | starting _ | requesting _ => cases h

lemma ready_created {frame : Frame κ} {t : Turn κ} {result : Except Failure SessionId}
    (hc : s.entered = frame.holdsCell) (h : s.created result frame = some t) : t.Ready := by
  cases frame with
  | creating op args =>
      cases result with
      | error f =>
          cases h
          exact ⟨trivial, hc⟩
      | ok session =>
          cases h
          rw [inside_eq hc]
          cases s.session <;> first | exact ⟨trivial, hc⟩ | exact ⟨trivial, rfl⟩
  | last | superseding _ _ _ | replacing _ | starting _ | requesting _ | announced | retired _
  | abandoning _ _ => cases h

/-- The session has answered: the stage leaves the cell, whatever the answer is. -/
lemma ready_answered {frame : Frame κ} {t : Turn κ} {outcome : Outcome}
    (h : s.answered outcome frame = some t) : t.Ready := by
  cases frame with
  | starting slot =>
      cases outcome with
      | ok u =>
          cases h
          rfl
      | error f =>
          cases hop : s.slot slot <;> simp only [answered, hop] at h <;> cases h
          · rfl
          · exact ⟨trivial, by cases slot <;> rfl⟩
  | requesting id =>
      cases outcome with
      | ok u =>
          cases h
          rfl
      | error f =>
          cases hop : s.awaiting? id <;> simp only [answered, hop] at h <;> cases h
          · rfl
          · exact ⟨trivial, rfl⟩
  | last | superseding _ _ _ | creating _ _ | replacing _ | announced | retired _
  | abandoning _ _ => cases h

end Stage

/-! ## Who is inside -/

namespace Activity

variable {a a' : Activity κ} {m : Move κ} {traces : List (Trace κ)}

/-- **Who is inside the cell**: the innermost level, if its frame says so, and nobody else. -/
structure Guarded (a : Activity κ) : Prop where
  fits : ∀ l ∈ a.levels, l.1.Fits l.2
  cell : a.stage.entered = a.levels.head?.any (·.2.holdsCell)
  outer : ∀ l ∈ a.levels.tail, l.2.holdsCell = false

lemma guarded_new (name : String) : ({ stage := .new name } : Activity κ).Guarded :=
  ⟨List.forall_mem_nil _, rfl, List.forall_mem_nil _⟩

/-- While the worker or the chain has control, nobody is inside. -/
lemma Guarded.outside (h : a.Guarded) (ho : a.isOpen) :
    a.stage.entered = false ∧ ∀ l ∈ a.levels, l.2.holdsCell = false := by
  obtain ⟨s, levels⟩ := a
  cases levels with
  | nil => exact ⟨h.cell, List.forall_mem_nil _⟩
  | cons l below =>
      obtain ⟨ask, frame⟩ := l
      have hframe : frame.holdsCell = false := by
        cases ask with
        | chain c => exact holdsCell_of_chain (h.fits _ List.mem_cons_self)
        | create _ | call _ _ | release _ => cases ho
      refine ⟨h.cell.trans hframe, fun l hl => ?_⟩
      rcases List.mem_cons.mp hl with rfl | hl
      · exact hframe
      · exact h.outer l hl

lemma Guarded.beneath (h : a.Guarded) (hp : a.Permits m) :
    ∀ l ∈ a.beneath m, l.1.Fits l.2 ∧ l.2.holdsCell = false := by
  intro l hl
  cases m with
  | enter _ _ | abandon _ => exact ⟨h.fits l hl, (h.outside hp.2).2 l hl⟩
  | deliver r =>
      have hnil : a.levels = [] := hp
      rw [Activity.beneath, hnil] at hl
      cases hl
  | proceed | created _ | answered _ => exact ⟨h.fits l (List.mem_of_mem_tail hl), h.outer l hl⟩
  | panic _ => cases hl

/-- **A stretch of work does not panic**, and leaves the cell as the next one needs it. -/
theorem Guarded.ready_turn (h : a.Guarded) (hp : a.Permits m) {t : Turn κ}
    (ht : a.turn? m = some t) : t.Ready := by
  -- whoever returns is the innermost level
  have hinner : ∀ l, a.levels.head? = some l → a.stage.entered = l.2.holdsCell := by
    intro l hl
    rw [h.cell, hl]
    rfl
  cases m with
  | enter o op =>
      obtain ⟨rfl, ho⟩ := hp
      cases ht
      exact Stage.ready_run (h.outside ho).1
  | deliver r =>
      cases ht
      refine Stage.ready_report ?_ r
      have hnil : a.levels = [] := hp
      rw [h.cell, hnil]
      rfl
  | abandon o =>
      obtain ⟨rfl, ho⟩ := hp
      cases ht
      exact Stage.ready_abandon (h.outside ho).1
  | proceed =>
      obtain ⟨l, hl, ht⟩ := Option.bind_eq_some_iff.mp ht
      exact Stage.ready_proceed (hinner l hl) ht
  | created result =>
      obtain ⟨l, hl, ht⟩ := Option.bind_eq_some_iff.mp ht
      exact Stage.ready_created (hinner l hl) ht
  | answered outcome =>
      obtain ⟨l, -, ht⟩ := Option.bind_eq_some_iff.mp ht
      exact Stage.ready_answered ht
  | panic message => cases ht

lemma guarded_settle {t : Turn κ} (h : t.Ready) {below : List (Ask κ × Frame κ)}
    (hbelow : ∀ l ∈ below, l.1.Fits l.2 ∧ l.2.holdsCell = false) : (settle below t).1.Guarded := by
  rw [Turn.Ready] at h
  rw [settle]
  cases hn : t.next with
  | done =>
      simp only [hn] at h
      refine ⟨fun l hl => (hbelow l hl).1, ?_,
        fun l hl => (hbelow l (List.mem_of_mem_tail hl)).2⟩
      cases below with
      | nil => exact h
      | cons l rest => exact h.trans (hbelow l List.mem_cons_self).2.symm
  | ask ask frame =>
      simp only [hn] at h
      refine ⟨fun l hl => ?_, h.2, fun l hl => (hbelow l hl).2⟩
      rcases List.mem_cons.mp hl with rfl | hl
      · exact h.1
      · exact (hbelow l hl).1
  | panic message =>
      simp only [hn] at h

/-! ### Panics -/

/-- Whoever is inside leaves the cell in a panic that unwinds the innermost level. -/
lemma Guarded.entered_unwind (h : a.Guarded) (message : String) {inner : List (Ask κ × Frame κ)}
    (hinner : inner.head? = a.levels.head?) :
    (unwind a.stage message inner).1.stage.entered = false := by
  have hcell := h.cell
  rw [← hinner] at hcell
  cases inner with
  | nil => simpa [unwind] using hcell
  | cons l rest =>
      have hl : a.stage.entered = l.2.holdsCell := hcell
      cases hh : l.2.holdsCell <;> simp [unwind, hl, hh]

/-- **The chain catches a panic** that was raised some levels further in; those are unwound. -/
def caught (a : Activity κ) (message : String) (depth : Nat) :
    Option (Activity κ × List (Trace κ)) :=
  match a.levels.drop depth with
  | (.chain c, frame) :: outer =>
    let (inner, traces) := unwind a.stage message (a.levels.take depth)
    some ({ inner with levels := (.chain c, frame) :: outer }, traces)
  | _ => none

lemma caught_eq {message : String} {depth : Nat} (hs : a.caught message depth = some (a', traces)) :
    ∃ c frame outer, a.levels.drop depth = (.chain c, frame) :: outer ∧
      a' = { (unwind a.stage message (a.levels.take depth)).1 with
        levels := (.chain c, frame) :: outer } ∧
      traces = (unwind a.stage message (a.levels.take depth)).2 := by
  rw [caught] at hs
  split at hs
  · next c frame outer hdrop =>
      cases hs
      exact ⟨c, frame, outer, hdrop, rfl, rfl⟩
  · cases hs

lemma Guarded.caught (h : a.Guarded) {message : String} {depth : Nat}
    (hs : a.caught message depth = some (a', traces)) : a'.Guarded := by
  obtain ⟨c, frame, outer, hdrop, rfl, -⟩ := caught_eq hs
  have hmem : ∀ l ∈ (.chain c, frame) :: outer, l ∈ a.levels :=
    fun l hl => List.mem_of_mem_drop (hdrop ▸ hl)
  have hframe : frame.holdsCell = false :=
    holdsCell_of_chain (h.fits _ (hmem _ List.mem_cons_self))
  refine ⟨fun l hl => h.fits l (hmem l hl), Eq.trans ?_ hframe.symm, fun l hl => h.outer l ?_⟩
  · rcases Nat.eq_zero_or_pos depth with rfl | hdepth
    · -- the chain catches its own panic, and nobody is further in
      have hcell := h.cell
      rw [show a.levels = (.chain c, frame) :: outer from hdrop] at hcell
      have hnobody : a.stage.entered = false := hcell.trans hframe
      simp [unwind, hnobody]
    · refine h.entered_unwind message ?_
      rw [List.head?_take, if_neg hdepth.ne']
  · have htail : a.levels.tail.drop depth = outer := by
      rw [List.drop_tail, ← List.drop_drop, hdrop]
      rfl
    exact List.mem_of_mem_drop (htail ▸ hl)

/-- A stretch of work that does not panic shows no panic. -/
lemma panic_notMem_settle {t : Turn κ} (hquiet : t.traces.all Trace.remarks) (hready : t.Ready)
    (below : List (Ask κ × Frame κ)) (text : String) : .panic text ∉ (settle below t).2 := by
  have hnone : .panic text ∉ t.traces := by
    intro hmem
    cases List.all_eq_true.mp hquiet _ hmem
  rw [Turn.Ready] at hready
  rw [settle]
  cases hn : t.next with
  | done => exact hnone
  | ask ask frame =>
      intro hmem
      rcases List.mem_append.mp hmem with hmem | hmem
      · exact hnone hmem
      · cases List.mem_singleton.mp hmem
  | panic message =>
      rw [hn] at hready
      exact hready.elim

lemma eq_of_panic_mem_unwind {s : Stage κ} {message text : String} {levels : List (Ask κ × Frame κ)}
    (h : .panic text ∈ (unwind s message levels).2) : text = message := by
  rcases of_mem_unwind h with ⟨session, he⟩ | he <;> cases he
  rfl

/-- **A permitted move** leaves nobody inside but the innermost level, and shows no panic but the
one that it raises. -/
theorem Guarded.step (h : a.Guarded) (hp : a.Permits m) (hs : a.step m = some (a', traces)) :
    a'.Guarded ∧ ∀ text, .panic text ∈ traces → m = .panic text := by
  rcases step_cases hs with ⟨message, rfl, hr⟩ | ⟨t, ht, hr⟩
  · obtain ⟨rfl, rfl⟩ := Prod.mk.inj hr
    refine ⟨⟨List.forall_mem_nil _, h.entered_unwind message rfl, List.forall_mem_nil _⟩, ?_⟩
    intro text htext
    rw [eq_of_panic_mem_unwind (s := a.stage) htext]
  · obtain ⟨rfl, rfl⟩ := Prod.mk.inj (hr.trans (Prod.mk.eta).symm)
    have hready := h.ready_turn hp ht
    refine ⟨guarded_settle hready (h.beneath hp), fun text htext => ?_⟩
    exact (panic_notMem_settle (does_turn ht).quiet hready _ text htext).elim

end Activity

/-! ## Handlers and the worker -/

/-- A stage, and what its handlers have been told and the worker has not come to. -/
structure Hosted (κ : Type) where
  activity : Activity κ
  waiting : List Report := []

/-- One thing that is done to a stage. -/
inductive Hosted.Act (κ : Type) where
  /-- Somebody calls a handler: a session or a factory at work, one on its way out, or a thread of
  their own. -/
  | call (r : Report)
  /-- The worker takes a report. -/
  | take (r : Report)
  /-- Whoever has control makes a move. -/
  | move (m : Move κ)
  /-- Whoever has control panics, and the chain catches that some levels further out. -/
  | catches (message : String) (depth : Nat)

/-- The move brings a report from nowhere. -/
def Move.delivers : Move κ → Bool
  | deliver _ => true
  | enter _ _ | abandon _ | proceed | created _ | answered _ | panic _ => false

/-- The panic that is raised. -/
def Hosted.Act.raised? : Hosted.Act κ → Option String
  | move (.panic message) | catches message _ => some message
  | move _ | call _ | take _ => none

namespace Hosted

variable {h h' : Hosted κ} {x : Act κ} {traces : List (Trace κ)}

/-- **A report is dispatched** to the pipeline's worker: it is dealt with on the spot if whoever
dispatches it claims to be there, and is a job of its own otherwise. -/
def dispatch (h : Hosted κ) (o : Origin) (r : Report) : Hosted κ × List (Trace κ) :=
  match o.check .pipeline with
  | .ok () =>
    let (activity, traces) := Activity.settle h.activity.levels (h.activity.stage.report r)
    ({ h with activity }, traces)
  | .error _ => ({ h with waiting := h.waiting ++ [r] }, [])

/-- **One thing is done**, with what can be seen of it; none if it cannot or may not be done.
Handlers claim no context; the worker takes reports in their order, when nothing is handed over;
operations, and the order to give everything up, come from the worker or the chain, on the pipeline
context. -/
def act (h : Hosted κ) : Act κ → Option (Hosted κ × List (Trace κ))
  | .call r => some (h.dispatch .external r)
  | .take r =>
    if h.activity.levels = [] ∧ h.waiting.head? = some r then
      some ({ h with waiting := h.waiting.tail }.dispatch (.on .pipeline) r)
    else none
  | .move m =>
    if h.activity.Permits m ∧ m.delivers = false then
      (h.activity.step m).map fun r => ({ h with activity := r.1 }, r.2)
    else none
  | .catches message depth =>
    (h.activity.caught message depth).map fun r => ({ h with activity := r.1 }, r.2)

/-- A run: whatever is done, one after the other, each with what can be seen of it.  What cannot or
may not be done is passed over. -/
def run (h : Hosted κ) : List (Act κ) → Hosted κ × List (Act κ × List (Trace κ)) :=
  runWith act Prod.fst (fun x _ r course => course ++ [(x, r.2)]) (h, [])

/-- The reports that handlers were told, in their order. -/
def called (course : List (Act κ × List (Trace κ))) : List Report :=
  course.filterMap fun
    | (.call r, _) => some r
    | (.take _, _) | (.move _, _) | (.catches _ _, _) => none

/-- The reports that the worker has taken, in their order. -/
def taken (course : List (Act κ × List (Trace κ))) : List Report :=
  course.filterMap fun
    | (.take r, _) => some r
    | (.call _, _) | (.move _, _) | (.catches _ _, _) => none

/-- **The cell does not fault**, whatever is done next. -/
structure Sheltered (h : Hosted κ) : Prop where
  /-- While the worker or the chain has control, nobody is inside. -/
  outside : h.activity.isOpen → h.activity.stage.entered = false
  /-- Every panic is one that foreign code raises. -/
  panics : ∀ x next traces, h.act x = some (next, traces) →
    ∀ text, .panic text ∈ traces → x.raised? = some text
  /-- A handler that is called leaves the stage as it is. -/
  calls : ∀ r next traces, h.act (.call r) = some (next, traces) →
    next.activity = h.activity ∧ traces = []
  /-- A report takes effect in a job of its own: nothing is handed over, and nobody is inside. -/
  takes : ∀ r next traces, h.act (.take r) = some (next, traces) →
    h.activity.levels = [] ∧ h.activity.stage.entered = false

/-- What the worker does with a report is a move of the stage. -/
lemma act_take {r : Report} (hs : h.act (.take r) = some (h', traces)) :
    h.activity.levels = [] ∧ h.waiting = r :: h'.waiting ∧
      h.activity.step (.deliver r) = some (h'.activity, traces) := by
  simp only [act] at hs
  split at hs
  · next hc =>
      cases hs
      obtain ⟨hnil, hhead⟩ := hc
      exact ⟨hnil, List.eq_cons_of_mem_head? (Option.mem_def.mpr hhead), rfl⟩
  · cases hs

/-- **Whatever is done** leaves nobody inside but the innermost level, shows no panic but the one
that is raised, and keeps the reports in their order. -/
theorem guarded_act (hg : h.activity.Guarded) (hs : h.act x = some (h', traces)) :
    h'.activity.Guarded ∧ (∀ text, .panic text ∈ traces → x.raised? = some text) ∧
      h.waiting ++ called [(x, traces)] = taken [(x, traces)] ++ h'.waiting := by
  cases x with
  | call r =>
      cases hs
      exact ⟨hg, by simp, rfl⟩
  | take r =>
      obtain ⟨hnil, hwaiting, hstep⟩ := act_take hs
      obtain ⟨hguarded, hpanics⟩ := hg.step (m := .deliver r) hnil hstep
      refine ⟨hguarded, fun text htext => ?_, by rw [hwaiting]; exact List.append_nil _⟩
      cases hpanics text htext
  | move m =>
      simp only [act] at hs
      split at hs
      · next hc =>
          obtain ⟨⟨a, shown⟩, hstep, hr⟩ := Option.map_eq_some_iff.mp hs
          cases hr
          obtain ⟨hguarded, hpanics⟩ := hg.step hc.1 hstep
          refine ⟨hguarded, fun text htext => ?_, List.append_nil _⟩
          rw [hpanics text htext]
          rfl
      · cases hs
  | catches message depth =>
      obtain ⟨⟨a, shown⟩, hcaught, hr⟩ := Option.map_eq_some_iff.mp hs
      cases hr
      refine ⟨hg.caught hcaught, fun text htext => ?_, List.append_nil _⟩
      obtain ⟨c, frame, outer, -, -, rfl⟩ := Activity.caught_eq hcaught
      rw [Activity.eq_of_panic_mem_unwind (s := h.activity.stage) htext]
      rfl

lemma sheltered_of_guarded (hg : h.activity.Guarded) : h.Sheltered where
  outside ho := (hg.outside ho).1
  panics _ _ _ hs := (guarded_act hg hs).2.1
  calls r next traces hs := by
    cases hs
    exact ⟨rfl, rfl⟩
  takes r next traces hs := by
    obtain ⟨hnil, -, -⟩ := act_take hs
    refine ⟨hnil, ?_⟩
    rw [hg.cell, hnil]
    rfl

lemma called_append (course more : List (Act κ × List (Trace κ))) :
    called (course ++ more) = called course ++ called more :=
  List.filterMap_append

lemma taken_append (course more : List (Act κ × List (Trace κ))) :
    taken (course ++ more) = taken course ++ taken more :=
  List.filterMap_append

lemma guarded_run (hg : h.activity.Guarded) (acts : List (Act κ)) :
    (h.run acts).1.activity.Guarded ∧
      h.waiting ++ called (h.run acts).2 = taken (h.run acts).2 ++ (h.run acts).1.waiting := by
  refine runWith_induction (fun (k : Hosted κ) course => k.activity.Guarded ∧
    h.waiting ++ called course = taken course ++ k.waiting) ?_ ⟨hg, List.append_nil _⟩
  rintro x - k course ⟨next, traces⟩ ⟨hk, hcourse⟩ hs
  obtain ⟨hnext, -, hone⟩ := guarded_act hk hs
  refine ⟨hnext, ?_⟩
  calc h.waiting ++ called (course ++ [(x, traces)])
    _ = taken course ++ (k.waiting ++ called [(x, traces)]) := by
      rw [called_append, ← List.append_assoc, hcourse, List.append_assoc]
    _ = taken (course ++ [(x, traces)]) ++ next.waiting := by
      rw [hone, taken_append, List.append_assoc]

/-- **The cell never faults.**  The chain may come back into the stage whenever it has control, to
any depth, and may catch panics; handlers may be called at any time, also from inside whatever is
handed over.  Still no panic can be seen but those that foreign code raises, and each report takes
effect in a job of its own, in the order in which handlers were called. -/
theorem cell_never_faults (name : String) (acts : List (Act κ)) :
    let r := ({ activity := { stage := .new name } } : Hosted κ).run acts
    r.1.Sheltered ∧ called r.2 = taken r.2 ++ r.1.waiting := by
  obtain ⟨hguarded, hreports⟩ :=
    guarded_run (h := { activity := { stage := .new name } }) (Activity.guarded_new name) acts
  exact ⟨sheltered_of_guarded hguarded, hreports⟩

/-- A handler that claimed to be on the pipeline context would fault when the session it is called
from is at work. -/
example :
    let connecting : List (Act Unit) :=
      [.move (.enter (.on .pipeline)
          ⟨1, .setConnectionArgs ⟨"hub", "device", "id", none⟩, none, none⟩),
        .move (.created (.ok 0)), .move .proceed,
        .move (.enter (.on .pipeline) ⟨2, .connect, none, none⟩)]
    let h := (({ activity := { stage := .new "mqtt" } } : Hosted Unit).run connecting).1
    (h.dispatch (.on .pipeline) (.acknowledged 1 (.ok ()))).2
        = [.panic Context.pipeline.reentered] ∧
      (h.dispatch .external (.acknowledged 1 (.ok ()))).2 = [] := by
  decide

end Hosted

end DeviceLink
