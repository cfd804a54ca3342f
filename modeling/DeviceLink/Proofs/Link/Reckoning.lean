import DeviceLink.Proofs.Link.Docket

/-!
# No failure is lost or doubled

The docket of a run is held against the link.  Whatever was made still waits at the link, or has
come to where it stays; the sink has been told just what the docket says, and so have callbacks.

* `Docket.poured`, `Docket.culprits` — what the sink is told, and whose panics those are.
* `Docket.work_induction` — what the entries of one step of the pipeline's worker keep.
* `Link.tidings`, `Link.unsettled` — the failures that are still under way.
* `Link.Kempt` — the link is in shape for failures; **`Kempt.pursues`** — it stays so.
* **`carries_work`**, **`sink_work`**, **`called_work`**, **`attended_work`** — what a step of the
  pipeline's worker does with failures, with the sink, with callbacks and with requests.
* `Link.Reckoned` — the docket and the link agree; **`Reckoned.pursues`** — they go on to.
* **`failures_settle`** — no failure is lost or doubled, in any run.
-/

namespace DeviceLink

open Dispatch

variable {κ ω ε : Type}

/-! ## What the docket says of sink and callbacks -/

/-- The piece of the user's code that has panicked. -/
def Sunk.culprit? : Sunk κ → Option (UserCall κ)
  | panic c _ => some c
  | alone _ | outcome _ _ _ => none

/-- What nobody waits for in a move of a stage. -/
def Activity.spills (a : Activity κ) (m : Move κ) : List Failure :=
  match a.step m with
  | none => []
  | some (_, traces) => traces.filterMap Trace.unhandled?

/-- The failure with which a job comes to the pipeline's worker. -/
def Job.failure? : Job κ → Option Failure
  | report r => r.failure?
  | run _ | abandon => none

namespace Docket

variable {W : World ω ε} {l : Link κ ω}

/-- The pieces of the user's code whose panics are recorded. -/
def culprits (g : Docket κ) : List (UserCall κ) := g.sunk.filterMap Sunk.culprit?

/-- What the sink is told. -/
def poured (g : Docket κ) : List Failure := g.sunk.map fun s => s.charge.2

lemma culprits_finish (g : Docket κ) (source : Source) (op : Operation κ) :
    (g.finish source op).culprits = g.culprits := by
  have hnone : ((Root.spilt (Root.complete op)).map (Sunk.outcome source op)).filterMap
      Sunk.culprit? = [] := by
    rw [List.filterMap_map, List.filterMap_eq_nil_iff]
    exact fun f _ => rfl
  rw [culprits, finish, List.filterMap_append, hnone, List.append_nil]
  rfl

lemma culprits_take (r : Root) (g : Docket κ) (c : ChainCall κ) :
    (g.take r c).culprits = g.culprits := by
  cases c with
  | complete op => exact culprits_finish g _ op
  | pass op => exact culprits_finish _ .root _
  | event _ | connected | disconnected => rfl

lemma culprits_move (g : Docket κ) (a : Activity κ) (m : Move κ) :
    (g.move a m).culprits = g.culprits := by
  rw [move]
  cases a.step m with
  | none => rfl
  | some r =>
      have hnone : ((r.2.filterMap Trace.unhandled?).map (Sunk.alone : Failure → Sunk κ)).filterMap
          Sunk.culprit? = [] := by
        rw [List.filterMap_map, List.filterMap_eq_nil_iff]
        exact fun f _ => rfl
      simp only [culprits, List.filterMap_append, hnone, List.append_nil]

lemma called_take (r : Root) (g : Docket κ) (c : ChainCall κ) :
    (g.take r c).called.map Prod.snd
      = g.called.map Prod.snd ++ Link.calls (r.handle c).2 := by
  have hcalls : ∀ (called : List (Source × UserCall κ)) (source : Source) (cs : List (UserCall κ)),
      (called ++ cs.map (source, ·)).map Prod.snd = called.map Prod.snd ++ cs := by
    intro called source cs
    rw [List.map_append, List.map_map]
    exact congrArg _ (List.map_id cs)
  cases c with
  | complete op => exact hcalls _ g.source _
  | pass op => exact hcalls _ .root _
  | event e => exact hcalls _ .root _
  | connected | disconnected =>
      simp only [take, Root.handle, Root.publish, Root.changeLines]
      split <;> exact (List.append_nil _).symm

/-- A move of the stage tells no callback anything, and begins none. -/
lemma told_move (g : Docket κ) (a : Activity κ) (m : Move κ) :
    (g.move a m).called = g.called ∧ (g.move a m).begun = g.begun := by
  rw [move]
  cases a.step m <;> exact ⟨rfl, rfl⟩

/-- Whatever the entries of one step of the pipeline's worker keep, one after the other. -/
lemma work_induction (P : Docket κ → Prop) (hproduce : ∀ g fs, P g → P (g.produce fs))
    (hmove : ∀ g m, P g → P (g.move l.activity m))
    (htake : ∀ g c, l.activity.asked? = some (.chain c) → P g → P (g.take l.root c))
    (h : P g) : P (g.work W l) := by
  rw [work]
  cases hask : l.activity.asked? with
  | none =>
      cases l.inbox.turn with
      | job job rest => exact hmove _ _ h
      | none | stop _ | exit _ _ => exact h
  | some ask =>
      cases ask with
      | chain c => exact hmove _ _ (htake _ c hask h)
      | create args | release session => exact hmove _ _ (hproduce _ _ h)
      | call session c =>
          rcases hcall : W.model.step l.world session c with ⟨_ | answer, reports, world⟩ <;>
            simp only [hcall]
          · exact hproduce _ _ h
          · exact hmove _ _ (hproduce _ _ (hproduce _ _ h))

/-! ### One step of the pipeline's worker, case by case -/

section Work

variable {frame : Frame κ} {session : SessionId} {c : SessionCall} {reports : List Report}
  {world : ω}

lemma work_chain (g : Docket κ) {c : ChainCall κ}
    (hlevels : l.activity.levels = [(.chain c, frame)]) :
    g.work W l = (g.take l.root c).move l.activity .proceed := by
  rw [work, Activity.asked?_of_levels hlevels]

lemma work_create (g : Docket κ) {args : ConnectionArgs}
    (hlevels : l.activity.levels = [(.create args, frame)]) :
    g.work W l =
      let m : Move κ := .created (W.model.create l.world args).1
      (g.produce m.failure?.toList).move l.activity m := by
  rw [work, Activity.asked?_of_levels hlevels]

lemma work_call (g : Docket κ) (hlevels : l.activity.levels = [(.call session c, frame)])
    (hcall : W.model.step l.world session c = (none, reports, world)) :
    g.work W l = g.produce (reports.filterMap Report.failure?) := by
  rw [work, Activity.asked?_of_levels hlevels]
  simp only [hcall]

lemma work_answer (g : Docket κ) {answer : Answer}
    (hlevels : l.activity.levels = [(.call session c, frame)])
    (hcall : W.model.step l.world session c = (some answer, reports, world)) :
    g.work W l =
      let m : Move κ := Link.ended answer
      ((g.produce (reports.filterMap Report.failure?)).produce m.failure?.toList).move
        l.activity m := by
  rw [work, Activity.asked?_of_levels hlevels]
  simp only [hcall]

lemma work_job (g : Docket κ) (h : l.inbox.Serving) {job : Job κ} {rest : List (Command (Job κ))}
    (hlevels : l.activity.levels = []) (hqueue : l.inbox.queue = .run job :: rest) :
    g.work W l = g.move l.activity (Link.start job) := by
  rw [work, Activity.asked?_of_nil hlevels]
  rcases h.turn_cases with ⟨-, hnil⟩ | ⟨job', rest', hnext, hturn, -⟩
  · cases hqueue.symm.trans hnil
  · cases hqueue.symm.trans hnext
    simp only [hturn]

end Work

/-- A step of the pipeline's worker tells callbacks nothing, but where the root takes what it is
handed. -/
lemma called_work_of_quiet (g : Docket κ) (hquiet : ∀ c, l.activity.asked? ≠ some (.chain c)) :
    (g.work W l).called = g.called :=
  work_induction (fun g' => g'.called = g.called) (fun _ _ => id)
    (fun g' m => (told_move g' l.activity m).1.trans) (fun _ c hask => (hquiet c hask).elim) rfl

lemma begun_work (g : Docket κ) (l : Link κ ω) : (g.work W l).begun = g.begun :=
  work_induction (fun g' => g'.begun = g.begun) (fun _ _ => id)
    (fun g' m => (told_move g' l.activity m).2.trans)
    (fun g' c _ => (show (g'.take l.root c).begun = g'.begun by cases c <;> rfl).trans) rfl

/-- A step of the pipeline's worker records no panic of the user's code. -/
lemma culprits_work (g : Docket κ) (l : Link κ ω) : (g.work W l).culprits = g.culprits :=
  work_induction (fun g' => g'.culprits = g.culprits) (fun _ _ => id)
    (fun g' m => (culprits_move g' l.activity m).trans)
    (fun g' c _ => (culprits_take l.root g' c).trans) rfl

lemma poured_take (r : Root) (g : Docket κ) (c : ChainCall κ) :
    (g.take r c).poured = g.poured ++ Root.spilt (r.handle c).2 := by
  have hfinish : ∀ (g : Docket κ) (source : Source) (op : Operation κ),
      (g.finish source op).poured = g.poured ++ Root.spilt (Root.complete op) := by
    intro g source op
    rw [poured, finish, List.map_append, List.map_map]
    exact congrArg _ (List.map_id _)
  cases c with
  | complete op => exact hfinish g _ op
  | pass op => exact hfinish _ .root _
  | event e =>
      simp only [take, Root.handle, Root.event]
      split <;> exact (List.append_nil _).symm
  | connected | disconnected =>
      simp only [take, Root.handle, Root.publish, Root.changeLines]
      split <;> exact (List.append_nil _).symm

lemma poured_move (g : Docket κ) (a : Activity κ) (m : Move κ) :
    (g.move a m).poured = g.poured ++ a.spills m := by
  rw [move, Activity.spills]
  cases a.step m with
  | none => exact (List.append_nil _).symm
  | some r =>
      simp only [poured, List.map_append, List.map_map]
      exact congrArg _ (List.map_id _)

end Docket

/-! ## What the sink is told -/

namespace Link

variable {W : World ω ε} {M : SessionModel ω} {l l' : Link κ ω} {g : Docket κ}

lemma sink_happen (l : Link κ ω) (reports : List Report) (world : ω) :
    (l.happen reports world).sink = l.sink := by
  rw [happen_eq_offer]

lemma sink_release (M : SessionModel ω) (l : Link κ ω) (session : SessionId) :
    (l.release M session).sink = l.sink := sink_happen l _ _

lemma activity_release (M : SessionModel ω) (l : Link κ ω) (session : SessionId) :
    (l.release M session).activity = l.activity := by
  simp only [release, happen_eq_offer]

lemma sink_foldl_effect (effects : List (RootEffect κ)) (l : Link κ ω) :
    (effects.foldl effect l).sink = (Root.spilt effects).foldl Unhandled.report l.sink := by
  induction effects generalizing l with
  | nil => rfl
  | cons e rest ih =>
      rw [List.foldl_cons, ih]
      cases e <;> rfl

lemma sink_foldl_notice (M : SessionModel ω) (traces : List (Trace κ)) (l : Link κ ω) :
    (traces.foldl (notice M) l).sink
      = (traces.filterMap Trace.unhandled?).foldl Unhandled.report l.sink := by
  induction traces generalizing l with
  | nil => rfl
  | cons trace rest ih =>
      rw [List.foldl_cons, ih]
      cases trace with
      | gone session => rw [notice, sink_release]; rfl
      | panic message =>
          obtain ⟨_, heq⟩ := l.exists_notice_panic M message
          rw [heq]
          rfl
      | log _ | unhandled _ | ask _ => rfl

lemma sink_move (M : SessionModel ω) (l : Link κ ω) (m : Move κ) :
    (l.move M m).sink = (l.activity.spills m).foldl Unhandled.report l.sink := by
  rw [move, Activity.spills]
  cases l.activity.step m with
  | none => rfl
  | some r => exact sink_foldl_notice M r.2 _

/-- **The sink is told what the docket says**, in every step of the pipeline's worker. -/
theorem sink_work {u : Unhandled} (hsink : l.sink = g.poured.foldl Unhandled.report u)
    (hs : l.pipelineStep W.model = some l') :
    l'.sink = (g.work W l).poured.foldl Unhandled.report u := by
  have hmove : ∀ (k : Link κ ω) (g : Docket κ) (m : Move κ), k.activity = l.activity →
      k.sink = g.poured.foldl Unhandled.report u →
      (k.move W.model m).sink = (g.move l.activity m).poured.foldl Unhandled.report u := by
    intro k g m hactivity hk
    rw [sink_move, Docket.poured_move, List.foldl_append, hactivity, hk]
  -- the inversion of a step says that there is a sink then, not which one
  rw [pipelineStep] at hs
  rw [Docket.work]
  cases hask : l.activity.asked? with
  | none =>
      simp only [hask] at hs ⊢
      cases hturn : l.inbox.turn with
      | none =>
          rw [hturn] at hs
          cases hs
      | job job rest =>
          simp only [hturn, Option.some.injEq] at hs ⊢
          rw [← hs]
          exact hmove _ g _ rfl hsink
      | stop rest | exit dropped rest =>
          simp only [hturn, Option.some.injEq] at hs ⊢
          rw [← hs]
          exact hsink
  | some ask =>
      simp only [hask] at hs ⊢
      cases ask with
      | chain c =>
          simp only [answer, Option.some.injEq] at hs
          rw [← hs]
          refine hmove _ _ .proceed ?_ ?_
          · obtain ⟨log, sink, heff⟩ :=
              exists_foldl_effect (l.root.handle c).2 { l with root := (l.root.handle c).1 }
            rw [heff]
          · rw [sink_foldl_effect, Docket.poured_take, List.foldl_append, ← hsink]
      | create args =>
          simp only [answer, Option.some.injEq] at hs
          rw [← hs]
          exact hmove _ _ _ rfl hsink
      | call session c =>
          rcases hcall : W.model.step l.world session c with ⟨_ | ended', reports, world⟩
          · simp only [answer, hcall, Option.map_none, Option.some.injEq] at hs ⊢
            rw [← hs, sink_happen]
            exact hsink
          · simp only [answer, hcall, Option.map_some, Option.some.injEq] at hs ⊢
            rw [← hs]
            exact hmove _ _ _ (by rw [happen_eq_offer]) ((sink_happen l _ _).trans hsink)
      | release session =>
          simp only [answer, Option.some.injEq] at hs
          rw [← hs]
          exact hmove _ _ .proceed (activity_release W.model l session)
            ((sink_release W.model l session).trans hsink)

/-! ## What is still under way -/

/-- The failures that wait for the pipeline's worker. -/
def tidings (l : Link κ ω) : List Failure :=
  (Mailbox.jobs l.inbox.queue).filterMap Job.failure?

/-- **The failures that are still under way.** -/
def unsettled (l : Link κ ω) (g : Docket κ) : Multiset Charge :=
  ↑(l.tidings.map (Source.session, ·)) + g.held l.activity

lemma tidings_of_reports {reports : List Report}
    (hinbox : l'.inbox = l.inbox.put (reports.map Job.report)) :
    l'.tidings = l.tidings ++ reports.filterMap Report.failure? := by
  rw [tidings, hinbox, Mailbox.jobs_put, List.filterMap_append, List.filterMap_map]
  rfl

/-- The failures that a session reports wait then. -/
lemma carries_of_reports {g' : Docket κ} {reports : List Report}
    (hinbox : l'.inbox = l.inbox.put (reports.map Job.report))
    (h : g.Carries g' (g.held l.activity)
      (↑((reports.filterMap Report.failure?).map (Source.session, ·)) + g'.held l'.activity)) :
    g.Carries g' (l.unsettled g) (l'.unsettled g') := by
  rw [unsettled, unsettled, tidings_of_reports hinbox, List.map_append, ← Multiset.coe_add,
    add_assoc]
  exact h.add _

lemma tidings_of_job {job : Job κ} {rest : List (Command (Job κ))}
    (hqueue : l.inbox.queue = .run job :: rest) :
    l.tidings = job.failure?.toList ++ (Mailbox.jobs rest).filterMap Job.failure? := by
  have hjobs : Mailbox.jobs (.run job :: rest) = job :: Mailbox.jobs rest := rfl
  rw [tidings, hqueue, hjobs, List.filterMap_cons]
  cases job.failure? <;> rfl

lemma held_of_nil (g : Docket κ) {a : Activity κ} (hlevels : a.levels = []) : g.held a = 0 := by
  rw [Docket.held, Activity.cause?, Activity.failure?, Activity.frame?, Activity.asked?, hlevels]
  rfl

lemma held_of_levels (g : Docket κ) {a : Activity κ} {ask : Ask κ} {frame : Frame κ}
    (hlevels : a.levels = [(ask, frame)]) :
    g.held a = ↑(frame.cause?.toList.map (Source.session, ·))
      + ↑(ask.failure?.toList.map (g.source, ·)) := by
  rw [Docket.held, Activity.cause?, Activity.failure?, Activity.frame?, Activity.asked?, hlevels]
  rfl

/-- A cause waits only for the chain to learn that the connection is down. -/
lemma cause?_of_fits {ask : Ask κ} {frame : Frame κ} (h : ask.Fits frame)
    (hchain : ∀ c, ask ≠ .chain c) : frame.cause? = none := by
  cases frame with
  | retired cause =>
      cases ask with
      | chain c => exact (hchain c rfl).elim
      | create _ | call _ _ | release _ => exact h.elim
  | last | superseding _ _ _ | creating _ _ | replacing _ | starting _ | requesting _ | announced
  | abandoning _ _ => rfl

/-- Nothing waits or is over while a session or the factory is at work. -/
lemma held_of_call (g : Docket κ) {a : Activity κ} {ask : Ask κ} {frame : Frame κ}
    (hlevels : a.levels = [(ask, frame)]) (h : ask.Fits frame) (hchain : ∀ c, ask ≠ .chain c) :
    g.held a = 0 := by
  rw [held_of_levels g hlevels, cause?_of_fits h hchain]
  cases ask with
  | chain c => exact (hchain c rfl).elim
  | create _ | call _ _ | release _ => rfl

/-- What comes with the start of a job is what the job comes with. -/
lemma comesWith_start (frame : Option (Frame κ)) (job : Job κ) :
    (start job).comesWith frame = job.failure? := by
  cases job <;> rfl

lemma comesWith_ended (frame : Option (Frame κ)) (answer : Answer) :
    (ended answer : Move κ).comesWith frame = (ended answer : Move κ).failure? := by
  cases answer <;> rfl

/-! ## The link is in shape for failures -/

/-- **The shape of a link as far as failures go.**  Operations that wait have none yet. -/
structure Kempt (l : Link κ ω) : Prop where
  sited : l.activity.Sited Activity.Unharmed
  found : l.activity.Found
  clean : ∀ op ∈ l.queued, Activity.Unharmed op

lemma Kempt.step (h : l.Steady) (hk : l.Kempt) {m : Move κ} (hm : l.activity.ByWorker m)
    (hbrings : ∀ op ∈ m.brings, Activity.Unharmed op) {a : Activity κ} {traces : List (Trace κ)}
    (hs : l.activity.step m = some (a, traces)) : a.Sited Activity.Unharmed ∧ a.Found :=
  ⟨h.lone.sited_step hk.sited hm hbrings hs, h.lone.found_step hm hs⟩

/-- **A move of the stage** leaves the failure that comes with it where it goes. -/
lemma Kempt.carries (h : l.Steady) (hk : l.Kempt) {m : Move κ} (hm : l.activity.ByWorker m)
    (fresh : ∀ op ∈ m.brings, l.activity.stage.awaiting? op.id = none)
    (hbrings : ∀ op ∈ m.brings, Activity.Unharmed op) {a : Activity κ} {traces : List (Trace κ)}
    (hs : l.activity.step m = some (a, traces)) (g : Docket κ) :
    g.Carries (g.move l.activity m)
      ↑((m.comesWith l.activity.frame?).toList.map (Source.session, ·))
      ((g.move l.activity m).held a) :=
  Docket.carries_move hs (h.lone.routes hk.sited hk.found hm fresh hbrings hs)

lemma Kempt.clean_start (hk : l.Kempt) {job : Job κ} {rest : List (Command (Job κ))}
    (hqueue : l.inbox.queue = .run job :: rest) :
    ∀ op ∈ (start job).brings, Activity.Unharmed op := by
  intro op hop
  refine hk.clean op ?_
  rw [queued_of_job hqueue]
  exact List.mem_append_left _ hop

lemma Kempt.of_works (h : l.Steady) (hk : l.Kempt) (hw : Works M l l') : l'.Kempt := by
  cases hw with
  | chain hlevels hstep log sink =>
      obtain ⟨hsited, hfound⟩ := hk.step h (m := .proceed) trivial (List.forall_mem_nil _) hstep
      exact ⟨hsited, hfound, hk.clean⟩
  | create hlevels hstep log sink =>
      obtain ⟨hsited, hfound⟩ := hk.step h (m := .created _) trivial (List.forall_mem_nil _) hstep
      exact ⟨hsited, hfound, hk.clean⟩
  | call hlevels hcall =>
      refine ⟨hk.sited, hk.found, ?_⟩
      rw [queued, queued_put_reports]
      exact hk.clean
  | @answer session c frame answer reports world a traces hlevels hcall hstep log sink =>
      obtain ⟨hsited, hfound⟩ := hk.step h (byWorker_ended answer hlevels)
        (by rw [brings_ended]; exact List.forall_mem_nil _) hstep
      refine ⟨hsited, hfound, ?_⟩
      rw [queued, queued_put_reports]
      exact hk.clean
  | @job job rest a traces hlevels hqueue hstep log sink =>
      obtain ⟨hsited, hfound⟩ := hk.step h (h.byWorker_start hlevels hqueue)
        (hk.clean_start hqueue) hstep
      refine ⟨hsited, hfound, fun op hop => hk.clean op ?_⟩
      rw [queued_of_job hqueue]
      exact List.mem_append_right _ hop

/-! ## The pipeline's worker -/

/-- **No failure is lost or doubled** in a step of the pipeline's worker. -/
theorem carries_work (h : l.Steady) (hk : l.Kempt) (hw : Works W.model l l') (g : Docket κ) :
    g.Carries (g.work W l) (l.unsettled g) (l'.unsettled (g.work W l)) := by
  cases hw with
  | @chain c frame a traces hlevels hstep log sink =>
      have hcame : (Move.proceed : Move κ).comesWith l.activity.frame? = frame.cause? := by
        rw [Activity.frame?, hlevels]
        rfl
      have hmove := hk.carries h (m := .proceed) trivial (List.forall_mem_nil _)
        (List.forall_mem_nil _) hstep (g.take l.root c)
      -- the root takes what was over, and the cause that has waited comes back with its answer
      have hboth := (Docket.carries_take l.root g c).next hmove
      rw [hcame, add_comm, ← held_of_levels g hlevels, zero_add,
        ← Docket.work_chain g hlevels] at hboth
      exact hboth.add _
  | @create args frame a traces hlevels hstep log sink =>
      set m : Move κ := .created (W.model.create l.world args).1
      have hfits := h.lone.orderly.fits _ (Activity.mem_of_levels hlevels)
      have hmove := hk.carries h (m := m) trivial (List.forall_mem_nil _)
        (List.forall_mem_nil _) hstep (g.produce m.failure?.toList)
      have hboth := (Docket.carries_produce g m.failure?.toList).trans hmove
      rw [← held_of_call g hlevels hfits (by rintro c ⟨⟩)] at hboth
      rw [Docket.work_create g hlevels]
      exact hboth.add _
  | @call session c frame reports world hlevels hcall =>
      have htold := (Docket.carries_produce g (reports.filterMap Report.failure?)).add
        (g.held l.activity)
      rw [add_zero, add_comm] at htold
      rw [Docket.work_call g hlevels hcall]
      exact carries_of_reports rfl htold
  | @answer session c frame answer reports world a traces hlevels hcall hstep log sink =>
      set g' := g.produce (reports.filterMap Report.failure?)
      have hfits := h.lone.orderly.fits _ (Activity.mem_of_levels hlevels)
      have hbrings : (ended answer : Move κ).brings = [] := brings_ended answer
      have hmove := hk.carries h (byWorker_ended answer hlevels)
        (by rw [hbrings]; exact List.forall_mem_nil _)
        (by rw [hbrings]; exact List.forall_mem_nil _) hstep
        (g'.produce (ended answer : Move κ).failure?.toList)
      rw [comesWith_ended] at hmove
      -- what was reported during the call waits in the queue; only the answer goes on at once
      have hboth := (Docket.carries_produce g (reports.filterMap Report.failure?)).next
        ((Docket.carries_produce g' _).trans hmove)
      rw [add_zero, ← held_of_call g hlevels hfits (by rintro c ⟨⟩)] at hboth
      rw [Docket.work_answer g hlevels hcall]
      exact carries_of_reports rfl hboth
  | @job job rest a traces hlevels hqueue hstep log sink =>
      have hmove := hk.carries h (h.byWorker_start hlevels hqueue) (h.sound.fresh_start hqueue)
        (hk.clean_start hqueue) hstep g
      rw [comesWith_start, ← Docket.work_job g h.inbox hlevels hqueue] at hmove
      rw [unsettled, held_of_nil g hlevels, tidings_of_job hqueue, List.map_append,
        ← Multiset.coe_add, add_zero, add_comm]
      exact hmove.add _

/-- **Callbacks are told what the docket says**, in a step of the pipeline's worker. -/
theorem called_work (hw : Works W.model l l') (g : Docket κ) :
    ∃ news, (g.work W l).called.map Prod.snd = g.called.map Prod.snd ++ news ∧
      Mailbox.jobs l'.outbox.queue = Mailbox.jobs l.outbox.queue ++ news := by
  have hquiet : (∀ c, l.activity.asked? ≠ some (.chain c)) →
      (g.work W l).called.map Prod.snd = g.called.map Prod.snd ++ [] := by
    intro hnone
    rw [Docket.called_work_of_quiet g hnone, List.append_nil]
  cases hw with
  | @chain c frame a traces hlevels hstep log sink =>
      refine ⟨calls (l.root.handle c).2, ?_, Mailbox.jobs_put _ _⟩
      rw [Docket.work_chain g hlevels, (Docket.told_move _ _ _).1]
      exact Docket.called_take _ _ _
  | create hlevels hstep log sink =>
      refine ⟨[], hquiet ?_, (List.append_nil _).symm⟩
      rw [Activity.asked?_of_levels hlevels]
      rintro c ⟨⟩
  | call hlevels hcall =>
      refine ⟨[], hquiet ?_, (List.append_nil _).symm⟩
      rw [Activity.asked?_of_levels hlevels]
      rintro c ⟨⟩
  | answer hlevels hcall hstep log sink =>
      refine ⟨[], hquiet ?_, (List.append_nil _).symm⟩
      rw [Activity.asked?_of_levels hlevels]
      rintro c ⟨⟩
  | job hlevels hqueue hstep log sink =>
      refine ⟨[], hquiet ?_, (List.append_nil _).symm⟩
      rw [Activity.asked?_of_nil hlevels]
      rintro c ⟨⟩

/-- A move of the pipeline's worker leaves every request waiting or answered. -/
lemma attends_move (h : l.Steady) {m : Move κ} (hm : l.activity.ByWorker m) {a : Activity κ}
    {traces : List (Trace κ)} (hs : l.activity.step m = some (a, traces))
    (hg : g.Attended l.activity.stage) : (g.move l.activity m).Attended a.stage :=
  hg.move hs (h.lone.found_step hm hs) fun _ => h.lone.awaits_step hm hs

/-- **Requests wait or are answered**, after every step of the pipeline's worker. -/
theorem attended_work (h : l.Steady) (hw : Works W.model l l') (hg : g.Attended l.activity.stage) :
    (g.work W l).Attended l'.activity.stage := by
  cases hw with
  | chain hlevels hstep log sink =>
      rw [Docket.work_chain g hlevels]
      exact attends_move h (m := .proceed) trivial hstep (hg.take l.root _)
  | create hlevels hstep log sink =>
      rw [Docket.work_create g hlevels]
      exact attends_move h (m := .created _) trivial hstep ⟨hg.waits, hg.strays⟩
  | call hlevels hcall =>
      rw [Docket.work_call g hlevels hcall]
      exact ⟨hg.waits, hg.strays⟩
  | answer hlevels hcall hstep log sink =>
      rw [Docket.work_answer g hlevels hcall]
      exact attends_move h (byWorker_ended _ hlevels) hstep ⟨hg.waits, hg.strays⟩
  | job hlevels hqueue hstep log sink =>
      rw [Docket.work_job g h.inbox hlevels hqueue]
      exact attends_move h (h.byWorker_start hlevels hqueue) hstep hg

/-! ## The whole run -/

/-- **The docket and the link agree**, if the sink was such at the start. -/
structure Reckoned (u : Unhandled) (l : Link κ ω) (g : Docket κ) : Prop where
  /-- Every failure that was made is under way, or has come to where it stays. -/
  total : (↑g.made : Multiset Charge) = l.unsettled g + g.settled
  honest : g.Honest
  /-- The sink has been told what the docket says, and nothing else. -/
  sink : l.sink = g.poured.foldl Unhandled.report u
  /-- So have callbacks, or they will be. -/
  called : g.called.map Prod.snd = g.begun ++ Mailbox.jobs l.outbox.queue
  /-- Whatever panicked had begun, and has ended; each piece of the user's code panics once. -/
  panics : ∃ ended, g.begun = ended ++ l.user.toList ∧ g.culprits.Sublist ended
  /-- Acknowledgements that find nobody come for requests that were answered, or for none. -/
  attended : g.Attended l.activity.stage

lemma Reckoned.work {u : Unhandled} (h : l.Steady) (hk : l.Kempt) (hg : l.Reckoned u g)
    (hs : l.pipelineStep W.model = some l') : l'.Reckoned u (g.work W l) := by
  have hw := h.works hs
  have hcarries := carries_work h hk hw g
  obtain ⟨news, hcalled, hqueue⟩ := called_work hw g
  refine ⟨hcarries.total hg.total, hcarries.honest hg.honest, sink_work hg.sink hs, ?_, ?_,
    attended_work h hw hg.attended⟩
  · rw [hcalled, hqueue, hg.called, Docket.begun_work, List.append_assoc]
  · have huser : l'.user = l.user := by cases hw <;> rfl
    rw [huser, Docket.begun_work, Docket.culprits_work]
    exact hg.panics

/-- Nothing changes for the docket as long as the link keeps what it says. -/
lemma Reckoned.of_eq {u : Unhandled} (hg : l.Reckoned u g) (hactivity : l'.activity = l.activity)
    (htidings : l'.tidings = l.tidings) (hsink : l'.sink = l.sink)
    (houtbox : l'.outbox = l.outbox) (huser : l'.user = l.user) : l'.Reckoned u g where
  total := by
    rw [unsettled, hactivity, htidings]
    exact hg.total
  honest := hg.honest
  sink := hsink.trans hg.sink
  called := by
    rw [houtbox]
    exact hg.called
  panics := by
    rw [huser]
    exact hg.panics
  attended := by
    rw [hactivity]
    exact hg.attended

lemma Reckoned.bring {u : Unhandled} (h : l.Steady) (hg : l.Reckoned u g) (request : Request)
    (callback : Option κ) : (l.bring request callback).Reckoned u g := by
  rw [bring_eq h.inbox]
  refine hg.of_eq rfl ?_ rfl rfl rfl
  rw [tidings, Mailbox.jobs_put, List.filterMap_append]
  exact List.append_nil _

lemma Reckoned.stir {u : Unhandled} (h : l.Steady) (hg : l.Reckoned u g) (reports : List Report)
    (world : ω) :
    (l.happen reports world).Reckoned u (g.produce (reports.filterMap Report.failure?)) := by
  have htold := (Docket.carries_produce g (reports.filterMap Report.failure?)).add
    (g.held l.activity)
  rw [add_zero, add_comm] at htold
  rw [happen_eq h.inbox]
  have hcarries : g.Carries (g.produce (reports.filterMap Report.failure?)) (l.unsettled g)
      (unsettled { l with world, inbox := l.inbox.put (reports.map Job.report) }
        (g.produce (reports.filterMap Report.failure?))) := carries_of_reports rfl htold
  exact ⟨hcarries.total hg.total, hcarries.honest hg.honest, hg.sink, hg.called, hg.panics,
    hg.attended.waits, hg.attended.strays⟩

lemma Reckoned.beginUser {u : Unhandled} (h : l.Steady) (hg : l.Reckoned u g)
    (hs : l.beginUser = some l') :
    l'.Reckoned u { g with begun := g.begun ++ l'.user.toList } := by
  obtain ⟨c, rest, hnone, hqueue, rfl⟩ := h.beginUser_cases hs
  obtain ⟨ended, hended, hpanics⟩ := hg.panics
  rw [hnone, Option.toList_none, List.append_nil] at hended
  refine ⟨hg.total, ⟨hg.honest.makes, hg.honest.proper⟩, hg.sink, ?_, ⟨ended, ?_, hpanics⟩,
    ⟨hg.attended.waits, hg.attended.strays⟩⟩
  · have hjobs : Mailbox.jobs l.outbox.queue = c :: Mailbox.jobs rest := by
      rw [hqueue]
      rfl
    have hcalled := hg.called
    rw [hjobs] at hcalled
    rw [hcalled, List.append_assoc]
    rfl
  · rw [hended]

/-- A piece of the user's code has ended without a panic. -/
lemma Reckoned.endUser {u : Unhandled} (hg : l.Reckoned u g) :
    (l.endUser none).Reckoned u g := by
  have heq : l.endUser none = { l with user := none } := by
    cases huser : l.user <;> simp only [Link.endUser, huser]
  rw [heq]
  obtain ⟨ended, hended, hpanics⟩ := hg.panics
  refine ⟨hg.total, hg.honest, hg.sink, hg.called, ⟨g.begun, (List.append_nil _).symm, ?_⟩,
    hg.attended⟩
  rw [hended]
  exact hpanics.trans (List.sublist_append_left _ _)

/-- A piece of the user's code has panicked. -/
lemma Reckoned.panicUser {u : Unhandled} (hg : l.Reckoned u g) {c : UserCall κ}
    (huser : l.user = some c) (message : String) :
    (l.endUser (some message)).Reckoned u (g.panic c message) := by
  have heq : l.endUser (some message)
      = { l with user := none }.reportUnhandled .callback (c.panicked message) := by
    simp only [Link.endUser, huser]
  rw [heq]
  obtain ⟨ended, hended, hpanics⟩ := hg.panics
  rw [huser] at hended
  have hcarries := (Docket.carries_panic g c message).add (l.unsettled g)
  rw [add_zero] at hcarries
  refine ⟨hcarries.total hg.total, hcarries.honest hg.honest, ?_, hg.called,
    ⟨g.begun, (List.append_nil _).symm, ?_⟩, ⟨hg.attended.waits, hg.attended.strays⟩⟩
  · rw [Docket.poured, Docket.panic, List.map_append, List.foldl_append]
    exact congrArg (Unhandled.report · (c.panicked message)) hg.sink
  · rw [Docket.culprits, Docket.panic, List.filterMap_append, hended]
    exact hpanics.append_right [c]

/-! ## A whole run -/

lemma Kempt.of_queued (hk : l.Kempt) (hactivity : l'.activity = l.activity)
    (hqueued : ∀ op ∈ l'.queued, op ∈ l.queued ∨ Activity.Unharmed op) : l'.Kempt := by
  refine ⟨hactivity ▸ hk.sited, hactivity ▸ hk.found, fun op hop => ?_⟩
  exact (hqueued op hop).elim (hk.clean op) id

lemma Kempt.bring (h : l.Steady) (hk : l.Kempt) (request : Request) (callback : Option κ) :
    (l.bring request callback).Kempt := by
  rw [bring_eq h.inbox]
  refine hk.of_queued rfl fun op hop => ?_
  rw [queued, queued_put_run] at hop
  rcases List.mem_append.mp hop with hop | hop
  · exact .inl hop
  · cases List.mem_singleton.mp hop
    exact .inr rfl

/-- **Everything that happens** keeps the shape as far as failures go. -/
theorem Kempt.pursues (h : l.Steady) (hk : l.Kempt) {affair : Affair κ ε}
    (hs : l.pursues W affair = some l') : l'.Kempt := by
  cases affair with
  | bring request callback =>
      cases hs
      exact hk.bring h request callback
  | happening happening =>
      cases happening with
      | submit caller request callback =>
          cases hs
          exact (hk.bring h request (some callback)).of_queued rfl fun op => .inl
      | stir e =>
          obtain ⟨⟨reports, world⟩, -, rfl⟩ := Option.map_eq_some_iff.mp hs
          rw [happen_eq h.inbox]
          refine hk.of_queued rfl fun op hop => .inl ?_
          rwa [queued, queued_put_reports] at hop
      | work => exact hk.of_works h (h.works hs)
      | beginUser =>
          obtain ⟨hactivity, hinbox, -⟩ := beginUser_core hs
          refine hk.of_queued hactivity fun op hop => .inl ?_
          rwa [queued, hinbox] at hop
      | endUser panic =>
          obtain ⟨log, sink, rfl⟩ := exists_eq_of_endUser hs
          exact hk.of_queued rfl fun op => .inl
      | handle kept =>
          cases hs
          exact hk.of_queued rfl fun op => .inl

/-- **Everything that happens** keeps docket and link in agreement. -/
theorem Reckoned.pursues {u : Unhandled} (h : l.Steady) (hk : l.Kempt) (hg : l.Reckoned u g)
    {affair : Affair κ ε} (hs : l.pursues W affair = some l') :
    l'.Reckoned u (Docket.note W affair l l' g) := by
  cases affair with
  | bring request callback =>
      cases hs
      exact hg.bring h request callback
  | happening happening =>
      cases happening with
      | submit caller request callback =>
          cases hs
          exact (hg.bring h request (some callback)).of_eq rfl rfl rfl rfl rfl
      | stir e =>
          obtain ⟨⟨reports, world⟩, hstir, rfl⟩ := Option.map_eq_some_iff.mp hs
          simp only [Docket.note, hstir]
          exact hg.stir h reports world
      | work => exact hg.work h hk hs
      | beginUser => exact hg.beginUser h hs
      | endUser panic =>
          obtain ⟨c, huser, rfl⟩ := Option.map_eq_some_iff.mp hs
          cases panic with
          | none => exact hg.endUser
          | some message =>
              simp only [Docket.note, huser]
              exact hg.panicUser huser message
      | handle kept =>
          cases hs
          exact hg.of_eq rfl rfl rfl rfl rfl

lemma reckoned_build {c : PipelineConfig} {listens : Bool} {world : ω}
    (h : Link.build c listens (some world) = .ok l) : l.Kempt ∧ l.Reckoned l.sink {} := by
  cases h
  refine ⟨⟨Activity.sited_new _, (by rintro id ⟨⟩), List.forall_mem_nil _⟩, ?_⟩
  exact ⟨rfl, ⟨List.forall_mem_nil _, List.forall_mem_nil _⟩, rfl, rfl, ⟨[], rfl, .slnil⟩,
    ⟨List.forall_mem_nil _, List.forall_mem_nil _⟩⟩

lemma reckoned_pursue {c : PipelineConfig} {listens : Bool} {world : ω}
    (hbuild : Link.build c listens (some world) = .ok l) (affairs : List (Affair κ ε)) :
    (pursue W (Docket.note W) (l, {}) affairs).1.Steady ∧
      (pursue W (Docket.note W) (l, {}) affairs).1.Reckoned l.sink
        (pursue W (Docket.note W) (l, {}) affairs).2 := by
  refine (runWith_induction_of_kept (S := Steady) ?_
    (fun k g => k.Kempt ∧ k.Reckoned l.sink g) ?_ (steady_build hbuild) (reckoned_build hbuild)
    affairs).imp_right And.right
  · exact fun _ _ _ hk hs => hk.pursues hs
  · exact fun _ _ _ _ hk hg hs => ⟨hg.1.pursues hk hs, hg.2.pursues hk hg.1 hs⟩

/-- **No failure is lost or doubled**, in any run of a link that nobody shuts down.  Whatever a
session or the factory, the stage, the root or the user's code has made is under way, or it is what
a callback is told, or a record of the sink, or it was dropped with an acknowledgement that nobody
waited for, because the request had been answered before or had never been made; it is there just
as it was made, and as often.  Once the pipeline's worker has nothing left to do, nothing is under
way. -/
theorem failures_settle {c : PipelineConfig} {listens : Bool} {world : ω}
    (hbuild : Link.build c listens (some world) = .ok l) (affairs : List (Affair κ ε)) :
    let r := pursue W (Docket.note W) (l, {}) affairs
    r.1.Reckoned l.sink r.2 ∧
      (r.1.pipelineStep W.model = none → (↑r.2.made : Multiset Charge) = r.2.settled) := by
  obtain ⟨hsteady, hreckoned⟩ := reckoned_pursue (W := W) hbuild affairs
  refine ⟨hreckoned, fun hrests => ?_⟩
  obtain ⟨hlevels, hqueue⟩ := hsteady.rests hrests
  rw [hreckoned.total, unsettled, held_of_nil _ hlevels, tidings, hqueue]
  exact zero_add _

/-- Sessions that refuse to send messages, and report whatever they are told to. -/
def reluctant : World Unit (List Report) where
  model :=
    { create := fun w _ => (.ok 0, w)
      step := fun w _ c => match c with
        | .publish _ topic _ => (some (.returned (.error ⟨.quotaExceeded, topic, none⟩)), [], w)
        | .connect _ _ | .reconnect _ | .disconnect | .subscribe _ _ | .unsubscribe _ _ =>
          (some (.returned (.ok ())), [], w)
      release := fun w _ => ([], w) }
  stir := fun w reports => some (reports, w)

/-- A message is refused, a connection fails, another breaks down unexpectedly, and the callback of
the first one panics. -/
def troubledCourse : List (Affair Nat (List Report)) :=
  [.bring (.setConnectionArgs ⟨"hub", "device", "id", none⟩) none, .happening .work,
    .happening .work, .happening .work,
    .bring (.publish "refused" []) none, .happening .work, .happening .work, .happening .work,
    .happening (.submit none .connect 20), .happening .work, .happening .work,
    .happening (.stir [.connectionFailed ⟨.connectionFailed, "no way", some (.io "down")⟩]),
    .happening .work, .happening .work,
    .happening (.stir [.disconnected (some ⟨.connectionDropped, "gone", none⟩)]),
    .happening .work, .happening .work,
    .happening .beginUser, .happening (.endUser (some "boom"))]

/-- One failure is told to a callback, and three are recorded by the sink. -/
theorem troubledCourse_settled :
    ∃ l : Link Nat Unit, Link.build {} false (some ()) = .ok l ∧
      let r := pursue reluctant (Docket.note reluctant) (l, {}) troubledCourse
      r.2.told = [(.session, ⟨.connectionFailed, "no way", some (.io "down")⟩)] ∧
        r.2.poured.map Failure.kind = [.quotaExceeded, .connectionDropped, .pipeline] ∧
        r.1.Reckoned l.sink r.2 ∧ (↑r.2.made : Multiset Charge) = r.2.settled := by
  refine ⟨_, rfl, by decide, by decide, ?_, ?_⟩
  · exact (failures_settle rfl troubledCourse).1
  · exact (failures_settle rfl troubledCourse).2 (by rfl)

end Link

end DeviceLink
