import DeviceLink.Link.Basic
import DeviceLink.Proofs.Stage.Lone

/-!
# The worker of a pipeline

The pipeline's worker brings answers to the stage and starts its jobs.  It may have been told to
stop, and may be gone, so that what is sent to it is dropped; but while something is handed over, it
is there.

* `Mailbox.offer` — jobs are sent to a worker that may be gone.
* `Link.Sound` — the shape of a link, however far it is shut down.
* `Link.Tasks`, **`Sound.tasks`** — what the pipeline's worker can do in a link of that shape.
* **`Sound.of_tasks`** — whatever it does keeps the shape.
-/

namespace DeviceLink

/-! ## Mailboxes whose worker may be gone -/

namespace Dispatch.Mailbox

variable {J : Type}

def put (m : Mailbox J) (js : List J) : Mailbox J := { m with queue := m.queue ++ js.map .run }

lemma put_nil (m : Mailbox J) : m.put [] = m := by simp [put]

lemma put_put (m : Mailbox J) (js more : List J) : (m.put js).put more = m.put (js ++ more) := by
  simp [put]

lemma jobs_put (m : Mailbox J) (js : List J) : jobs (m.put js).queue = jobs m.queue ++ js := by
  simp [put, jobs, List.filterMap_map]

/-- Jobs are sent; a worker that is gone gets none. -/
def offer (m : Mailbox J) (js : List J) : Mailbox J :=
  match m.phase with
  | .exited => m
  | .running | .stopped => m.put js

lemma send?_eq_offer (m : Mailbox J) (job : J) : (m.send? job).getD m = m.offer [job] := by
  obtain ⟨queue, phase, joinable⟩ := m
  cases phase <;> rfl

lemma offer_cases (m : Mailbox J) (js : List J) : m.offer js = m ∨ m.offer js = m.put js := by
  rw [offer]
  cases m.phase with
  | exited => exact .inl rfl
  | running | stopped => exact .inr rfl

lemma offer_of_running {m : Mailbox J} (h : m.phase = .running) (js : List J) :
    m.offer js = m.put js := by
  rw [offer, h]

@[simp] lemma phase_offer (m : Mailbox J) (js : List J) : (m.offer js).phase = m.phase := by
  rcases m.offer_cases js with h | h <;> rw [h]
  rfl

lemma offer_offer (m : Mailbox J) (js more : List J) :
    (m.offer js).offer more = m.offer (js ++ more) := by
  rw [offer, phase_offer]
  cases h : m.phase <;> simp only [offer, h, put_put]

lemma offer_nil (m : Mailbox J) : m.offer [] = m := by
  rcases m.offer_cases [] with h | h
  · exact h
  · rw [h, put_nil]

lemma mem_jobs_offer {m : Mailbox J} {js : List J} {job : J}
    (h : job ∈ jobs (m.offer js).queue) : job ∈ jobs m.queue ∨ job ∈ js := by
  rcases m.offer_cases js with he | he <;> rw [he] at h
  · exact .inl h
  · rwa [jobs_put, List.mem_append] at h

/-- The worker takes the order to stop, or goes and drops what waits. -/
def Leaves (m left : Mailbox J) : Prop :=
  m.turn = .stop left ∨ ∃ dropped, m.turn = .exit dropped left

/-- **What a worker does next** with its mailbox: nothing, the next job, or it leaves. -/
lemma turn_cases (m : Mailbox J) :
    m.turn = .none ∨
      (∃ job rest, m.phase = .running ∧ m.queue = .run job :: rest ∧
        m.turn = .job job { m with queue := rest }) ∨
      ∃ left, m.Leaves left := by
  obtain ⟨queue, phase, joinable⟩ := m
  cases phase with
  | running =>
      cases queue with
      | nil => exact .inl rfl
      | cons command rest =>
          cases command with
          | run job => exact .inr (.inl ⟨job, rest, rfl, rfl, rfl⟩)
          | stop => exact .inr (.inr ⟨_, .inl rfl⟩)
  | stopped => exact .inr (.inr ⟨_, .inr ⟨_, rfl⟩⟩)
  | exited => exact .inl rfl

lemma Leaves.jobs_sublist {m left : Mailbox J} (h : m.Leaves left) :
    (jobs left.queue).Sublist (jobs m.queue) := by
  obtain ⟨queue, phase, joinable⟩ := m
  cases phase with
  | running =>
      rcases queue with _ | ⟨_ | job, rest⟩ <;> rcases h with h | ⟨dropped, h⟩ <;> cases h
      exact List.Sublist.refl _
  | stopped =>
      rcases h with h | ⟨dropped, h⟩ <;> cases h
      exact List.nil_sublist _
  | exited => rcases h with h | ⟨dropped, h⟩ <;> cases h

end Dispatch.Mailbox

open Dispatch

variable {κ ω : Type}

namespace Link

variable {M : SessionModel ω} {l l' : Link κ ω}

/-! ## The shape of a link -/

/-- **The shape of a link that may be shut down.**  A worker that has something under way is there;
the operations that wait for the pipeline's worker, or are with the stage, have different
numbers. -/
structure Sound (l : Link κ ω) : Prop where
  single : l.activity.Single
  busy : l.activity.levels ≠ [] → l.inbox.phase = .running
  distinct : ((l.queued ++ l.activity.inHand).map Operation.id).Nodup
  known : ∀ op ∈ l.queued ++ l.activity.inHand, op.id < l.nextId

lemma Sound.of_eq (h : l.Sound) (ha : l'.activity = l.activity) (hi : l'.inbox = l.inbox)
    (hn : l'.nextId = l.nextId) : l'.Sound := by
  obtain ⟨activity, root, sink, inbox, outbox, kept, user, world, nextId, log⟩ := l
  obtain ⟨activity', root', sink', inbox', outbox', kept', user', world', nextId', log'⟩ := l'
  cases ha
  cases hi
  cases hn
  exact ⟨h.single, h.busy, h.distinct, h.known⟩

/-! ## What a step leaves as it is -/

lemma send_eq_offer (l : Link κ ω) (job : Job κ) :
    l.send job = { l with inbox := l.inbox.offer [job] } := by
  rw [send, Mailbox.send?_eq_offer]

lemma happen_eq_offer (l : Link κ ω) (reports : List Report) (world : ω) :
    l.happen reports world
      = { l with world, inbox := l.inbox.offer (reports.map Job.report) } := by
  rw [happen]
  suffices hall : ∀ k : Link κ ω, reports.foldl post k
      = { k with inbox := k.inbox.offer (reports.map Job.report) } from hall { l with world }
  induction reports with
  | nil =>
      intro k
      rw [List.map_nil, Mailbox.offer_nil]
      rfl
  | cons r rest ih =>
      intro k
      rw [List.foldl_cons, post, send_eq_offer, ih, Mailbox.offer_offer]
      rfl

def calls (effects : List (RootEffect κ)) : List (UserCall κ) :=
  effects.filterMap fun
    | .user c => some c
    | .log _ | .unhandled _ => none

/-- At the end of an operation its callback is called, if it has one. -/
lemma calls_complete (op : Operation κ) :
    calls (Root.complete op)
      = op.callback.toList.map fun callback => .completion op.id op.name callback op.outcome := by
  rw [Root.complete]
  cases op.callback with
  | some callback => rfl
  | none => cases op.outcome <;> rfl

/-- Calls of the user's code are sent to the callback worker, and nothing else changes but what is
written down. -/
lemma exists_foldl_effect (effects : List (RootEffect κ)) (l : Link κ ω) :
    ∃ log sink, effects.foldl effect l
      = { l with outbox := l.outbox.offer (calls effects), log, sink } := by
  induction effects generalizing l with
  | nil =>
      refine ⟨l.log, l.sink, ?_⟩
      rw [calls, List.filterMap_nil, Mailbox.offer_nil]
      rfl
  | cons e rest ih =>
      cases e with
      | log line => exact ih (l.effect (.log line))
      | unhandled f => exact ih (l.effect (.unhandled f))
      | user c =>
          have heff : l.effect (.user c) = { l with outbox := l.outbox.offer [c] } := by
            rw [effect, callUser, Mailbox.send?_eq_offer]
          obtain ⟨log, sink, hrest⟩ := ih (l.effect (.user c))
          refine ⟨log, sink, ?_⟩
          rw [List.foldl_cons, hrest, heff, Mailbox.offer_offer]
          rfl

/-- Of a panic a line is written, or nothing. -/
lemma exists_notice_panic (M : SessionModel ω) (l : Link κ ω) (message : String) :
    ∃ log, l.notice M (.panic message) = { l with log } := by
  rw [notice]
  split <;> exact ⟨_, rfl⟩

/-- What can be seen of the stage changes nothing but what is written down, as long as no session
goes in a panic. -/
lemma exists_foldl_notice (M : SessionModel ω) {traces : List (Trace κ)}
    (h : ∀ session, .gone session ∉ traces) (l : Link κ ω) :
    ∃ log sink, traces.foldl (notice M) l = { l with log, sink } := by
  induction traces generalizing l with
  | nil => exact ⟨l.log, l.sink, rfl⟩
  | cons trace rest ih =>
      have hrest : ∀ session, .gone session ∉ rest :=
        fun session hs => h session (List.mem_cons_of_mem _ hs)
      cases trace with
      | gone session => exact (h session List.mem_cons_self).elim
      | log line => exact ih hrest (l.notice M (.log line))
      | unhandled f => exact ih hrest (l.notice M (.unhandled f))
      | panic message =>
          obtain ⟨_, heq⟩ := l.exists_notice_panic M message
          obtain ⟨log, sink, hlast⟩ := ih hrest (l.notice M (.panic message))
          exact ⟨log, sink, by rw [List.foldl_cons, hlast, heq]⟩
      | ask a => exact ih hrest l

/-! ## What the pipeline's worker does -/

/-- **What the pipeline's worker can do** in a link that may be shut down. -/
inductive Tasks (M : SessionModel ω) (l : Link κ ω) : Link κ ω → Prop where
  /-- The root takes what it is handed, and the stage goes on. -/
  | chain {c : ChainCall κ} {frame : Frame κ} {a : Activity κ} {traces : List (Trace κ)}
      (hlevels : l.activity.levels = [(.chain c, frame)])
      (hstep : l.activity.step .proceed = some (a, traces)) (log : List LogRecord)
      (sink : Unhandled) :
      Tasks M l { l with
        activity := a
        root := (l.root.handle c).1
        outbox := l.outbox.offer (calls (l.root.handle c).2)
        log, sink }
  /-- A session is made, or is not, and the stage goes on. -/
  | create {args : ConnectionArgs} {frame : Frame κ} {a : Activity κ} {traces : List (Trace κ)}
      (hlevels : l.activity.levels = [(.create args, frame)])
      (hstep : l.activity.step (.created (M.create l.world args).1) = some (a, traces))
      (log : List LogRecord) (sink : Unhandled) :
      Tasks M l { l with activity := a, world := (M.create l.world args).2, log, sink }
  /-- A call of a session makes a step. -/
  | call {session : SessionId} {c : SessionCall} {frame : Frame κ} {reports : List Report}
      {world : ω} (hlevels : l.activity.levels = [(.call session c, frame)])
      (hcall : M.step l.world session c = (none, reports, world)) :
      Tasks M l { l with world, inbox := l.inbox.put (reports.map Job.report) }
  /-- A call of a session ends, and the stage goes on. -/
  | answer {session : SessionId} {c : SessionCall} {frame : Frame κ} {answer : Answer}
      {reports : List Report} {world : ω} {a : Activity κ} {traces : List (Trace κ)}
      (hlevels : l.activity.levels = [(.call session c, frame)])
      (hcall : M.step l.world session c = (some answer, reports, world))
      (hstep : l.activity.step (ended answer) = some (a, traces)) (log : List LogRecord)
      (sink : Unhandled) :
      Tasks M l { l with
        activity := a
        world
        inbox := l.inbox.put (reports.map Job.report)
        log, sink }
  /-- A session goes, and the stage goes on. -/
  | release {session : SessionId} {frame : Frame κ} {a : Activity κ} {traces : List (Trace κ)}
      (hlevels : l.activity.levels = [(.release session, frame)])
      (hstep : l.activity.step .proceed = some (a, traces)) (log : List LogRecord)
      (sink : Unhandled) :
      Tasks M l { l with
        activity := a
        world := (M.release l.world session).2
        inbox := l.inbox.put ((M.release l.world session).1.map Job.report)
        log, sink }
  /-- The next job starts. -/
  | job {job : Job κ} {rest : List (Command (Job κ))} {a : Activity κ} {traces : List (Trace κ)}
      (hlevels : l.activity.levels = []) (hphase : l.inbox.phase = .running)
      (hqueue : l.inbox.queue = .run job :: rest)
      (hstep : l.activity.step (start job) = some (a, traces)) (log : List LogRecord)
      (sink : Unhandled) :
      Tasks M l { l with activity := a, inbox := { l.inbox with queue := rest }, log, sink }
  /-- The worker takes the order to stop, or goes and drops what waits. -/
  | leave {inbox : Mailbox (Job κ)} (hlevels : l.activity.levels = [])
      (hleaves : l.inbox.Leaves inbox) (log : List LogRecord) : Tasks M l { l with inbox, log }

lemma byWorker_ended {session : SessionId} {c : SessionCall} {frame : Frame κ} (answer : Answer)
    (hlevels : l.activity.levels = [(.call session c, frame)]) :
    l.activity.ByWorker (ended answer) := by
  cases answer with
  | returned outcome => trivial
  | panicked message => exact ⟨session, c, Activity.asked?_of_levels hlevels⟩

lemma brings_ended (answer : Answer) : (ended answer : Move κ).brings = [] := by
  cases answer <;> rfl

/-- The operation that the queue's first job brings, if it brings one, is taken from those that
wait. -/
lemma queued_of_job {job : Job κ} {rest : List (Command (Job κ))}
    (hqueue : l.inbox.queue = .run job :: rest) :
    l.queued = (start job).brings ++ (Mailbox.jobs rest).filterMap Job.operation? := by
  rw [queued, hqueue]
  cases job <;> rfl

/-- The stage makes a move: nothing but the stage changes, and what is written down. -/
lemma exists_move_eq (M : SessionModel ω) {m : Move κ} {a : Activity κ} {traces : List (Trace κ)}
    (h : l.activity.Single) (hm : l.activity.Driven m)
    (fresh : ∀ op ∈ m.brings, l.activity.stage.awaiting? op.id = none)
    (hs : l.activity.step m = some (a, traces)) :
    ∃ log sink, l.move M m = { l with activity := a, log, sink } := by
  rw [move, hs]
  exact exists_foldl_notice M (h.not_gone hm fresh hs) _

/-- Whatever a session answers, the stage goes on. -/
lemma exists_step_ended {session : SessionId} {c : SessionCall} {frame : Frame κ}
    (h : (Ask.call session c).Fits frame) (s : Stage κ) (answer : Answer) :
    ∃ r, ({ stage := s, levels := [(.call session c, frame)] } : Activity κ).step (ended answer)
      = some r := by
  cases answer with
  | returned outcome => exact Activity.exists_step_of_fits h s outcome
  | panicked message => exact ⟨_, rfl⟩

lemma Sound.fresh (h : l.Sound) {op : Operation κ} (hop : op ∈ l.queued) :
    l.activity.stage.awaiting? op.id = none := by
  refine h.single.orderly.filed.awaiting?_eq_none fun kept hkept he => ?_
  have hd := h.distinct
  rw [List.map_append, List.nodup_append] at hd
  exact hd.2.2 op.id (List.mem_map_of_mem hop) kept.id
    (List.mem_map_of_mem (List.mem_append_right _ hkept)) he.symm

/-- The queue's first job, if it brings an operation, brings one that waits. -/
lemma Sound.fresh_start (h : l.Sound) {job : Job κ} {rest : List (Command (Job κ))}
    (hqueue : l.inbox.queue = .run job :: rest) :
    ∀ op ∈ (start job).brings, l.activity.stage.awaiting? op.id = none := by
  intro op hop
  refine h.fresh ?_
  rw [queued_of_job hqueue]
  exact List.mem_append_left _ hop

lemma driven_start (hlevels : l.activity.levels = []) (job : Job κ) :
    l.activity.Driven (start job) := by
  cases job with
  | run op => exact .inl ⟨rfl, hlevels⟩
  | report r => exact .inl hlevels
  | abandon => exact .inr ⟨rfl, hlevels⟩

/-- What the worker does when nothing is handed over. -/
lemma Sound.tasks_of_nil (h : l.Sound) (hlevels : l.activity.levels = [])
    (hs : l.pipelineStep M = some l') : Tasks M l l' := by
  have hask := Activity.asked?_of_nil hlevels
  rw [pipelineStep] at hs
  simp only [hask] at hs
  rcases l.inbox.turn_cases with
    hturn | ⟨job, rest, hphase, hqueue, hturn⟩ | ⟨left, hleaves⟩
  · rw [hturn] at hs
    cases hs
  · simp only [hturn, Option.some.injEq] at hs
    obtain ⟨⟨a, traces⟩, hstep⟩ : ∃ r, l.activity.step (start job) = some r := by
      cases job <;> exact ⟨_, rfl⟩
    obtain ⟨log, sink, hmove⟩ := exists_move_eq M
      (l := { l with inbox := { l.inbox with queue := rest } }) h.single
      (driven_start hlevels job) (h.fresh_start hqueue) hstep
    rw [← hs, hmove]
    exact .job hlevels hphase hqueue hstep log sink
  · have hturn := hleaves
    rcases hturn with hturn | ⟨dropped, hturn⟩ <;> simp only [hturn, Option.some.injEq] at hs <;>
      rw [← hs]
    · exact .leave hlevels hleaves _
    · exact .leave hlevels hleaves l.log

/-- **What the pipeline's worker does** in a link that may be shut down. -/
theorem Sound.tasks (h : l.Sound) (hs : l.pipelineStep M = some l') : Tasks M l l' := by
  cases hask : l.activity.asked? with
  | none =>
      have hlevels : l.activity.levels = [] := by
        rw [Activity.asked?, Option.map_eq_none_iff, List.head?_eq_none_iff] at hask
        exact hask
      exact h.tasks_of_nil hlevels hs
  | some ask =>
      obtain ⟨frame, hlevels⟩ := h.single.levels_of_asked? hask
      have hfits := h.single.orderly.fits _ (Activity.mem_of_levels hlevels)
      have hsome := Activity.exists_step_of_fits hfits l.activity.stage
      have hsame : ({ stage := l.activity.stage, levels := [(ask, frame)] } : Activity κ)
          = l.activity := by rw [← hlevels]
      rw [hsame] at hsome
      have hphase : l.inbox.phase = .running := h.busy (by rw [hlevels]; exact List.cons_ne_nil _ _)
      rw [pipelineStep] at hs
      simp only [hask] at hs
      cases ask with
      | chain c =>
          obtain ⟨⟨a, traces⟩, hstep⟩ := hsome
          obtain ⟨log, sink, heff⟩ :=
            exists_foldl_effect (l.root.handle c).2 { l with root := (l.root.handle c).1 }
          simp only [answer, heff, Option.some.injEq] at hs
          obtain ⟨log, sink, hmove⟩ := exists_move_eq M
            (l := { l with
              root := (l.root.handle c).1
              outbox := l.outbox.offer (calls (l.root.handle c).2)
              log, sink }) h.single (m := .proceed) (.inl trivial) (List.forall_mem_nil _) hstep
          rw [← hs, hmove]
          exact .chain hlevels hstep log sink
      | create args =>
          obtain ⟨⟨a, traces⟩, hstep⟩ := hsome (M.create l.world args).1
          simp only [answer, Option.some.injEq] at hs
          obtain ⟨log, sink, hmove⟩ := exists_move_eq M
            (l := { l with world := (M.create l.world args).2 }) h.single (m := .created _)
            (.inl trivial) (List.forall_mem_nil _) hstep
          rw [← hs, hmove]
          exact .create hlevels hstep log sink
      | call session c =>
          rcases hcall : M.step l.world session c with ⟨_ | ended', reports, world⟩
          · simp only [answer, hcall, happen_eq_offer, Mailbox.offer_of_running hphase,
              Option.map_none, Option.some.injEq] at hs
            rw [← hs]
            exact .call hlevels hcall
          · obtain ⟨⟨a, traces⟩, hstep⟩ := exists_step_ended hfits l.activity.stage ended'
            rw [hsame] at hstep
            simp only [answer, hcall, happen_eq_offer, Mailbox.offer_of_running hphase,
              Option.map_some, Option.some.injEq] at hs
            obtain ⟨log, sink, hmove⟩ := exists_move_eq M
              (l := { l with world, inbox := l.inbox.put (reports.map Job.report) }) h.single
              (byWorker_ended ended' hlevels).driven
              (by rw [brings_ended]; exact List.forall_mem_nil _) hstep
            rw [← hs, hmove]
            exact .answer hlevels hcall hstep log sink
      | release session =>
          obtain ⟨⟨a, traces⟩, hstep⟩ := hsome
          simp only [answer, release, happen_eq_offer, Mailbox.offer_of_running hphase,
            Option.some.injEq] at hs
          obtain ⟨log, sink, hmove⟩ := exists_move_eq M
            (l := { l with
              world := (M.release l.world session).2
              inbox := l.inbox.put ((M.release l.world session).1.map Job.report) }) h.single
            (m := .proceed) (.inl trivial) (List.forall_mem_nil _) hstep
          rw [← hs, hmove]
          exact .release hlevels hstep log sink

/-! ## The shape is kept -/

lemma filterMap_operation_reports (reports : List Report) :
    (reports.map (Job.report : Report → Job κ)).filterMap Job.operation? = [] := by
  rw [List.filterMap_map, List.filterMap_eq_nil_iff]
  exact fun r _ => rfl

lemma queued_put_reports (m : Mailbox (Job κ)) (reports : List Report) :
    (Mailbox.jobs (m.put (reports.map Job.report)).queue).filterMap Job.operation?
      = (Mailbox.jobs m.queue).filterMap Job.operation? := by
  rw [Mailbox.jobs_put, List.filterMap_append, filterMap_operation_reports, List.append_nil]

lemma queued_put_run (m : Mailbox (Job κ)) (op : Operation κ) :
    (Mailbox.jobs (m.put [.run op]).queue).filterMap Job.operation?
      = (Mailbox.jobs m.queue).filterMap Job.operation? ++ [op] := by
  rw [Mailbox.jobs_put, List.filterMap_append]
  rfl

/-- Whoever is counted in a larger stock has a number known there. -/
lemma exists_id_of_stock_le {ops more : List (Operation κ)} (h : stock ops ≤ stock more)
    {op : Operation κ} (hop : op ∈ ops) : ∃ other ∈ more, other.id = op.id := by
  have hmem : op.bare ∈ stock more := Multiset.mem_of_le h (List.mem_map_of_mem hop)
  obtain ⟨other, hother, he⟩ := List.mem_map.mp hmem
  have hid : other.bare.id = op.bare.id := by rw [he]
  exact ⟨other, hother, hid⟩

/-- A move leaves different numbers, all of them known. -/
lemma numbers_step {a a' : Activity κ} {m : Move κ} {traces : List (Trace κ)} (h : a.Orderly)
    (hp : a.Permits m) (fresh : ∀ op ∈ m.brings, a.stage.awaiting? op.id = none)
    (hs : a.step m = some (a', traces)) {waiting later : List (Operation κ)} {n : Nat}
    (hq : waiting = m.brings ++ later) (hd : ((waiting ++ a.inHand).map Operation.id).Nodup)
    (hk : ∀ op ∈ waiting ++ a.inHand, op.id < n) :
    ((later ++ a'.inHand).map Operation.id).Nodup ∧ ∀ op ∈ later ++ a'.inHand, op.id < n := by
  have hstock := Activity.stock_step h hp fresh hs
  rw [hq] at hd hk
  constructor
  · exact Activity.nodup_of_step (by rw [← hstock, add_assoc]) hd
  · have hle : stock a'.inHand ≤ stock (m.brings ++ a.inHand) := by
      rw [stock_append, ← hstock, add_assoc]
      exact Multiset.le_add_right _ _
    intro op hop
    rcases List.mem_append.mp hop with hop | hop
    · exact hk op (by simp [hop])
    · obtain ⟨other, hother, he⟩ := exists_id_of_stock_le hle hop
      rw [← he]
      refine hk other ?_
      rcases List.mem_append.mp hother with hother | hother <;> simp [hother]

/-- A move of the worker keeps the stage's shape, and different numbers. -/
lemma Sound.advance (h : l.Sound) {m : Move κ} {a : Activity κ} {traces : List (Trace κ)}
    (hm : l.activity.Driven m)
    (fresh : ∀ op ∈ m.brings, l.activity.stage.awaiting? op.id = none)
    (hs : l.activity.step m = some (a, traces)) {later : List (Operation κ)}
    (hq : l.queued = m.brings ++ later) :
    a.Single ∧ ((later ++ a.inHand).map Operation.id).Nodup ∧
      ∀ op ∈ later ++ a.inHand, op.id < l.nextId :=
  ⟨h.single.step hm fresh hs,
    numbers_step h.single.orderly hm.permits fresh hs hq h.distinct h.known⟩

lemma Sound.of_tasks (h : l.Sound) (ht : Tasks M l l') : l'.Sound := by
  have hbusy : ∀ {l : Ask κ × Frame κ} {levels : List (Ask κ × Frame κ)}, levels = [l] →
      levels ≠ [] := by
    rintro l _ rfl
    exact List.cons_ne_nil _ _
  cases ht with
  | chain hlevels hstep log sink =>
      obtain ⟨hsingle, hd, hk⟩ :=
        h.advance (m := .proceed) (.inl trivial) (List.forall_mem_nil _) hstep rfl
      exact ⟨hsingle, fun _ => h.busy (hbusy hlevels), hd, hk⟩
  | create hlevels hstep log sink =>
      obtain ⟨hsingle, hd, hk⟩ :=
        h.advance (m := .created _) (.inl trivial) (List.forall_mem_nil _) hstep rfl
      exact ⟨hsingle, fun _ => h.busy (hbusy hlevels), hd, hk⟩
  | call hlevels hcall =>
      refine ⟨h.single, fun _ => h.busy (hbusy hlevels), ?_, ?_⟩ <;>
        rw [queued, queued_put_reports]
      · exact h.distinct
      · exact h.known
  | @answer session c frame answer reports world a traces hlevels hcall hstep log sink =>
      obtain ⟨hsingle, hd, hk⟩ := h.advance (byWorker_ended answer hlevels).driven
        (by rw [brings_ended]; exact List.forall_mem_nil _) hstep
        (by rw [brings_ended, List.nil_append])
      refine ⟨hsingle, fun _ => h.busy (hbusy hlevels), ?_, ?_⟩ <;> rw [queued, queued_put_reports]
      · exact hd
      · exact hk
  | release hlevels hstep log sink =>
      obtain ⟨hsingle, hd, hk⟩ :=
        h.advance (m := .proceed) (.inl trivial) (List.forall_mem_nil _) hstep rfl
      refine ⟨hsingle, fun _ => h.busy (hbusy hlevels), ?_, ?_⟩ <;> rw [queued, queued_put_reports]
      · exact hd
      · exact hk
  | @job job rest a traces hlevels hphase hqueue hstep log sink =>
      obtain ⟨hsingle, hd, hk⟩ := h.advance (driven_start hlevels job) (h.fresh_start hqueue) hstep
        (queued_of_job hqueue)
      exact ⟨hsingle, fun _ => hphase, hd, hk⟩
  | leave hlevels hleaves log =>
      have hqueued := hleaves.jobs_sublist.filterMap Job.operation?
      refine ⟨h.single, fun hne => (hne hlevels).elim, ?_, ?_⟩
      · exact ((hqueued.append_right _).map _).nodup h.distinct
      · intro op hop
        refine h.known op ?_
        rcases List.mem_append.mp hop with hop | hop
        · exact List.mem_append_left _ (hqueued.subset hop)
        · exact List.mem_append_right _ hop

/-- Whatever is sent to the pipeline's worker but operations leaves the shape. -/
lemma Sound.offer (h : l.Sound) {jobs : List (Job κ)} (hjobs : jobs.filterMap Job.operation? = [])
    (world : ω) : Sound { l with world, inbox := l.inbox.offer jobs } := by
  have hqueued : (Mailbox.jobs (l.inbox.offer jobs).queue).filterMap Job.operation? = l.queued := by
    rw [queued]
    rcases l.inbox.offer_cases jobs with he | he <;> rw [he]
    rw [Mailbox.jobs_put, List.filterMap_append, hjobs, List.append_nil]
  refine ⟨h.single, fun hne => (Mailbox.phase_offer _ _).trans (h.busy hne), ?_, ?_⟩ <;>
    rw [queued, hqueued]
  · exact h.distinct
  · exact h.known

def fresh (l : Link κ ω) (request : Request) (callback : κ) : Operation κ :=
  { id := l.nextId, request, callback := some callback }

/-- A submitted operation gets a new number, and is sent to the pipeline's worker. -/
lemma exists_submit_eq_offer (l : Link κ ω) (caller : Option Context) (request : Request)
    (callback : κ) :
    ∃ log, l.submit caller request callback
      = { l with
          nextId := l.nextId + 1
          inbox := l.inbox.offer [.run (l.fresh request callback)]
          log } := by
  rw [submit, send_eq_offer]
  exact ⟨_, rfl⟩

/-- **An operation is brought**, with a callback or without. -/
def bring (l : Link κ ω) (request : Request) (callback : Option κ) : Link κ ω :=
  { l with nextId := l.nextId + 1 }.send (.run { id := l.nextId, request, callback })

lemma Sound.bring (h : l.Sound) (request : Request) (callback : Option κ) :
    (l.bring request callback).Sound := by
  set op : Operation κ := { id := l.nextId, request, callback } with hop
  have hperm : (l.queued ++ [op] ++ l.activity.inHand).Perm
      (op :: (l.queued ++ l.activity.inHand)) := by
    rw [List.append_assoc]
    exact List.perm_middle
  rw [Link.bring, send_eq_offer, ← hop]
  refine ⟨h.single, fun hne => (Mailbox.phase_offer _ _).trans (h.busy hne), ?_, ?_⟩
  · rw [queued]
    rcases l.inbox.offer_cases [.run op] with he | he <;> rw [he]
    · exact h.distinct
    · rw [queued_put_run]
      refine ((hperm.map Operation.id).nodup_iff).mpr (List.nodup_cons.mpr ⟨?_, h.distinct⟩)
      intro hid
      obtain ⟨other, hother, he⟩ := List.mem_map.mp hid
      exact absurd (h.known other hother) (by rw [he]; exact Nat.lt_irrefl _)
  · rw [queued]
    rcases l.inbox.offer_cases [.run op] with he | he <;> rw [he]
    · exact fun other hother => Nat.lt_succ_of_lt (h.known other hother)
    · rw [queued_put_run]
      intro other hother
      rcases List.mem_cons.mp (hperm.mem_iff.mp hother) with rfl | hother
      · exact Nat.lt_succ_self _
      · exact Nat.lt_succ_of_lt (h.known other hother)

/-- Whoever submits an operation brings one with a callback, and writes that down. -/
lemma Sound.submit (h : l.Sound) (caller : Option Context) (request : Request) (callback : κ) :
    (l.submit caller request callback).Sound :=
  (h.bring request (some callback)).of_eq rfl rfl rfl

/-- The callback worker goes on; nothing changes for the pipeline. -/
lemma beginUser_core (hs : l.beginUser = some l') :
    l'.activity = l.activity ∧ l'.inbox = l.inbox ∧ l'.world = l.world ∧ l'.nextId = l.nextId := by
  rw [beginUser] at hs
  cases hu : l.user with
  | some c =>
      rw [hu] at hs
      cases hs
  | none =>
      simp only [hu] at hs
      split at hs <;> cases hs <;> exact ⟨rfl, rfl, rfl, rfl⟩

/-- When a piece of the user's code ends, nothing else changes but what is written down. -/
lemma exists_eq_of_endUser {panic : Option String}
    (hs : (l.user.map fun _ => l.endUser panic) = some l') :
    ∃ log sink, l' = { l with user := none, log, sink } := by
  obtain ⟨c, -, rfl⟩ := Option.map_eq_some_iff.mp hs
  unfold endUser
  split <;> exact ⟨_, _, rfl⟩

end Link

end DeviceLink
