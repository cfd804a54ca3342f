import DeviceLink.Proofs.Link.Settlement

/-!
# What a shutdown leaves behind

A shutdown has everything given up, and then orders the workers to stop.  These are two commands in
the mailbox of the pipeline's worker, and others may send theirs between them; so a session may be
made after everything was given up, and operations may be left with it when the worker is gone.

* `Closure`, `Occurrence`, `Closure.run` — a link with the calls of its shutdown, and a run.
* `InLine`, **`InLine.happens`** — the first order to give everything up comes before any order to
  stop.
* **`Closure.settled_of_exited`** — what is left when both workers are gone.
* **`Closure.left_behind`** — something may be left.
-/

namespace DeviceLink

open Dispatch

variable {κ ω ε : Type}

/-! ## What happens -/

/-- A link with the calls of its shutdown: by whom each was made, and how far it has come. -/
structure Closure (κ ω : Type) where
  link : Link κ ω
  calls : List (Option Context × Shutdown) := []

/-- One thing that happens to a link with the calls of its shutdown. -/
inductive Occurrence (κ ε : Type) where
  | happening (h : Happening κ ε)
  /-- A thread, which may be one of the workers, begins to shut the link down. -/
  | begin (worker : Option Context)
  /-- A call of the shutdown makes a step. -/
  | advance (i : Nat)

namespace Settlement

def note (W : World ω ε) (before after : Closure κ ω) (g : Settlement κ) :
    Occurrence κ ε → Settlement κ
  | .happening h => g.tell W h before.link after.link
  | .begin _ => g
  | .advance i => { g with sent := g.sent || before.calls[i]?.any (·.2 = .abandon) }

end Settlement

namespace Closure

/-- **One thing happens**, if it can happen. -/
def occurs (W : World ω ε) (s : Closure κ ω) : Occurrence κ ε → Option (Closure κ ω)
  | .happening h => (s.link.happens W h).map fun link => { s with link }
  | .begin worker => some { s with calls := s.calls ++ [(worker, .abandon)] }
  | .advance i =>
    s.calls[i]?.bind fun call =>
      (s.link.shutdownStep call.1 call.2).map fun r =>
        { link := r.1, calls := s.calls.set i (call.1, r.2) }

/-- **A run**, with its record.  What cannot happen is passed over. -/
def run (W : World ω ε) : Closure κ ω × Settlement κ → List (Occurrence κ ε) →
    Closure κ ω × Settlement κ :=
  runWith (occurs W) id fun o s next g => g.note W s next o

end Closure

/-! ## The first order to give up -/

/-- Neither an order to give everything up nor one to stop. -/
def Dispatch.Command.Plain : Command (Job κ) → Prop
  | .run .abandon | .stop => False
  | .run (.run _) | .run (.report _) => True

/-- **The first order to give everything up comes before any order to stop**, so the worker comes
to it; and what comes after it in the queue, or has been taken since the last of its kind, was
submitted after an order of its kind was sent. -/
inductive InLine (m : Mailbox (Job κ)) (g : Settlement κ) : Prop where
  | before (hsent : g.sent = false) (hlate : g.late = []) (hphase : m.phase = .running)
      (hqueue : ∀ command ∈ m.queue, command.Plain)
  | ordered (hsent : g.sent = true) (hphase : m.phase = .running)
      (front back : List (Command (Job κ))) (hfront : ∀ command ∈ front, command.Plain)
      (hqueue : m.queue = front ++ .run .abandon :: back)
      (hback : receipts (entrusted back) ≤ g.late)
  | after (hsent : g.sent = true) (habandoned : 0 < g.abandoned)
      (htaken : receipts (entrusted m.queue) + g.taken ≤ g.late)

namespace InLine

variable {W : World ω ε} {l l' : Link κ ω} {m : Mailbox (Job κ)} {g g' : Settlement κ}

lemma congr (h : InLine m g) (hsent : g'.sent = g.sent) (hlate : g'.late = g.late)
    (habandoned : g'.abandoned = g.abandoned) (htaken : g'.taken = g.taken) : InLine m g' := by
  cases h with
  | before hs hl hphase hqueue => exact .before (hsent.trans hs) (hlate.trans hl) hphase hqueue
  | ordered hs hphase front back hfront hqueue hback =>
      exact .ordered (hsent.trans hs) hphase front back hfront hqueue (hlate ▸ hback)
  | after hs ha ht =>
      exact .after (hsent.trans hs) (habandoned ▸ ha) (by rw [hlate, htaken]; exact ht)

/-- Anything but an order is sent to the worker. -/
lemma offer (h : InLine m g) {js : List (Job κ)} (hplain : ∀ job ∈ js, (Command.run job).Plain)
    (hsent : g'.sent = g.sent) (habandoned : g'.abandoned = g.abandoned)
    (htaken : g'.taken = g.taken)
    (hlate : g'.late = if g.sent then
      g.late ++ (js.filterMap Job.operation?).map Operation.receipt else g.late) :
    InLine (m.offer js) g' := by
  have hput : ∀ commands : List (Command (Job κ)), entrusted (commands ++ js.map .run)
      = entrusted commands ++ js.filterMap Job.operation? := by
    intro commands
    have hjobs := Mailbox.jobs_put { queue := commands } js
    rw [entrusted, entrusted, ← List.filterMap_append, ← hjobs]
    rfl
  cases h with
  | before hs hl hphase hqueue =>
      rw [Mailbox.offer_of_running hphase]
      refine .before (hsent.trans hs) (by rw [hlate, hs, hl]; rfl) hphase fun command hc => ?_
      rcases List.mem_append.mp hc with hc | hc
      · exact hqueue command hc
      · obtain ⟨job, hjob, rfl⟩ := List.mem_map.mp hc
        exact hplain job hjob
  | ordered hs hphase front back hfront hqueue hback =>
      rw [Mailbox.offer_of_running hphase]
      refine .ordered (hsent.trans hs) hphase front (back ++ js.map .run) hfront ?_ ?_
      · simp only [Mailbox.put, hqueue, List.append_assoc, List.cons_append]
      · rw [hlate, hs, if_pos rfl, ← Multiset.coe_add, hput, receipts_append]
        exact add_le_add hback (le_refl _)
  | after hs ha ht =>
      refine .after (hsent.trans hs) (habandoned ▸ ha) ?_
      rw [hlate, hs, if_pos rfl, ← Multiset.coe_add, htaken]
      have hle := (Multiset.le_add_right _ _).trans (Link.receipts_offer m js).le
      refine (add_le_add hle (le_refl _)).trans ?_
      rw [add_right_comm]
      exact add_le_add ht (le_refl _)

/-- The order to give everything up is sent. -/
lemma giveUp (h : InLine m g) : InLine (m.offer [.abandon]) { g with sent := true } := by
  cases h with
  | before hs hl hphase hqueue =>
      rw [Mailbox.offer_of_running hphase]
      exact .ordered rfl hphase m.queue [] hqueue rfl (Multiset.zero_le _)
  | ordered hs hphase front back hfront hqueue hback =>
      rw [Mailbox.offer_of_running hphase]
      refine .ordered rfl hphase front (back ++ [.run .abandon]) hfront ?_ ?_
      · simp only [Mailbox.put, hqueue, List.append_assoc, List.cons_append, List.map_cons,
          List.map_nil]
      · rw [receipts_entrusted_append]
        exact (add_zero _).le.trans hback
  | after hs ha ht =>
      refine .after rfl ha ?_
      have hoffer := Link.receipts_offer m [.abandon]
      have hnone : ([.abandon] : List (Job κ)).filterMap Job.operation? = [] := rfl
      rw [hnone, ite_self, receipts_nil, add_zero, add_zero] at hoffer
      rw [hoffer]
      exact ht

/-- The order to stop is sent. -/
lemma order (h : InLine m g) (hsent : g.sent = true) : InLine m.sendStop.claim g := by
  cases h with
  | before hs hl hphase hqueue => cases hs.symm.trans hsent
  | ordered hs hphase front back hfront hqueue hback =>
      refine .ordered hs ((Link.jobs_sendStop m).2.trans hphase) front (back ++ [.stop]) hfront
        ?_ ?_
      · simp only [Mailbox.sendStop, hphase, Mailbox.claim, hqueue, List.append_assoc,
          List.cons_append]
      · rw [receipts_entrusted_append]
        exact (add_zero _).le.trans hback
  | after hs ha ht =>
      refine .after hs ha ?_
      rw [entrusted, (Link.jobs_sendStop m).1]
      exact ht

/-- What happens leaves the line alone, unless it submits or takes something. -/
lemma told (h : InLine m g) {happening : Happening κ ε} (hsubmits : l.submits? happening = none)
    (htakes : l.takes? happening = none) : InLine m (g.tell W happening l l') := by
  refine h.congr rfl ?_ ?_ ?_ <;> simp only [Settlement.tell, hsubmits, htakes]
  cases g.sent <;> simp

/-- Sessions report. -/
lemma reports (h : InLine m g) (reports : List Report) :
    InLine (m.offer (reports.map Job.report)) g := by
  refine h.offer ?_ rfl rfl rfl ?_
  · intro job hjob
    obtain ⟨r, -, rfl⟩ := List.mem_map.mp hjob
    trivial
  · rw [Link.filterMap_operation_reports, List.map_nil, List.append_nil, ite_self]

/-- Sessions report while the worker is busy with something. -/
lemma busy (h : InLine l.inbox g) {ask : Ask κ} {frame : Frame κ}
    (hlevels : l.activity.levels = [(ask, frame)]) (hphase : l.inbox.phase = .running)
    (reports : List Report) :
    InLine (l.inbox.put (reports.map Job.report)) (g.tell W (.work : Happening κ ε) l l') := by
  rw [← Mailbox.offer_of_running hphase]
  exact (h.reports reports).told rfl (Link.takes?_of_levels hlevels)

/-- The worker takes the next job. -/
lemma take (h : InLine l.inbox g) {job : Job κ} {rest : List (Command (Job κ))}
    (hlevels : l.activity.levels = []) (hphase : l.inbox.phase = .running)
    (hqueue : l.inbox.queue = .run job :: rest) :
    InLine { l.inbox with queue := rest } (g.tell W (.work : Happening κ ε) l l') := by
  have htakes : l.takes? (.work : Happening κ ε) = some job := by
    rw [Link.takes?, Activity.asked?_of_nil hlevels, Mailbox.turn, hphase, hqueue]
  have hlate : (g.tell W (.work : Happening κ ε) l l').late = g.late := by
    simp only [Settlement.tell, Link.submits?]
    cases g.sent <;> simp
  cases h with
  | before hs hl _ hplain =>
      rw [hqueue] at hplain
      exact .before hs (hlate.trans hl) hphase fun command hc =>
        hplain command (List.mem_cons_of_mem _ hc)
  | ordered hs _ front back hfront hline hback =>
      rw [hqueue] at hline
      cases front with
      | nil =>
          -- the worker has come to the first order to give everything up
          cases hline
          refine .after hs ?_ ?_
          · simp only [Settlement.tell, htakes]
            exact Nat.succ_pos _
          · rw [hlate]
            simp only [Settlement.tell, htakes]
            exact (add_zero _).le.trans hback
      | cons command front =>
          cases hline
          exact .ordered hs hphase front back
            (fun other hother => hfront other (List.mem_cons_of_mem _ hother)) rfl (hlate ▸ hback)
  | after hs ha ht =>
      rw [hqueue] at ht
      refine .after hs ?_ ?_
      · simp only [Settlement.tell, htakes]
        cases job with
        | abandon => exact Nat.succ_pos _
        | run _ | report _ => exact ha
      · rw [hlate]
        simp only [Settlement.tell, htakes]
        cases job with
        | abandon => exact (add_zero _).le.trans ((Multiset.le_add_right _ _).trans ht)
        | report _ => exact ht
        | run op =>
            have hcons : receipts (entrusted (.run (.run op) :: rest))
                = receipts (entrusted rest) + receipts [op] := by
              rw [add_comm, ← receipts_append]
              rfl
            rw [hcons, add_assoc, add_comm (receipts [op])] at ht
            rw [← Multiset.coe_add]
            exact ht

/-- The worker leaves only when it has come to the first order to give everything up. -/
lemma leave (h : InLine m g) {left : Mailbox (Job κ)} (hleaves : m.Leaves left) :
    InLine left g := by
  cases h with
  | before hs hl hphase hplain =>
      rw [hleaves.queue_of_running hphase] at hplain
      exact (hplain .stop List.mem_cons_self).elim
  | ordered hs hphase front back hfront hline hback =>
      rw [hleaves.queue_of_running hphase] at hline
      cases front with
      | nil => cases hline
      | cons command front =>
          rw [List.cons_append, List.cons.injEq] at hline
          exact (hfront .stop (hline.1 ▸ List.mem_cons_self)).elim
  | after hs ha ht =>
      refine .after hs ha (le_trans (add_le_add ?_ (le_refl _)) ht)
      have hsub := (hleaves.jobs_sublist.filterMap Job.operation?).map Operation.receipt
      exact Multiset.coe_le.mpr hsub.subperm

/-- **Whatever the worker does**, it keeps to the line. -/
lemma tasks (h : InLine l.inbox g) (hsound : l.Sound) (ht : Link.Tasks W.model l l') :
    InLine l'.inbox (g.tell W (.work : Happening κ ε) l l') := by
  have hphase : ∀ {ask : Ask κ} {frame : Frame κ}, l.activity.levels = [(ask, frame)] →
      l.inbox.phase = .running := by
    intro ask frame hlevels
    exact hsound.busy (by rw [hlevels]; exact List.cons_ne_nil _ _)
  cases ht with
  | chain hlevels hstep log sink | create hlevels hstep log sink =>
      exact h.told rfl (Link.takes?_of_levels hlevels)
  | call hlevels hcall => exact h.busy hlevels (hphase hlevels) _
  | answer hlevels hcall hstep log sink => exact h.busy hlevels (hphase hlevels) _
  | release hlevels hstep log sink => exact h.busy hlevels (hphase hlevels) _
  | job hlevels hphase hqueue hstep log sink => exact h.take hlevels hphase hqueue
  | leave hlevels hleaves log =>
      refine (h.leave hleaves).told rfl ?_
      rcases Mailbox.leaves_cases hleaves with ⟨-, -, -, hturn⟩ | ⟨-, -, -, hturn⟩ <;>
        rw [Link.takes?, Activity.asked?_of_nil hlevels, hturn]

/-- **Whatever happens**, the first order to give up stays ahead. -/
lemma happens (h : InLine l.inbox g) (hsound : l.Sound) {happening : Happening κ ε}
    (hs : l.happens W happening = some l') : InLine l'.inbox (g.tell W happening l l') := by
  cases happening with
  | submit caller request callback =>
      cases hs
      obtain ⟨log, heq⟩ := l.exists_submit_eq_offer caller request callback
      rw [heq]
      refine h.offer ?_ rfl rfl rfl rfl
      intro job hjob
      rw [List.mem_singleton.mp hjob]
      trivial
  | stir e =>
      obtain ⟨⟨reports, world⟩, -, rfl⟩ := Option.map_eq_some_iff.mp hs
      rw [Link.happen_eq_offer]
      exact (h.reports reports).told rfl rfl
  | work => exact h.tasks hsound (hsound.tasks hs)
  | beginUser =>
      rw [(Link.beginUser_core hs).2.1]
      exact h.told rfl rfl
  | endUser panic =>
      obtain ⟨log, sink, rfl⟩ := Link.exists_eq_of_endUser hs
      exact h.told rfl rfl
  | handle kept =>
      cases hs
      exact h.told rfl rfl

end InLine

namespace Closure

variable {W : World ω ε} {s next : Closure κ ω} {g : Settlement κ}

/-- **What holds of a link with the calls of its shutdown**: everything is accounted for, and the
first order to give everything up comes before any order to stop. -/
structure Tracked (s : Closure κ ω) (g : Settlement κ) : Prop where
  accounted : s.link.Accounted g
  line : InLine s.link.inbox g
  calls : ∀ call ∈ s.calls, call.2 ≠ .abandon → g.sent = true

lemma tracked_build {c : PipelineConfig} {listens : Bool} {world : ω} {l : Link κ ω}
    (h : Link.build c listens (some world) = .ok l) : ({ link := l } : Closure κ ω).Tracked {} := by
  have hsound := (Link.steady_build h).sound
  cases h
  exact ⟨⟨hsound, Activity.composed_new _, rfl, List.forall_mem_nil _, List.nodup_nil,
      List.forall_mem_nil _, iff_of_false Bool.false_ne_true (Nat.lt_irrefl 0), le_refl _,
      Mailbox.cleared_of_running rfl, Mailbox.cleared_of_running rfl⟩,
    .before rfl rfl rfl (List.forall_mem_nil _), List.forall_mem_nil _⟩

/-- **Whatever happens**, also to the calls of the shutdown, keeps that. -/
theorem Tracked.occurs (h : s.Tracked g) {o : Occurrence κ ε} (hs : s.occurs W o = some next) :
    next.Tracked (g.note W s next o) := by
  cases o with
  | happening happening =>
      obtain ⟨l, hl, rfl⟩ := Option.map_eq_some_iff.mp hs
      exact ⟨h.accounted.happens hl, h.line.happens h.accounted.sound hl, h.calls⟩
  | begin worker =>
      cases hs
      refine ⟨h.accounted, h.line, fun call hcall hpast => ?_⟩
      rcases List.mem_append.mp hcall with hold | hnew
      · exact h.calls call hold hpast
      · rw [List.mem_singleton.mp hnew] at hpast
        exact (hpast rfl).elim
  | advance i =>
      obtain ⟨⟨worker, step⟩, hcall, hstep⟩ := Option.bind_eq_some_iff.mp hs
      obtain ⟨⟨l, after⟩, hl, rfl⟩ := Option.map_eq_some_iff.mp hstep
      have hmem : (worker, step) ∈ s.calls := List.mem_of_getElem? hcall
      have hline : g.note W s { link := l, calls := s.calls.set i (worker, after) } (.advance i)
          = { g with sent := true } ∧ InLine l.inbox { g with sent := true } := by
        simp only [Settlement.note, hcall, Option.any_some]
        cases Link.closes_shutdownStep hl with
        | abandon => exact ⟨by simp, h.line.giveUp⟩
        | stop c todo log hnext =>
            have hsent := h.calls _ hmem (by rintro ⟨⟩)
            refine ⟨by simp [hsent], ?_⟩
            cases c with
            | pipeline => exact (h.line.order hsent).congr hsent.symm rfl rfl rfl
            | callback => exact h.line.congr hsent.symm rfl rfl rfl
        | join c todo log =>
            have hsent := h.calls _ hmem (by rintro ⟨⟩)
            exact ⟨by simp [hsent], h.line.congr hsent.symm rfl rfl rfl⟩
      rw [hline.1]
      exact ⟨h.accounted.shutdownStep hl true, hline.2, fun _ _ _ => rfl⟩

/-- **What is left when both workers are gone.** -/
structure Settled (s : Closure κ ω) (g : Settlement κ) : Prop where
  /-- Every callback that was submitted has begun to run, was dropped, or is left with the stage;
  and only one of these. -/
  total : (g.submitted : Multiset (Receipt κ))
    = g.called + g.dropped + receipts s.link.activity.stage.pending
  distinct : g.submitted.Nodup
  /-- Everything was given up at least once. -/
  abandoned : 0 < g.abandoned
  /-- A session is left just when one was made since then. -/
  session : s.link.activity.stage.session.isSome ↔ 0 < g.made
  /-- Where none is left, no operation is. -/
  vacant : s.link.activity.stage.session = none → s.link.activity.stage.Vacant
  /-- Whatever is left was taken since everything was given up last. -/
  recent : receipts s.link.activity.stage.pending ≤ g.taken
  /-- And all of that was submitted after the shutdown had begun. -/
  taken : (g.taken : Multiset (Receipt κ)) ≤ g.late
  /-- So whatever was submitted before is told or dropped. -/
  early : ∀ r ∈ g.early, r ∈ g.called ∨ r ∈ g.dropped

/-- **What a shutdown leaves behind**, whoever submits and whoever else shuts the link down, in
whatever order things happen, once both workers are gone. -/
theorem settled_of_exited {c : PipelineConfig} {listens : Bool} {world : ω} {l : Link κ ω}
    (hbuild : Link.build c listens (some world) = .ok l) (occurrences : List (Occurrence κ ε))
    (hrun : run W ({ link := l }, {}) occurrences = (s, g))
    (hpipeline : s.link.inbox.phase = .exited) (hcallback : s.link.outbox.phase = .exited) :
    s.Settled g := by
  have h := runWith_induction_of_eq hrun Tracked (tracked_build hbuild)
    fun _ _ _ _ h hs => h.occurs hs
  have haccounted := h.accounted
  have hlevels : s.link.activity.levels = [] := by
    by_contra hne
    cases (haccounted.sound.busy hne).symm.trans hpipeline
  have hops : s.link.activity.operations = s.link.activity.stage.pending := by
    rw [Activity.operations, hlevels]
    rfl
  have hclaims : s.link.activity.claims = s.link.activity.stage.pending := by
    rw [Activity.claims, hlevels]
    rfl
  have hunderway : s.link.underway = receipts s.link.activity.stage.pending := by
    rw [Link.underway, Link.queued, haccounted.inbox hpipeline, haccounted.outbox hcallback, hops]
    exact (add_zero _).trans (zero_add _)
  have hrecent := haccounted.claims
  rw [hclaims] at hrecent
  have hnodup : g.submitted.Nodup := List.Nodup.of_map _ haccounted.distinct
  have htotal := haccounted.total
  rw [hunderway, add_assoc, add_comm] at htotal
  cases h.line with
  | before _ _ hphase _ => cases hphase.symm.trans hpipeline
  | ordered _ hphase _ _ _ _ _ => cases hphase.symm.trans hpipeline
  | after hsent habandoned htaken =>
      have hlate := (Multiset.le_add_left _ _).trans htaken
      refine ⟨htotal.symm, hnodup, habandoned, haccounted.session, haccounted.composed.tied,
        hrecent, hlate, fun r hr => ?_⟩
      have hmem : r ∈ (g.submitted : Multiset (Receipt κ)) := List.mem_append_left _ hr
      rw [← htotal, Multiset.mem_add, Multiset.mem_add] at hmem
      refine hmem.resolve_right fun hleft => ?_
      have hinlate : r ∈ g.late := Multiset.mem_of_le (hrecent.trans hlate) hleft
      exact (List.nodup_append.mp hnodup).2.2 r hr r hinlate rfl

/-- Everything is ordered to be given up, and another thread submits two operations before the
worker is ordered to stop: a session is made, and asked to connect. -/
def overtaken : List (Occurrence Nat (List Report)) :=
  [.begin none, .advance 0,
    .happening (.submit none (.setConnectionArgs ⟨"hub", "device", "id", none⟩) 10),
    .happening (.submit none .connect 20), .advance 0]
  ++ List.replicate 8 (.happening .work)
  ++ [.advance 0, .advance 0, .happening .beginUser, .happening (.endUser none),
    .happening .beginUser, .happening .beginUser, .advance 0]

/-- **Something may be left**: a shutdown has returned and both workers are gone, but there is a
session, and an operation waits with it. -/
theorem left_behind :
    ∃ l : Link Nat Unit, Link.build {} false (some ()) = .ok l ∧
      let r := run Link.obliging ({ link := l }, {}) overtaken
      r.1.calls = [(none, .stop [])] ∧ r.1.link.inbox.phase = .exited ∧
        r.1.link.outbox.phase = .exited ∧ r.1.link.activity.stage.session = some 0 ∧
        r.1.link.activity.stage.activeConnect.map Operation.id = some 2 ∧
        ∃ receipt ∈ r.2.submitted, receipt ∉ r.2.called ∧ receipt ∉ r.2.dropped := by
  refine ⟨_, rfl, ?_, ?_, ?_, ?_, ?_, ⟨2, "Connect", some 20⟩, ?_, ?_, ?_⟩ <;> decide

/-- What is left when everything is given up too early. -/
theorem settled_of_overtaken :
    ∃ l : Link Nat Unit, Link.build {} false (some ()) = .ok l ∧
      let r := run Link.obliging ({ link := l }, {}) overtaken
      r.2.taken.map Receipt.id = [1, 2] ∧ r.2.called.map Receipt.id = [1] ∧ r.1.Settled r.2 := by
  refine ⟨_, rfl, ?_, ?_, ?_⟩
  · decide
  · decide
  · exact settled_of_exited rfl overtaken (Prod.eta _).symm (by decide) (by decide)

end Closure

end DeviceLink
