import DeviceLink.Proofs.Link.Closing
import DeviceLink.Proofs.Link.Places
import DeviceLink.Proofs.Stage.Parting

/-!
# Everything accounted for

While a link is shut down, callbacks may be dropped: what is sent to a worker that is gone is, and
so is what waits when a worker goes.  Everything else that was submitted is under way, or its
callback has begun to run.  There is a session just when one was made since the worker last gave
everything up, and what is with it was taken since then.

* `Settlement` — the record of a run: what was submitted, what has become of it, and what the worker
  has done since it last gave everything up.
* `Link.Accounted` — everything that was submitted is accounted for.
* `Link.Begins`, `Link.Closes` — what the callback worker can do, and a step of a shutdown.
* **`Accounted.happens`**, **`Accounted.shutdownStep`** — whatever happens keeps the account.
-/

namespace DeviceLink

open Dispatch

/-! ## Mailboxes -/

namespace Dispatch.Mailbox

variable {J : Type} {m left : Mailbox J}

/-- A worker that is gone has left nothing in its mailbox. -/
def Cleared (m : Mailbox J) : Prop := m.phase = .exited → m.queue = []

lemma cleared_of_running (h : m.phase = .running) : m.Cleared := by
  intro he
  cases h.symm.trans he

lemma Cleared.offer (h : m.Cleared) (js : List J) : (m.offer js).Cleared := by
  intro he
  rw [phase_offer] at he
  rw [Mailbox.offer, he]
  exact h he

lemma Cleared.order (h : m.Cleared) : m.sendStop.claim.Cleared := by
  intro he
  rw [(Link.jobs_sendStop m).2] at he
  rw [sendStop, he]
  exact h he

/-- Whatever is sent waits, unless the worker is gone. -/
lemma filterMap_jobs_offer {α : Type} (m : Mailbox J) (js : List J) (f : J → Option α) :
    ((jobs (m.offer js).queue).filterMap f : Multiset α)
        + (if m.phase = .exited then js.filterMap f else [] : List α)
      = (jobs m.queue).filterMap f + js.filterMap f := by
  rw [Mailbox.offer]
  cases m.phase with
  | exited => rw [if_pos rfl]
  | running | stopped =>
      rw [if_neg (by rintro ⟨⟩), Multiset.coe_nil, add_zero, jobs_put, List.filterMap_append,
        ← Multiset.coe_add]

/-- **What a worker that leaves makes of its mailbox**: it takes the order to stop, or goes. -/
lemma leaves_cases (h : m.Leaves left) :
    (m.phase = .running ∧ m.queue = .stop :: left.queue ∧ left.phase = .stopped ∧
        m.turn = .stop left) ∨
      (m.phase = .stopped ∧ left.queue = [] ∧ left.phase = .exited ∧
        m.turn = .exit (jobs m.queue) left) := by
  obtain ⟨queue, phase, joinable⟩ := m
  cases phase with
  | running =>
      rcases queue with _ | ⟨_ | job, rest⟩ <;> rcases h with h | ⟨dropped, h⟩ <;> cases h
      exact .inl ⟨rfl, rfl, rfl, rfl⟩
  | stopped =>
      rcases h with h | ⟨dropped, h⟩ <;> cases h
      exact .inr ⟨rfl, rfl, rfl, rfl⟩
  | exited => rcases h with h | ⟨dropped, h⟩ <;> cases h

lemma Leaves.queue_of_running (h : m.Leaves left) (hphase : m.phase = .running) :
    m.queue = .stop :: left.queue := by
  rcases leaves_cases h with ⟨-, hqueue, -, -⟩ | ⟨hstopped, -, -, -⟩
  · exact hqueue
  · cases hphase.symm.trans hstopped

lemma Leaves.cleared (h : m.Leaves left) : left.Cleared := by
  intro he
  rcases leaves_cases h with ⟨-, -, hs, -⟩ | ⟨-, hnil, -, -⟩
  · cases hs.symm.trans he
  · exact hnil

end Dispatch.Mailbox

variable {κ ω ε : Type}

/-! ## The record of a run -/

/-- The record of a run. -/
structure Settlement (κ : Type) where
  /-- The operations that were submitted before an order to give everything up was sent. -/
  early : List (Receipt κ) := []
  /-- Those that were submitted since. -/
  late : List (Receipt κ) := []
  /-- The operations whose callbacks have begun to run on the callback worker, each time that one
  has. -/
  called : List (Receipt κ) := []
  /-- Those whose callbacks were dropped, because a worker was gone. -/
  dropped : List (Receipt κ) := []
  /-- An order to give everything up was sent. -/
  sent : Bool := false
  /-- How often the worker has given everything up. -/
  abandoned : Nat := 0
  /-- The operations that the worker has taken since it last gave everything up. -/
  taken : List (Receipt κ) := []
  /-- How many sessions were made since then. -/
  made : Nat := 0

def Settlement.submitted (g : Settlement κ) : List (Receipt κ) := g.early ++ g.late

namespace Link

variable {W : World ω ε} {M : SessionModel ω} {l l' : Link κ ω}

def submits? (l : Link κ ω) : Happening κ ε → Option (Receipt κ)
  | .submit _ request callback => some (l.fresh request callback).receipt
  | .stir _ | .work | .beginUser | .endUser _ | .handle _ => none

/-- The callbacks that are dropped: an operation is submitted to a worker that is gone, or the
completion of one is sent there; or a worker goes and drops what waits for it. -/
def drops (l : Link κ ω) : Happening κ ε → List (Receipt κ)
  | .submit _ request callback =>
    if l.inbox.phase = .exited then [(l.fresh request callback).receipt] else []
  | .work =>
    match l.activity.asked?, l.inbox.turn with
    | some (.chain c), _ =>
      if l.outbox.phase = .exited then
        (calls (l.root.handle c).2).filterMap UserCall.receipt?
      else []
    | none, .exit waiting _ => (waiting.filterMap Job.operation?).map Operation.receipt
    | _, _ => []
  | .beginUser =>
    match l.user, l.outbox.turn with
    | none, .exit waiting _ => waiting.filterMap UserCall.receipt?
    | _, _ => []
  | .stir _ | .endUser _ | .handle _ => []

/-- The job that the pipeline's worker takes. -/
def takes? (l : Link κ ω) : Happening κ ε → Option (Job κ)
  | .work =>
    match l.activity.asked?, l.inbox.turn with
    | none, .job job _ => some job
    | _, _ => none
  | .submit _ _ _ | .stir _ | .beginUser | .endUser _ | .handle _ => none

/-- A session is made. -/
def makes (W : World ω ε) (l : Link κ ω) : Happening κ ε → Bool
  | .work =>
    match l.activity.asked? with
    | some (.create args) => (W.model.create l.world args).1.isOk
    | _ => false
  | .submit _ _ _ | .stir _ | .beginUser | .endUser _ | .handle _ => false

end Link

namespace Settlement

/-- What the observer writes down when something happens to the link. -/
def tell (W : World ω ε) (h : Happening κ ε) (before after : Link κ ω) (g : Settlement κ) :
    Settlement κ where
  early := if g.sent then g.early else g.early ++ (before.submits? h).toList
  late := if g.sent then g.late ++ (before.submits? h).toList else g.late
  called :=
    match h with
    | .beginUser => g.called ++ (after.user.bind UserCall.receipt?).toList
    | .submit _ _ _ | .stir _ | .work | .endUser _ | .handle _ => g.called
  dropped := g.dropped ++ before.drops h
  sent := g.sent
  abandoned :=
    match before.takes? h with
    | some .abandon => g.abandoned + 1
    | some (.run _) | some (.report _) | none => g.abandoned
  taken :=
    match before.takes? h with
    | some .abandon => []
    | some (.run op) => g.taken ++ [op.receipt]
    | some (.report _) | none => g.taken
  made :=
    match before.takes? h with
    | some .abandon => 0
    | some (.run _) | some (.report _) | none => g.made + (before.makes W h).toNat

end Settlement

/-! ## Every callback -/

lemma receipts_mono {ops more : List (Operation κ)} (h : stock ops ≤ stock more) :
    receipts ops ≤ receipts more := by
  rw [receipts_eq_map_stock, receipts_eq_map_stock]
  exact Multiset.map_le_map h

/-- The operations among some commands. -/
def entrusted (commands : List (Command (Job κ))) : List (Operation κ) :=
  (Mailbox.jobs commands).filterMap Job.operation?

lemma receipts_entrusted_append (commands more : List (Command (Job κ))) :
    receipts (entrusted (commands ++ more))
      = receipts (entrusted commands) + receipts (entrusted more) := by
  rw [entrusted, Mailbox.jobs, List.filterMap_append, List.filterMap_append, receipts_append]
  rfl

namespace Settlement

variable {W : World ω ε} {before after : Link κ ω} {g : Settlement κ} {h : Happening κ ε}

lemma submitted_tell : (g.tell W h before after).submitted.Perm
    (g.submitted ++ (before.submits? h).toList) := by
  simp only [submitted, tell]
  cases g.sent with
  | true => exact (List.append_assoc _ _ _).symm ▸ List.Perm.refl _
  | false =>
      simp only [Bool.false_eq_true, if_false, List.append_assoc]
      exact List.perm_append_comm.append_left _

end Settlement

namespace Link

variable {W : World ω ε} {M : SessionModel ω} {l l' : Link κ ω} {g : Settlement κ}

/-- **Everything that was submitted** is under way, was told, or was dropped.  There is a session
just when one was made since the worker last gave everything up, and what is not being given up was
taken since then. -/
structure Accounted (l : Link κ ω) (g : Settlement κ) : Prop where
  sound : l.Sound
  composed : l.activity.Composed
  total : l.underway + g.called + g.dropped = g.submitted
  callback : ∀ r ∈ g.submitted, r.callback.isSome
  distinct : (g.submitted.map Receipt.id).Nodup
  known : ∀ r ∈ g.submitted, r.id < l.nextId
  session : l.activity.stage.session.isSome ↔ 0 < g.made
  claims : receipts l.activity.claims ≤ g.taken
  inbox : l.inbox.Cleared
  outbox : l.outbox.Cleared

lemma Accounted.callback_of_mem (h : l.Accounted g) {op : Operation κ}
    (hop : op ∈ l.activity.operations) : op.callback.isSome := by
  have hmem : op.receipt ∈ receipts l.activity.operations := List.mem_map_of_mem hop
  have hin : op.receipt ∈ (g.submitted : Multiset (Receipt κ)) := by
    rw [← h.total, underway]
    simp only [Multiset.mem_add]
    exact .inl (.inl (.inl (.inr hmem)))
  exact h.callback _ hin

/-! ### The pipeline's worker -/

/-- A move of the worker loses no operation. -/
lemma receipts_operations (h : l.activity.Composed) {m : Move κ} {a : Activity κ}
    {traces : List (Trace κ)} (hm : l.activity.Driven m)
    (fresh : ∀ op ∈ m.brings, l.activity.stage.awaiting? op.id = none)
    (hs : l.activity.step m = some (a, traces))
    (hlevels : l.activity.levels.flatMap (·.1.operations) = []) :
    receipts a.operations = receipts m.brings + receipts l.activity.operations := by
  have hleft := h.stock_step hm fresh hs
  rw [← operations_eq_inHand hlevels] at hleft
  exact receipts_of_stock hleft

lemma drops_of_asked {ask : Ask κ} {frame : Frame κ} (hlevels : l.activity.levels = [(ask, frame)])
    (hask : ∀ c, ask ≠ .chain c) : l.drops (.work : Happening κ ε) = [] := by
  have hasked := Activity.asked?_of_levels hlevels
  rw [drops, hasked]
  cases ask with
  | chain c => exact (hask c rfl).elim
  | create _ | call _ _ | release _ => rfl

/-- Nothing moves, and nothing is dropped. -/
lemma underway_of_kept (hqueued : l'.queued = l.queued)
    (hops : receipts l'.activity.operations = receipts l.activity.operations)
    (hout : l'.outbox = l.outbox) (hdrops : l.drops (.work : Happening κ ε) = []) :
    l'.underway + (l.drops (.work : Happening κ ε) : List (Receipt κ)) = l.underway := by
  rw [hdrops, Multiset.coe_nil, add_zero, underway, underway, hqueued, hops, hout]

/-- **What the pipeline's worker does** with everything under way: it goes on, or it is dropped. -/
lemma underway_tasks (h : l.Accounted g) (ht : Tasks M l l') :
    l'.underway + (l.drops (.work : Happening κ ε) : List (Receipt κ)) = l.underway := by
  cases ht with
  | @chain c frame a traces hlevels hstep log sink =>
      -- the operation leaves the stage and goes on as a call of its callback
      have hleft := h.composed.stock_step (m := .proceed) (.inl trivial) (List.forall_mem_nil _)
        hstep
      have hops := stock_operations_of_chain hlevels hleft
      have hc : ∀ op ∈ c.operation?.toList, op.callback.isSome := by
        intro op hop
        refine h.callback_of_mem ?_
        simp [Activity.operations, hlevels, Ask.operations, hop]
      have htold : (((calls (l.root.handle c).2).filterMap UserCall.receipt? : List (Receipt κ)) :
          Multiset (Receipt κ)) = receipts c.operation?.toList := by
        rw [receipts_handle _ _ hc]
        rfl
      have hoffer := l.outbox.filterMap_jobs_offer (calls (l.root.handle c).2) UserCall.receipt?
      have hdrops : l.drops (.work : Happening κ ε)
          = if l.outbox.phase = .exited then
              (calls (l.root.handle c).2).filterMap UserCall.receipt? else [] := by
        rw [drops, Activity.asked?_of_levels hlevels]
      rw [htold] at hoffer
      rw [hdrops, underway, underway, add_assoc, hoffer, receipts_of_stock hops, queued, queued]
      abel
  | create hlevels hstep log sink =>
      have hkept := receipts_operations h.composed (m := .created _) (.inl trivial)
        (List.forall_mem_nil _) hstep (by rw [hlevels]; rfl)
      rw [Move.brings, receipts_nil, zero_add] at hkept
      exact underway_of_kept rfl hkept rfl (drops_of_asked hlevels (by rintro c ⟨⟩))
  | call hlevels hcall =>
      refine underway_of_kept ?_ rfl rfl (drops_of_asked hlevels (by rintro c ⟨⟩))
      exact queued_put_reports _ _
  | @answer session c frame answer reports world a traces hlevels hcall hstep log sink =>
      have hkept := receipts_operations h.composed (byWorker_ended answer hlevels).driven
        (by rw [brings_ended]; exact List.forall_mem_nil _) hstep (by rw [hlevels]; rfl)
      rw [brings_ended, receipts_nil, zero_add] at hkept
      exact underway_of_kept (queued_put_reports _ _) hkept rfl
        (drops_of_asked hlevels (by rintro c ⟨⟩))
  | release hlevels hstep log sink =>
      have hkept := receipts_operations h.composed (m := .proceed) (.inl trivial)
        (List.forall_mem_nil _) hstep (by rw [hlevels]; rfl)
      rw [Move.brings, receipts_nil, zero_add] at hkept
      exact underway_of_kept (queued_put_reports _ _) hkept rfl
        (drops_of_asked hlevels (by rintro c ⟨⟩))
  | @job job rest a traces hlevels hphase hqueue hstep log sink =>
      have hkept := receipts_operations h.composed (driven_start hlevels job)
        (h.sound.fresh_start hqueue) hstep (by rw [hlevels]; rfl)
      have hdrops : l.drops (.work : Happening κ ε) = [] := by
        rw [drops, Activity.asked?_of_nil hlevels, Mailbox.turn, hphase, hqueue]
      rw [hdrops, underway, underway, hkept, queued_of_job hqueue, receipts_append, queued,
        Multiset.coe_nil]
      abel
  | @leave inbox hlevels hleaves log =>
      rcases Mailbox.leaves_cases hleaves with ⟨hphase, hqueue, -, hturn⟩ | ⟨hphase, hnil, -, hturn⟩
      · refine underway_of_kept ?_ rfl rfl ?_
        · rw [queued, queued, hqueue]
          rfl
        · rw [drops, Activity.asked?_of_nil hlevels, hturn]
      · have hdrops : l.drops (.work : Happening κ ε) = l.queued.map Operation.receipt := by
          rw [drops, Activity.asked?_of_nil hlevels, hturn]
          rfl
        have hqueued : ({ l with inbox, log } : Link κ ω).queued = [] := by
          rw [queued, hnil]
          rfl
        rw [hdrops, underway, underway, hqueued, receipts_nil, zero_add, receipts]
        abel

/-- What is left of the stage after a move of the worker that does not give everything up. -/
lemma Accounted.moved (h : l.Accounted g) {m : Move κ} {a : Activity κ} {traces : List (Trace κ)}
    (hm : l.activity.ByWorker m)
    (fresh : ∀ op ∈ m.brings, l.activity.stage.awaiting? op.id = none)
    (hs : l.activity.step m = some (a, traces)) :
    a.Composed ∧ a.stage.session = m.session l.activity.stage.session ∧
      receipts a.claims ≤ receipts m.brings + g.taken := by
  obtain ⟨hcomposed, hsession⟩ := h.composed.step hm.driven fresh hs
  refine ⟨hcomposed, hsession, ?_⟩
  have hclaims := h.composed.claims_step hm fresh hs
  rw [← stock_append] at hclaims
  refine (receipts_mono hclaims).trans ?_
  rw [receipts_append]
  exact add_le_add (le_refl _) h.claims

lemma session_ended (held : Option SessionId) (answer : Answer) :
    (ended answer : Move κ).session held = held := by
  cases answer <;> rfl

lemma takes?_of_levels {ask : Ask κ} {frame : Frame κ}
    (hlevels : l.activity.levels = [(ask, frame)]) : l.takes? (.work : Happening κ ε) = none := by
  rw [takes?, Activity.asked?_of_levels hlevels]

lemma makes_of_levels {ask : Ask κ} {frame : Frame κ}
    (hlevels : l.activity.levels = [(ask, frame)]) (hask : ∀ args, ask ≠ .create args) :
    l.makes W (.work : Happening κ ε) = false := by
  rw [makes, Activity.asked?_of_levels hlevels]
  cases ask with
  | create args => exact (hask args rfl).elim
  | chain _ | call _ _ | release _ => rfl

lemma makes_of_nil (hlevels : l.activity.levels = []) :
    l.makes W (.work : Happening κ ε) = false := by
  rw [makes, Activity.asked?_of_nil hlevels]

/-- What the record says of the stage: there is a session just when one was made, and what is not
being given up was taken, since the worker last gave everything up. -/
structure Attested (a : Activity κ) (g : Settlement κ) : Prop where
  composed : a.Composed
  session : a.stage.session.isSome ↔ 0 < g.made
  claims : receipts a.claims ≤ g.taken

/-- The stage is left alone. -/
lemma Accounted.attested_same (h : l.Accounted g) {happening : Happening κ ε}
    (htakes : l.takes? happening = none) (hmakes : l.makes W happening = false) :
    Attested l.activity (g.tell W happening l l') := by
  refine ⟨h.composed, ?_, ?_⟩ <;> simp only [Settlement.tell, htakes, hmakes]
  · exact h.session
  · exact h.claims

/-- The worker goes on with what it has under way. -/
lemma Accounted.attested_of_levels (h : l.Accounted g) {m : Move κ} {a : Activity κ}
    {traces : List (Trace κ)} {ask : Ask κ} {frame : Frame κ}
    (hlevels : l.activity.levels = [(ask, frame)]) (hask : ∀ args, ask ≠ .create args)
    (hm : l.activity.ByWorker m) (hbrings : m.brings = [])
    (hsession : m.session l.activity.stage.session = l.activity.stage.session)
    (hs : l.activity.step m = some (a, traces)) :
    Attested a (g.tell W (.work : Happening κ ε) l l') := by
  obtain ⟨hcomposed, hkept, hclaims⟩ :=
    h.moved hm (by rw [hbrings]; exact List.forall_mem_nil _) hs
  rw [hsession] at hkept
  rw [hbrings, receipts_nil, zero_add] at hclaims
  refine ⟨hcomposed, ?_, ?_⟩
  · simp only [Settlement.tell, takes?_of_levels hlevels, makes_of_levels hlevels hask]
    rw [hkept]
    exact h.session
  · simp only [Settlement.tell, takes?_of_levels hlevels]
    exact hclaims

/-- **What the record says of the stage** after a step of the pipeline's worker. -/
lemma Accounted.attested (h : l.Accounted g) (ht : Tasks W.model l l') :
    Attested l'.activity (g.tell W (.work : Happening κ ε) l l') := by
  cases ht with
  | chain hlevels hstep log sink | release hlevels hstep log sink =>
      exact h.attested_of_levels hlevels (by rintro args ⟨⟩) (m := .proceed) trivial rfl rfl hstep
  | answer hlevels hcall hstep log sink =>
      exact h.attested_of_levels hlevels (by rintro args ⟨⟩) (byWorker_ended _ hlevels)
        (brings_ended _) (session_ended _ _) hstep
  | call hlevels hcall =>
      exact h.attested_same (takes?_of_levels hlevels) (makes_of_levels hlevels (by rintro args ⟨⟩))
  | @create args frame a traces hlevels hstep log sink =>
      obtain ⟨hcomposed, hmade, hclaims⟩ := h.moved (m := .created _) trivial
        (List.forall_mem_nil _) hstep
      have hnone := h.composed.session_of_create hlevels
      have hzero : g.made = 0 := by
        have hsession := h.session
        rw [hnone] at hsession
        exact Nat.eq_zero_of_not_pos fun hpos => nomatch hsession.mpr hpos
      have hmakes : l.makes W (.work : Happening κ ε) = (W.model.create l.world args).1.isOk := by
        rw [makes, Activity.asked?_of_levels hlevels]
      rw [Move.brings, receipts_nil, zero_add] at hclaims
      refine ⟨hcomposed, ?_, ?_⟩ <;>
        simp only [Settlement.tell, takes?_of_levels hlevels, hmakes, hzero]
      · rw [hmade, Move.session]
        cases (W.model.create l.world args).1 with
        | error f => exact iff_of_false Bool.false_ne_true (Nat.lt_irrefl 0)
        | ok session => exact iff_of_true rfl Nat.one_pos
      · exact hclaims
  | @job job rest a traces hlevels hphase hqueue hstep log sink =>
      have htakes : l.takes? (.work : Happening κ ε) = some job := by
        rw [takes?, Activity.asked?_of_nil hlevels, Mailbox.turn, hphase, hqueue]
      have hfresh := h.sound.fresh_start hqueue
      cases job with
      | abandon =>
          obtain ⟨hcomposed, hnone⟩ := h.composed.step (.inr ⟨rfl, hlevels⟩) hfresh hstep
          refine ⟨hcomposed, ?_, ?_⟩ <;> simp only [Settlement.tell, htakes]
          · rw [hnone, Move.session]
            exact iff_of_false Bool.false_ne_true (Nat.lt_irrefl 0)
          · rw [h.composed.claims_abandon hlevels hstep]
            exact Multiset.zero_le _
      | run op =>
          obtain ⟨hcomposed, hkept, hclaims⟩ := h.moved (m := .enter (.on .pipeline) op)
            ⟨rfl, hlevels⟩ hfresh hstep
          refine ⟨hcomposed, ?_, ?_⟩ <;>
            simp only [Settlement.tell, htakes, makes_of_nil hlevels]
          · rw [hkept]
            exact h.session
          · rw [← Multiset.coe_add, add_comm]
            exact hclaims
      | report r =>
          obtain ⟨hcomposed, hkept, hclaims⟩ := h.moved (m := .deliver r) hlevels hfresh hstep
          rw [Move.brings, receipts_nil, zero_add] at hclaims
          refine ⟨hcomposed, ?_, ?_⟩ <;>
            simp only [Settlement.tell, htakes, makes_of_nil hlevels]
          · rw [hkept]
            exact h.session
          · exact hclaims
  | leave hlevels hleaves log =>
      refine h.attested_same ?_ (makes_of_nil hlevels)
      rcases Mailbox.leaves_cases hleaves with ⟨-, -, -, hturn⟩ | ⟨-, -, -, hturn⟩ <;>
        rw [takes?, Activity.asked?_of_nil hlevels, hturn]

/-! ### Everything that happens -/

lemma nextId_happens (h : l.Sound) {happening : Happening κ ε}
    (hs : l.happens W happening = some l') :
    l'.nextId = l.nextId + (l.submits? happening).toList.length := by
  cases happening with
  | submit caller request callback =>
      cases hs
      obtain ⟨log, heq⟩ := l.exists_submit_eq_offer caller request callback
      rw [heq]
      rfl
  | stir e =>
      obtain ⟨⟨reports, world⟩, -, rfl⟩ := Option.map_eq_some_iff.mp hs
      rw [happen_eq_offer]
      rfl
  | work => cases h.tasks hs <;> rfl
  | beginUser => exact (beginUser_core hs).2.2.2
  | endUser panic =>
      obtain ⟨log, sink, rfl⟩ := exists_eq_of_endUser hs
      rfl
  | handle kept =>
      cases hs
      rfl

lemma submits?_new {happening : Happening κ ε} :
    ∀ r ∈ (l.submits? happening).toList, r.id = l.nextId ∧ r.callback.isSome := by
  intro r hr
  cases happening with
  | submit caller request callback =>
      cases List.mem_singleton.mp hr
      exact ⟨rfl, rfl⟩
  | stir _ | work | beginUser | endUser _ | handle _ => cases hr

/-- What was submitted keeps callbacks and numbers of its own. -/
lemma Accounted.of_tell (h : l.Accounted g) {happening : Happening κ ε}
    (hs : l.happens W happening = some l')
    (hstage : Attested l'.activity (g.tell W happening l l'))
    (htotal : l'.underway + (g.tell W happening l l').called + (g.tell W happening l l').dropped
      = g.submitted + ((l.submits? happening).toList : List (Receipt κ)))
    (hin : l'.inbox.Cleared) (hout : l'.outbox.Cleared) :
    l'.Accounted (g.tell W happening l l') := by
  have hperm : (g.tell W happening l l').submitted.Perm
      (g.submitted ++ (l.submits? happening).toList) := Settlement.submitted_tell
  have hid := nextId_happens h.sound hs
  have hsplit : ∀ r ∈ (g.tell W happening l l').submitted,
      r ∈ g.submitted ∨ r ∈ (l.submits? happening).toList :=
    fun r hr => List.mem_append.mp (hperm.mem_iff.mp hr)
  refine ⟨h.sound.does (i := .happening happening) hs, hstage.composed, ?_, ?_, ?_, ?_,
    hstage.session, hstage.claims, hin, hout⟩
  · rw [htotal, Multiset.coe_add, Multiset.coe_eq_coe]
    exact hperm.symm
  · intro r hr
    exact (hsplit r hr).elim (h.callback r) fun hnew => (submits?_new r hnew).2
  · refine ((hperm.map Receipt.id).nodup_iff).mpr ?_
    rw [List.map_append]
    refine List.nodup_append.mpr ⟨h.distinct, ?_, ?_⟩
    · cases l.submits? happening <;> simp
    · intro id hold other hother he
      obtain ⟨r, hr, rfl⟩ := List.mem_map.mp hold
      obtain ⟨new, hnew, rfl⟩ := List.mem_map.mp hother
      have hlt := h.known r hr
      rw [he, (submits?_new new hnew).1] at hlt
      exact Nat.lt_irrefl _ hlt
  · intro r hr
    rcases hsplit r hr with hold | hnew
    · exact (h.known r hold).trans_le (by rw [hid]; exact Nat.le_add_right _ _)
    · rw [(submits?_new r hnew).1, hid]
      exact Nat.lt_add_of_pos_right (List.length_pos_of_mem hnew)

/-- Operations that are sent to the pipeline's worker wait, unless it is gone. -/
lemma receipts_offer (m : Mailbox (Job κ)) (js : List (Job κ)) :
    receipts (entrusted (m.offer js).queue)
        + receipts (if m.phase = .exited then js.filterMap Job.operation? else [])
      = receipts (entrusted m.queue) + receipts (js.filterMap Job.operation?) := by
  have hoffer := congrArg (Multiset.map Operation.receipt)
    (m.filterMap_jobs_offer js Job.operation?)
  rw [Multiset.map_add, Multiset.map_add] at hoffer
  exact hoffer

/-- What is sent to the pipeline's worker is under way, unless it is dropped. -/
lemma underway_of_offer (l l' : Link κ ω) (js : List (Job κ)) (ha : l'.activity = l.activity)
    (ho : l'.outbox = l.outbox) (hi : l'.inbox = l.inbox.offer js) :
    l'.underway + receipts (if l.inbox.phase = .exited then js.filterMap Job.operation? else [])
      = l.underway + receipts (js.filterMap Job.operation?) := by
  have hoffer := receipts_offer l.inbox js
  rw [← hi] at hoffer
  have hunderway : ∀ k : Link κ ω, k.underway = receipts (entrusted k.inbox.queue)
      + (receipts k.activity.operations
        + ((Mailbox.jobs k.outbox.queue).filterMap UserCall.receipt? : List (Receipt κ))) :=
    fun k => add_assoc _ _ _
  rw [hunderway, hunderway, ha, ho, add_right_comm, hoffer, add_right_comm]

/-- Jobs that bring no operation change nothing. -/
lemma underway_of_offer_nil (l l' : Link κ ω) {js : List (Job κ)}
    (hnone : js.filterMap Job.operation? = []) (ha : l'.activity = l.activity)
    (ho : l'.outbox = l.outbox) (hi : l'.inbox = l.inbox.offer js) :
    l'.underway = l.underway := by
  have hoffer := underway_of_offer l l' js ha ho hi
  rwa [hnone, ite_self, receipts_nil, add_zero, add_zero] at hoffer

/-- **What the callback worker can do** while no user code runs. -/
inductive Begins (l : Link κ ω) : Link κ ω → Prop where
  /-- A piece of the user's code begins to run. -/
  | call {c : UserCall κ} {rest : List (Command (UserCall κ))} (huser : l.user = none)
      (hphase : l.outbox.phase = .running) (hqueue : l.outbox.queue = .run c :: rest) :
      Begins l { l with outbox := { l.outbox with queue := rest }, user := some c }
  /-- The worker takes the order to stop, or goes and drops what waits. -/
  | leave {outbox : Mailbox (UserCall κ)} (huser : l.user = none)
      (hleaves : l.outbox.Leaves outbox) (log : List LogRecord) : Begins l { l with outbox, log }

lemma begins_beginUser (hs : l.beginUser = some l') : Begins l l' := by
  obtain ⟨activity, root, sink, inbox, outbox, kept, user, world, nextId, log⟩ := l
  cases user with
  | some c => cases hs
  | none =>
      rw [beginUser] at hs
      rcases outbox.turn_cases with hturn | ⟨c, rest, hphase, hqueue, hturn⟩ | ⟨left, hleaves⟩
      · simp only [hturn, reduceCtorEq] at hs
      · simp only [hturn, Option.some.injEq] at hs
        exact hs ▸ .call rfl hphase hqueue
      · have hturn := hleaves
        rcases hturn with hturn | ⟨dropped, hturn⟩ <;>
          simp only [hturn, Option.some.injEq] at hs <;> subst hs
        · exact .leave rfl hleaves _
        · exact .leave rfl hleaves log

lemma Begins.cleared (hb : Begins l l') : l'.outbox.Cleared := by
  cases hb with
  | call huser hphase hqueue => exact Mailbox.cleared_of_running hphase
  | leave huser hleaves log => exact hleaves.cleared

/-- A callback that waits goes on waiting, begins to run, or is dropped. -/
lemma Begins.underway (hb : Begins l l') :
    l'.underway + ((l'.user.bind UserCall.receipt?).toList : List (Receipt κ))
        + (l.drops (.beginUser : Happening κ ε) : List (Receipt κ))
      = l.underway := by
  cases hb with
  | @call c rest huser hphase hqueue =>
      have hturn : l.outbox.turn = .job c { l.outbox with queue := rest } := by
        simp only [Mailbox.turn, hphase, hqueue]
      have hcons : (Mailbox.jobs l.outbox.queue).filterMap UserCall.receipt?
          = (UserCall.receipt? c).toList ++ (Mailbox.jobs rest).filterMap UserCall.receipt? := by
        rw [hqueue]
        cases c <;> rfl
      rw [drops, huser, hturn, Link.underway, Link.underway, hcons, ← Multiset.coe_add,
        Option.bind_some, Multiset.coe_nil, queued, queued]
      abel
  | @leave outbox huser hleaves log =>
      rcases Mailbox.leaves_cases hleaves with
        ⟨hphase, hqueue, -, hturn⟩ | ⟨hphase, hnil, -, hturn⟩
      · rw [drops, huser, hturn, Link.underway, Link.underway, hqueue]
        exact (add_zero _).trans (add_zero _)
      · have hnone : (Mailbox.jobs outbox.queue).filterMap UserCall.receipt? = [] := by
          rw [hnil]
          rfl
        simp only [drops, huser, hturn, Link.underway, hnone, Option.bind_none,
          Option.toList_none, Multiset.coe_nil, add_zero]
        rfl

lemma Tasks.cleared (h : l.Accounted g) (ht : Tasks M l l') :
    l'.inbox.Cleared ∧ l'.outbox.Cleared := by
  cases ht with
  | chain hlevels hstep log sink => exact ⟨h.inbox, h.outbox.offer _⟩
  | create hlevels hstep log sink => exact ⟨h.inbox, h.outbox⟩
  | call hlevels hcall | answer hlevels hcall hstep log sink | release hlevels hstep log sink =>
      exact ⟨Mailbox.cleared_of_running (h.sound.busy (by simp [hlevels])), h.outbox⟩
  | job hlevels hphase hqueue hstep log sink =>
      exact ⟨Mailbox.cleared_of_running hphase, h.outbox⟩
  | leave hlevels hleaves log => exact ⟨hleaves.cleared, h.outbox⟩

/-- **Everything that happens** keeps the account. -/
theorem Accounted.happens (h : l.Accounted g) {happening : Happening κ ε}
    (hs : l.happens W happening = some l') : l'.Accounted (g.tell W happening l l') := by
  have htotal := h.total
  cases happening with
  | submit caller request callback =>
      obtain ⟨log, heq⟩ := l.exists_submit_eq_offer caller request callback
      have hl' := hs
      rw [Link.happens, Option.some.injEq, heq] at hl'
      subst hl'
      set sent : List (Job κ) := [.run (l.fresh request callback)]
      refine h.of_tell hs (h.attested_same rfl rfl) ?_ (h.inbox.offer _) h.outbox
      have hdropped : (l.drops (.submit caller request callback : Happening κ ε) :
          Multiset (Receipt κ)) = receipts (if l.inbox.phase = .exited then
            sent.filterMap Job.operation? else []) := by
        rw [drops]
        split <;> rfl
      have hnew : ((l.submits? (.submit caller request callback : Happening κ ε)).toList :
          Multiset (Receipt κ)) = receipts (sent.filterMap Job.operation?) := rfl
      simp only [Settlement.tell]
      have hoffer := underway_of_offer l
        { l with nextId := l.nextId + 1, inbox := l.inbox.offer sent, log } sent rfl rfl rfl
      rw [← htotal, ← Multiset.coe_add, hdropped, hnew, add_left_comm, add_right_comm, hoffer]
      abel
  | stir e =>
      have hl' := hs
      obtain ⟨⟨reports, world⟩, -, rfl⟩ := Option.map_eq_some_iff.mp hl'
      rw [happen_eq_offer] at hs ⊢
      refine h.of_tell hs (h.attested_same rfl rfl) ?_ (h.inbox.offer _) h.outbox
      simp only [Settlement.tell, drops, List.append_nil]
      have hunderway := underway_of_offer_nil l
        { l with world, inbox := l.inbox.offer (reports.map Job.report) }
        (filterMap_operation_reports reports) rfl rfl rfl
      rw [← htotal, hunderway]
      exact (add_zero _).symm
  | work =>
      have ht := h.sound.tasks hs
      obtain ⟨hin, hout⟩ := ht.cleared h
      refine h.of_tell hs (h.attested ht) ?_ hin hout
      simp only [Settlement.tell]
      rw [← htotal, ← underway_tasks h ht (ε := ε), ← Multiset.coe_add]
      simp only [submits?, Option.toList_none, Multiset.coe_nil]
      abel
  | beginUser =>
      have hb := begins_beginUser hs
      obtain ⟨ha, hi, -, -⟩ := beginUser_core hs
      refine h.of_tell hs (ha ▸ h.attested_same rfl rfl) ?_ (hi ▸ h.inbox)
        hb.cleared
      simp only [Settlement.tell]
      rw [← htotal, ← hb.underway (ε := ε), ← Multiset.coe_add, ← Multiset.coe_add]
      simp only [submits?, Option.toList_none, Multiset.coe_nil]
      abel
  | endUser panic =>
      obtain ⟨log, sink, rfl⟩ := exists_eq_of_endUser hs
      refine h.of_tell hs (h.attested_same rfl rfl) ?_ h.inbox h.outbox
      simp only [Settlement.tell, drops, List.append_nil]
      rw [← htotal]
      exact (add_zero _).symm
  | handle kept =>
      have hl' := hs
      cases hl'
      refine h.of_tell hs (h.attested_same rfl rfl) ?_ h.inbox h.outbox
      simp only [Settlement.tell, drops, List.append_nil]
      rw [← htotal]
      exact (add_zero _).symm

/-! ## Shutting down -/

/-- **What a step of a shutdown does**, and how far the shutdown has come then. -/
inductive Closes (l : Link κ ω) : Shutdown → Link κ ω × Shutdown → Prop where
  /-- Everything is to be given up. -/
  | abandon : Closes l .abandon
      ({ l with inbox := l.inbox.offer [.abandon] }, .stop [.pipeline, .callback])
  /-- A worker is ordered to stop. -/
  | stop (c : Context) (todo : List Context) (log : List LogRecord) {next : Shutdown}
      (hnext : next = .stop todo ∨ next = .join c todo) :
      Closes l (.stop (c :: todo)) ({ l.order c with log }, next)
  /-- A worker's end was waited for. -/
  | join (c : Context) (todo : List Context) (log : List LogRecord) :
      Closes l (.join c todo) ({ l with log }, .stop todo)

lemma closes_shutdownStep {worker : Option Context} {s : Shutdown} {r : Link κ ω × Shutdown}
    (hs : l.shutdownStep worker s = some r) : l.Closes s r := by
  cases s with
  | abandon =>
      cases hs
      rw [send_eq_offer]
      exact .abandon
  | stop todo =>
      cases todo with
      | nil => cases hs
      | cons c todo =>
          simp only [shutdownStep] at hs
          split at hs
          · cases hs
            exact .stop c todo _ (.inl rfl)
          · split at hs <;> cases hs
            · exact .stop c todo _ (.inl rfl)
            · exact .stop c todo _ (.inr rfl)
  | join c todo =>
      simp only [shutdownStep] at hs
      split at hs <;> cases hs
      exact .join c todo _

/-- A shutdown drops nothing by itself, and takes nothing. -/
lemma Accounted.shutdownStep (h : l.Accounted g) {worker : Option Context} {s s' : Shutdown}
    (hs : l.shutdownStep worker s = some (l', s')) (sent : Bool) :
    l'.Accounted { g with sent } := by
  have hsound := h.sound.shutdownStep hs
  have hkeep : l'.activity = l.activity → l'.underway = l.underway → l'.nextId = l.nextId →
      l'.inbox.Cleared → l'.outbox.Cleared → l'.Accounted { g with sent } := by
    intro ha hu hn hin hout
    exact ⟨hsound, ha ▸ h.composed, hu ▸ h.total, h.callback, h.distinct, hn ▸ h.known,
      ha ▸ h.session, ha ▸ h.claims, hin, hout⟩
  cases closes_shutdownStep hs with
  | abandon =>
      refine hkeep rfl ?_ rfl (h.inbox.offer _) h.outbox
      exact underway_of_offer_nil l { l with inbox := l.inbox.offer [.abandon] } rfl rfl rfl rfl
  | stop c todo log hnext =>
      cases c with
      | pipeline =>
          refine hkeep rfl ?_ rfl h.inbox.order h.outbox
          rw [underway, underway, queued, queued]
          simp only [order, (jobs_sendStop l.inbox).1]
      | callback =>
          refine hkeep rfl ?_ rfl h.inbox h.outbox.order
          rw [underway, underway, queued, queued]
          simp only [order, (jobs_sendStop l.outbox).1]
  | join c todo log => exact hkeep rfl rfl rfl h.inbox h.outbox

end Link

end DeviceLink
