import DeviceLink.Proofs.Link.Course

/-!
# Where submitted operations are

An operation travels from the queue of the pipeline's worker to the stage, from there to the root,
and its callback through the queue of the callback worker.  In every run of a link that nobody
shuts down, whatever sessions do and in whatever order things happen, each submitted operation is
somewhere on this way, and only in one place.

* `Receipt` — what stays of an operation until its callback has begun to run.
* `History` — the record of a run: what was submitted, and which callbacks have begun to run.
* `Link.Balanced` — what was submitted is what is under way and what is over.
* **`Balanced.happens`** — everything that happens keeps the balance.
* **`submitted_standsOnce`** — between the jobs of the pipeline's worker every submitted operation
  is in exactly one place.
-/

namespace DeviceLink

open Dispatch

variable {κ ω ε : Type}

/-! ## Receipts -/

/-- What stays of an operation on its way: its number, its name and its callback. -/
structure Receipt (κ : Type) where
  id : Nat
  name : String
  callback : Option κ
  deriving DecidableEq

def Operation.receipt (op : Operation κ) : Receipt κ := ⟨op.id, op.name, op.callback⟩

def UserCall.receipt? : UserCall κ → Option (Receipt κ)
  | completion id name callback _ => some ⟨id, name, some callback⟩
  | event _ => none

/-- How many receipts there are for some operations. -/
def receipts (ops : List (Operation κ)) : Multiset (Receipt κ) :=
  (ops.map Operation.receipt : List (Receipt κ))

@[simp] lemma receipts_nil : receipts ([] : List (Operation κ)) = 0 := rfl

@[simp] lemma receipts_append (ops more : List (Operation κ)) :
    receipts (ops ++ more) = receipts ops + receipts more := by
  rw [receipts, List.map_append, ← Multiset.coe_add]
  rfl

lemma receipts_eq_map_stock (ops : List (Operation κ)) :
    receipts ops = (stock ops).map Operation.receipt := by
  rw [stock, Multiset.map_coe, List.map_map]
  rfl

lemma receipts_of_stock {ops more rest : List (Operation κ)}
    (h : stock ops = stock more + stock rest) : receipts ops = receipts more + receipts rest := by
  rw [receipts_eq_map_stock, h, ← stock_append, ← receipts_eq_map_stock, receipts_append]

/-- The root calls the callback of the operation that it is handed, and no other. -/
lemma receipts_handle (r : Root) (c : ChainCall κ)
    (hc : ∀ op ∈ c.operation?.toList, op.callback.isSome) :
    (Link.calls (r.handle c).2).filterMap UserCall.receipt?
      = c.operation?.toList.map Operation.receipt := by
  have hcomplete : ∀ op : Operation κ, op.callback.isSome →
      (Link.calls (Root.complete op)).filterMap UserCall.receipt? = [op.receipt] := by
    intro op hop
    obtain ⟨callback, hcallback⟩ := Option.isSome_iff_exists.mp hop
    simp only [Root.complete, hcallback]
    simp [Link.calls, UserCall.receipt?, Operation.receipt, hcallback]
  cases c with
  | complete op => exact hcomplete op (hc op List.mem_cons_self)
  | pass op => exact hcomplete (op.fail (Root.notHandled op)) (hc op List.mem_cons_self)
  | event e =>
      rw [Root.handle, Root.event]
      cases r.listens <;> rfl
  | connected | disconnected =>
      simp only [Root.handle, Root.publish, Root.changeLines]
      split <;> rfl

/-! ## The record of a run -/

/-- The record of a run. -/
structure History (κ : Type) where
  /-- Every operation that was submitted. -/
  submitted : List (Receipt κ) := []
  /-- The operations whose callbacks have begun to run on the callback worker, each time that one
  has. -/
  called : List (Receipt κ) := []

/-- What the observer writes down. -/
def History.note : Happening κ ε → Link κ ω → Link κ ω → History κ → History κ
  | .submit _ request callback, before, _, g =>
    { g with submitted := g.submitted ++ [(before.fresh request callback).receipt] }
  | .beginUser, _, after, g =>
    { g with called := g.called ++ (after.user.bind UserCall.receipt?).toList }
  | .stir _, _, _, g | .work, _, _, g | .endUser _, _, _, g | .handle _, _, _, g => g

namespace Link

variable {W : World ω ε} {M : SessionModel ω} {l l' : Link κ ω} {g : History κ}

/-! ## The balance -/

/-- The receipts of everything under way: the operations that wait for the pipeline's worker or are
with the stage, and the callbacks that wait for theirs. -/
def underway (l : Link κ ω) : Multiset (Receipt κ) :=
  receipts l.queued + receipts l.activity.operations
    + ((Mailbox.jobs l.outbox.queue).filterMap UserCall.receipt? : List (Receipt κ))

/-- **What was submitted** is what is under way and what is over; every submitted operation has a
number of its own and a callback. -/
structure Balanced (l : Link κ ω) (g : History κ) : Prop where
  total : l.underway + g.called = g.submitted
  callback : ∀ r ∈ g.submitted, r.callback.isSome
  distinct : (g.submitted.map Receipt.id).Nodup
  known : ∀ r ∈ g.submitted, r.id < l.nextId

/-- The balance depends on nothing but the operations and the callbacks that wait. -/
lemma Balanced.of_eq (h : l.Balanced g) (hu : l'.underway = l.underway)
    (hid : l'.nextId = l.nextId) : l'.Balanced g :=
  ⟨hu ▸ h.total, h.callback, h.distinct, hid ▸ h.known⟩

lemma Balanced.callback_of_mem (h : l.Balanced g) {op : Operation κ}
    (hop : op ∈ l.activity.operations) : op.callback.isSome := by
  have hmem : op.receipt ∈ receipts l.activity.operations := List.mem_map_of_mem hop
  have hin : op.receipt ∈ (g.submitted : Multiset (Receipt κ)) := by
    rw [← h.total, underway]
    simp only [Multiset.mem_add]
    exact .inl (.inl (.inr hmem))
  exact h.callback _ hin

/-- What is handed to the chain leaves the stage. -/
lemma stock_operations_of_chain {c : ChainCall κ} {frame : Frame κ} {a : Activity κ}
    (hlevels : l.activity.levels = [(.chain c, frame)])
    (hleft : stock a.operations = stock (Move.proceed : Move κ).brings + stock l.activity.inHand) :
    stock l.activity.operations = stock c.operation?.toList + stock a.operations := by
  rw [hleft]
  simp only [Activity.operations, Activity.inHand, hlevels, List.flatMap_cons, List.flatMap_nil,
    Ask.operations, Move.brings, stock_append, stock_nil]
  abel

/-- What is asked for apart from the chain carries no operation. -/
lemma operations_eq_inHand (hlevels : l.activity.levels.flatMap (·.1.operations) = []) :
    stock l.activity.operations = stock l.activity.inHand := by
  suffices h : ∀ levels : List (Ask κ × Frame κ), levels.flatMap (·.1.operations) = [] →
      levels.flatMap (fun k => k.1.operations ++ k.2.operations)
        = levels.flatMap (·.2.operations) by
    rw [Activity.operations, Activity.inHand, h _ hlevels]
  intro levels
  induction levels with
  | nil => exact fun _ => rfl
  | cons k rest ih =>
      intro hk
      rw [List.flatMap_cons, List.append_eq_nil_iff] at hk
      rw [List.flatMap_cons, List.flatMap_cons, ih hk.2, hk.1, List.nil_append]

lemma underway_of_works (h : l.Steady) (hb : l.Balanced g) (hw : Works M l l') :
    l'.underway = l.underway := by
  cases hw with
  | @chain c frame a traces hlevels hstep log sink =>
      -- the operation leaves the stage and goes on as a call of its callback
      have hleft := h.lone.stock_step (m := .proceed) trivial (List.forall_mem_nil _) hstep
      have hops := stock_operations_of_chain hlevels hleft
      have hc : ∀ op ∈ c.operation?.toList, op.callback.isSome := by
        intro op hop
        refine hb.callback_of_mem ?_
        simp [Activity.operations, hlevels, Ask.operations, hop]
      have htold : ((c.operation?.toList.map Operation.receipt : List (Receipt κ)) :
          Multiset (Receipt κ)) = receipts c.operation?.toList := rfl
      rw [underway, underway, Mailbox.jobs_put, List.filterMap_append, receipts_handle _ _ hc,
        ← Multiset.coe_add, htold, receipts_of_stock hops, queued, queued]
      abel
  | create hlevels hstep log sink =>
      have hleft := h.lone.stock_step (m := .created _) trivial (List.forall_mem_nil _) hstep
      rw [← operations_eq_inHand (by rw [hlevels]; rfl)] at hleft
      rw [underway, underway, receipts_of_stock hleft, Move.brings, receipts_nil, zero_add, queued,
        queued]
  | call hlevels hcall =>
      rw [underway, underway, queued, queued_put_reports, queued]
  | @answer session c frame answer reports world a traces hlevels hcall hstep log sink =>
      have hleft := h.lone.stock_step (byWorker_ended answer hlevels)
        (by rw [brings_ended]; exact List.forall_mem_nil _) hstep
      rw [← operations_eq_inHand (by rw [hlevels]; rfl)] at hleft
      rw [underway, underway, receipts_of_stock hleft, brings_ended, receipts_nil, zero_add, queued,
        queued_put_reports, queued]
  | @job job rest a traces hlevels hqueue hstep log sink =>
      have hleft := h.lone.stock_step (h.byWorker_start hlevels hqueue) (h.sound.fresh_start hqueue)
        hstep
      rw [← operations_eq_inHand (by rw [hlevels]; rfl)] at hleft
      rw [underway, underway, receipts_of_stock hleft, queued_of_job hqueue, receipts_append,
        queued]
      abel

/-- **Everything that happens keeps the balance.** -/
theorem Balanced.happens (h : l.Steady) (hb : l.Balanced g) {happening : Happening κ ε}
    (hs : l.happens W happening = some l') : l'.Balanced (History.note happening l l' g) := by
  cases happening with
  | submit caller request callback =>
      cases hs
      obtain ⟨log, heq⟩ := exists_submit_eq h.inbox caller request callback
      rw [heq]
      have hnew : (([(l.fresh request callback).receipt] : List (Receipt κ)) :
          Multiset (Receipt κ)) = receipts [l.fresh request callback] := rfl
      refine ⟨?_, ?_, ?_, ?_⟩
      · rw [History.note, ← Multiset.coe_add, ← hb.total, hnew, underway, underway, queued,
          queued_put_run, receipts_append, queued]
        abel
      · intro r hr
        rcases List.mem_append.mp hr with hr | hr
        · exact hb.callback r hr
        · rw [List.mem_singleton.mp hr]
          rfl
      · simp only [History.note, List.map_append, List.map_singleton]
        refine List.nodup_append.mpr ⟨hb.distinct, by simp, ?_⟩
        intro id hid other hother he
        obtain ⟨r, hr, rfl⟩ := List.mem_map.mp hid
        have hlt := hb.known r hr
        rw [he, List.mem_singleton.mp hother] at hlt
        exact Nat.lt_irrefl _ hlt
      · intro r hr
        rcases List.mem_append.mp hr with hr | hr
        · exact Nat.lt_succ_of_lt (hb.known r hr)
        · rw [List.mem_singleton.mp hr]
          exact Nat.lt_succ_self _
  | stir e =>
      obtain ⟨⟨reports, world⟩, -, rfl⟩ := Option.map_eq_some_iff.mp hs
      rw [happen_eq h.inbox]
      exact hb.of_eq (by rw [underway, underway, queued, queued_put_reports, queued]) rfl
  | work =>
      have hw := h.works hs
      have hid : l'.nextId = l.nextId := by cases hw <;> rfl
      exact hb.of_eq (underway_of_works h hb hw) hid
  | beginUser =>
      obtain ⟨c, rest, -, hqueue, rfl⟩ := h.beginUser_cases hs
      refine ⟨?_, hb.callback, hb.distinct, hb.known⟩
      have hcons : (Mailbox.jobs l.outbox.queue).filterMap UserCall.receipt?
          = (UserCall.receipt? c).toList ++ (Mailbox.jobs rest).filterMap UserCall.receipt? := by
        rw [hqueue]
        cases c <;> rfl
      have htotal := hb.total
      rw [underway, hcons, ← Multiset.coe_add] at htotal
      rw [History.note, ← htotal, underway, ← Multiset.coe_add, Option.bind_some, queued, queued]
      abel
  | endUser panic =>
      obtain ⟨log, sink, rfl⟩ := exists_eq_of_endUser hs
      exact hb.of_eq rfl rfl
  | handle kept =>
      cases hs
      exact hb.of_eq rfl rfl

lemma balanced_follow {c : PipelineConfig} {listens : Bool} {world : ω}
    (h : Link.build c listens (some world) = .ok l) (happenings : List (Happening κ ε)) :
    (follow W History.note (l, {}) happenings).1.Balanced
      (follow W History.note (l, {}) happenings).2 := by
  refine (runWith_induction_of_kept (S := Steady) ?_ Balanced ?_ (steady_build h) ?_ happenings).2
  · exact fun _ _ _ hl hn => hl.happens hn
  · exact fun _ _ _ _ hl hb hn => hb.happens hl hn
  · cases h
    exact ⟨rfl, List.forall_mem_nil _, List.nodup_nil, List.forall_mem_nil _⟩

/-! ## Places -/

/-- Where an operation can be while the pipeline's worker has nothing under way. -/
inductive Place where
  | pipelineQueue
  | connectSlot
  | disconnectSlot
  | awaitingAck
  | callbackQueue
  /-- Its callback has begun to run. -/
  | finished
  deriving DecidableEq

def Place.all : List Place :=
  [.pipelineQueue, .connectSlot, .disconnectSlot, .awaitingAck, .callbackQueue, .finished]

lemma Place.mem_all (p : Place) : p ∈ Place.all := by cases p <;> decide

def held (l : Link κ ω) (g : History κ) : Place → List (Receipt κ)
  | .pipelineQueue => l.queued.map Operation.receipt
  | .connectSlot => l.activity.stage.activeConnect.toList.map Operation.receipt
  | .disconnectSlot => l.activity.stage.activeDisconnect.toList.map Operation.receipt
  | .awaitingAck => (l.activity.stage.awaitingAck.map Prod.snd).map Operation.receipt
  | .callbackQueue => (Mailbox.jobs l.outbox.queue).filterMap UserCall.receipt?
  | .finished => g.called

/-- While nothing is under way at the worker, the places hold everything that was submitted. -/
lemma Balanced.coe_places (h : l.Balanced g) (hidle : l.activity.levels = []) :
    ((Place.all.flatMap (l.held g) : List (Receipt κ)) : Multiset (Receipt κ))
      = g.submitted := by
  have hops : l.activity.operations = l.activity.stage.activeConnect.toList
      ++ l.activity.stage.activeDisconnect.toList
      ++ l.activity.stage.awaitingAck.map Prod.snd := by
    rw [Activity.operations, hidle]
    rfl
  rw [← h.total, underway, hops, receipts_append, receipts_append]
  simp only [Place.all, held, receipts, List.flatMap_cons, List.flatMap_nil, List.append_nil,
    ← Multiset.coe_add]
  abel

/-- **Between the jobs of the pipeline's worker every submitted operation is in exactly one place**,
and there exactly once, in every run of a link that nobody shuts down.  Nothing else is anywhere. -/
theorem submitted_standsOnce {c : PipelineConfig} {listens : Bool} {world : ω}
    (hbuild : Link.build c listens (some world) = .ok l) (happenings : List (Happening κ ε))
    {g : History κ} (hrun : follow W History.note (l, {}) happenings = (l', g))
    (hidle : l'.activity.levels = []) :
    (∀ r ∈ g.submitted, StandsOnce Receipt.id (l'.held g) r) ∧
      ∀ p, ∀ r ∈ l'.held g p, r ∈ g.submitted := by
  have hb := balanced_follow (W := W) hbuild happenings
  rw [hrun] at hb
  have hperm : (Place.all.flatMap (l'.held g)).Perm g.submitted :=
    Multiset.coe_eq_coe.mp (hb.coe_places hidle)
  have hkeys : ((Place.all.flatMap (l'.held g)).map Receipt.id).Nodup :=
    (hperm.map Receipt.id).nodup_iff.mpr hb.distinct
  constructor
  · intro r hr
    exact standsOnce_of_nodup Place.mem_all hkeys (hperm.mem_iff.mpr hr)
  · intro p r hr
    exact hperm.mem_iff.mp (List.mem_flatMap.mpr ⟨p, Place.mem_all p, hr⟩)

/-- Sessions that start whatever they are asked for, and report whatever they are told to. -/
def obliging : World Unit (List Report) where
  model :=
    { create := fun w _ => (.ok 0, w)
      step := fun w _ _ => (some (.returned (.ok ())), [], w)
      release := fun w _ => ([], w) }
  stir := fun w reports => some (reports, w)

/-- The first of three operations is finished, the second in its slot, the third in the queue. -/
def threeOperations : List (Happening Nat (List Report)) :=
  [.submit none (.setConnectionArgs ⟨"hub", "device", "id", none⟩) 10, .work, .work, .work,
    .submit none .connect 20, .beginUser, .work, .work,
    .submit (some .callback) (.publish "t" []) 30, .endUser none]

/-- The three operations of a run, each in its place. -/
theorem threeOperations_standOnce :
    ∃ l : Link Nat Unit, Link.build {} false (some ()) = .ok l ∧
      let r := follow obliging History.note (l, {}) threeOperations
      r.2.submitted.map Receipt.id = [1, 2, 3] ∧
        (r.1.held r.2 .finished).map Receipt.id = [1] ∧
        (r.1.held r.2 .connectSlot).map Receipt.id = [2] ∧
        ∀ receipt ∈ r.2.submitted, StandsOnce Receipt.id (r.1.held r.2) receipt := by
  refine ⟨_, rfl, ?_, ?_, ?_, ?_⟩
  · decide
  · decide
  · decide
  · exact (submitted_standsOnce rfl threeOperations (Prod.eta _).symm (by decide)).1

end Link

end DeviceLink
