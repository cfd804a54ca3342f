import DeviceLink.Stage.Turn
import Mathlib.Algebra.Order.Group.Multiset
import Mathlib.Tactic.Abel
import Mathlib.Tactic.Common

/-!
# In whose hands an operation is

An operation that has come to a stage is handed to the chain, in the hands of the stage while its
surroundings work, or kept in the stage's state.  No stretch of work loses one or doubles one, with
a single exception: an operation that starts on the connection takes its slot from whatever stands
there.

* `Operation.bare`, `stock` — operations apart from their failures, and how many there are of each.
* `Stage.Filed` — the operations that wait for an acknowledgement stand under their own numbers.
* `Stage.displaced` — the operation that loses its slot when the stage goes on.
* `Turn.InOrder` — a stretch of work that accounts for every operation and leaves the cell as the
  next frame needs it.
* **`inOrder_run`**, **`inOrder_report`**, **`inOrder_abandon`**, **`inOrder_proceed`**,
  **`inOrder_created`**, **`inOrder_answered`** — every stretch of work is in order.
-/

namespace DeviceLink

variable {κ : Type}

/-! ## Counting operations -/

/-- An operation apart from its failure. -/
def Operation.bare (op : Operation κ) : Operation κ := { op with error := none }

@[simp] lemma Operation.bare_fail (op : Operation κ) (f : Failure) : (op.fail f).bare = op.bare :=
  rfl

@[simp] lemma Operation.id_bare (op : Operation κ) : op.bare.id = op.id := rfl

@[simp] lemma Operation.id_fail (op : Operation κ) (f : Failure) : (op.fail f).id = op.id := rfl

/-- How many there are of each operation, whatever failures they carry. -/
def stock (ops : List (Operation κ)) : Multiset (Operation κ) :=
  (ops.map Operation.bare : List (Operation κ))

@[simp] lemma stock_nil : stock ([] : List (Operation κ)) = 0 := rfl

@[simp] lemma stock_cons (op : Operation κ) (ops : List (Operation κ)) :
    stock (op :: ops) = {op.bare} + stock ops := rfl

@[simp] lemma stock_append (ops more : List (Operation κ)) :
    stock (ops ++ more) = stock ops + stock more := by
  rw [stock, List.map_append, ← Multiset.coe_add]
  rfl

def Trace.operations : Trace κ → List (Operation κ)
  | ask a => a.operations
  | log _ | unhandled _ | gone _ | panic _ => []

/-- Every operation that some traces hand to the chain. -/
def handed (traces : List (Trace κ)) : List (Operation κ) := traces.flatMap Trace.operations

@[simp] lemma handed_nil : handed ([] : List (Trace κ)) = [] := rfl

@[simp] lemma handed_cons (trace : Trace κ) (traces : List (Trace κ)) :
    handed (trace :: traces) = trace.operations ++ handed traces := rfl

@[simp] lemma handed_append (traces more : List (Trace κ)) :
    handed (traces ++ more) = handed traces ++ handed more := List.flatMap_append

/-- A trace that only remarks on what goes on. -/
def Trace.remarks : Trace κ → Bool
  | log _ | unhandled _ => true
  | ask _ | gone _ | panic _ => false

lemma handed_of_remarks {traces : List (Trace κ)} (h : traces.all Trace.remarks) :
    handed traces = [] := by
  rw [handed, List.flatMap_eq_nil_iff]
  intro trace ht
  have hr := List.all_eq_true.mp h trace ht
  cases trace <;> first | rfl | cases hr

lemma stock_perm {ops more : List (Operation κ)} (h : ops.Perm more) : stock ops = stock more :=
  Multiset.coe_eq_coe.mpr (h.map _)

/-! ## What waits for an acknowledgement -/

lemma filter_of_lookup_none {α : Type} {k : Nat} {l : List (Nat × α)} (h : l.lookup k = none) :
    l.filter (·.1 ≠ k) = l := by
  rw [List.filter_eq_self]
  intro p hp
  have hne : k ≠ p.1 := by simpa using List.lookup_eq_none_iff.mp h p hp
  exact decide_eq_true hne.symm

/-- Where no key stands twice, taking one out takes out what is found under it. -/
lemma perm_of_lookup_some {α : Type} {k : Nat} {a : α} :
    ∀ {l : List (Nat × α)}, (l.map Prod.fst).Nodup → l.lookup k = some a →
      l.Perm ((k, a) :: l.filter (·.1 ≠ k))
  | [], _, h => by simp at h
  | (j, b) :: rest, hn, h => by
      rw [List.map_cons, List.nodup_cons] at hn
      by_cases hj : j = k
      · subst hj
        have hb : b = a := by simpa [List.lookup_cons] using h
        have hrest : rest.lookup j = none := by
          rw [List.lookup_eq_none_iff]
          intro p hp
          have hne : p.1 ≠ j := fun he => hn.1 (List.mem_map.mpr ⟨p, hp, he⟩)
          exact bne_iff_ne.mpr hne.symm
        subst hb
        rw [List.filter_cons_of_neg (by simp), filter_of_lookup_none hrest]
      · have hrest : rest.lookup k = some a := by
          simpa [List.lookup_cons, Ne.symm hj, beq_eq_false_iff_ne.mpr (Ne.symm hj)] using h
        rw [List.filter_cons_of_pos (by simpa using hj)]
        exact ((perm_of_lookup_some hn.2 hrest).cons _).trans (List.Perm.swap _ _ _)

namespace Stage

/-- Every operation that waits for an acknowledgement stands under its own number, and under no
number do two of them stand. -/
structure Filed (s : Stage κ) : Prop where
  nodup : (s.awaitingAck.map Prod.fst).Nodup
  own : ∀ p ∈ s.awaitingAck, p.1 = p.2.id

lemma filed_new (name : String) : (Stage.new name : Stage κ).Filed :=
  ⟨List.nodup_nil, List.forall_mem_nil _⟩

lemma Filed.of_eq {s t : Stage κ} (h : s.Filed) (he : t.awaitingAck = s.awaitingAck) : t.Filed :=
  ⟨he ▸ h.nodup, he ▸ h.own⟩

lemma Filed.forget {s : Stage κ} (h : s.Filed) (id : Nat) : (s.forget id).Filed where
  nodup := (List.filter_sublist.map Prod.fst).nodup h.nodup
  own := fun p hp => h.own p (List.mem_of_mem_filter hp)

lemma Filed.await {s : Stage κ} (h : s.Filed) (op : Operation κ) : (s.await op).Filed := by
  have hf := h.forget op.id
  constructor
  · rw [Stage.await, List.map_append]
    refine List.nodup_append.mpr ⟨hf.nodup, by simp, ?_⟩
    intro k hk j hj
    rw [List.map_singleton, List.mem_singleton] at hj
    obtain ⟨p, hp, rfl⟩ := List.mem_map.mp hk
    subst hj
    simpa using (List.mem_filter.mp hp).2
  · intro p hp
    rcases List.mem_append.mp hp with hp | hp
    · exact hf.own p hp
    · rw [List.mem_singleton] at hp
      subst hp
      rfl

lemma Filed.awaiting?_eq_none {s : Stage κ} (h : s.Filed) {n : Nat}
    (hn : ∀ op ∈ s.pending, op.id ≠ n) : s.awaiting? n = none := by
  rw [awaiting?, List.lookup_eq_none_iff]
  intro p hp
  have hm : p.2 ∈ s.pending := List.mem_append_right _ (List.mem_map_of_mem hp)
  have hne : p.1 ≠ n := h.own p hp ▸ hn p.2 hm
  exact bne_iff_ne.mpr hne.symm

/-! ## What the state keeps -/

lemma stock_pending (s : Stage κ) :
    stock s.pending = stock s.activeConnect.toList + stock s.activeDisconnect.toList
      + stock (s.awaitingAck.map Prod.snd) := by
  rw [pending, active, stock_append, stock_append]

lemma stock_active (s : Stage κ) :
    stock s.active = stock s.activeConnect.toList + stock s.activeDisconnect.toList := by
  rw [active, stock_append]

/-- What is put into a slot takes the place of what was there. -/
lemma stock_pending_setSlot (s : Stage κ) (slot : Slot) (o : Option (Operation κ)) :
    stock (s.setSlot slot o).pending + stock (s.slot slot).toList
      = stock o.toList + stock s.pending := by
  cases slot <;> simp only [setSlot, Stage.slot, stock_pending] <;> abel

lemma stock_pending_forget {s : Stage κ} (h : s.Filed) {id : Nat} {op : Operation κ}
    (ho : s.awaiting? id = some op) :
    {op.bare} + stock (s.forget id).pending = stock s.pending := by
  have hp := stock_perm ((perm_of_lookup_some h.nodup ho).map Prod.snd)
  rw [List.map_cons, stock_cons] at hp
  rw [stock_pending, stock_pending, hp]
  simp only [forget]
  abel

lemma stock_pending_await {s : Stage κ} {op : Operation κ} (h : s.awaiting? op.id = none) :
    stock (s.await op).pending = {op.bare} + stock s.pending := by
  rw [stock_pending, stock_pending, await, forget, filter_of_lookup_none h]
  simp only [List.map_append, List.map_cons, List.map_nil, stock_append, stock_cons, stock_nil]
  abel

end Stage

/-! ## Stretches of work -/

/-- What goes with what: the frames that can be left while something is handed over. -/
def Ask.Fits : Ask κ → Frame κ → Prop
  | .chain _, .last | .release _, .last | .release _, .replacing _ => True
  | .chain (.complete _), .superseding _ _ _ | .chain (.complete _), .abandoning _ _ => True
  | .chain .connected, .announced | .chain .disconnected, .retired _ => True
  | .create _, .creating _ _ => True
  | .call _ c, .starting .connect => (∃ p cert, c = .connect p cert) ∨ ∃ p, c = .reconnect p
  | .call _ c, .starting .disconnect => c = .disconnect
  | .call _ c, .requesting id => c.ackId? = some id
  | _, _ => False

namespace Turn

/-- The operations that a stretch of work hands over, has in hand, and keeps. -/
def operations (t : Turn κ) : List (Operation κ) :=
  (match t.next with
    | .ask a frame => a.operations ++ frame.operations
    | .done | .panic _ => []) ++ t.stage.pending

/-- The stage is inside its cell just as long as the next frame says so. -/
def Ready (t : Turn κ) : Prop :=
  match t.next with
  | .done => t.stage.entered = false
  | .ask a frame => a.Fits frame ∧ t.stage.entered = frame.holdsCell
  | .panic _ => False

/-- **A stretch of work in order.**  Of the operations that it was given, all but the lost ones
are accounted for. -/
structure InOrder (t : Turn κ) (given lost : Multiset (Operation κ)) : Prop where
  ready : t.Ready
  filed : t.stage.Filed
  /-- Whatever is handed over is handed over last. -/
  quiet : t.traces.all Trace.remarks
  stock : stock t.operations + lost = given

lemma InOrder.after {t : Turn κ} {given lost : Multiset (Operation κ)} (h : t.InOrder given lost)
    {traces : List (Trace κ)} (hq : traces.all Trace.remarks) :
    (t.after traces).InOrder given lost where
  ready := h.ready
  filed := h.filed
  quiet := by rw [Turn.after, List.all_append, hq, h.quiet, Bool.and_self]
  stock := h.stock

lemma InOrder.logging {t : Turn κ} {given lost : Multiset (Operation κ)} (h : t.InOrder given lost)
    (line : LogLine) : (t.logging line).InOrder given lost := h.after rfl

lemma inOrder_done {s : Stage κ} {given lost : Multiset (Operation κ)} {traces : List (Trace κ)}
    (hq : traces.all Trace.remarks) (hc : s.entered = false) (hf : s.Filed)
    (hs : DeviceLink.stock s.pending + lost = given) :
    ({ stage := s, traces } : Turn κ).InOrder given lost :=
  ⟨hc, hf, hq, by simpa [operations] using hs⟩

lemma inOrder_ask {s : Stage κ} {given lost : Multiset (Operation κ)} {traces : List (Trace κ)}
    {a : Ask κ} {frame : Frame κ} (hq : traces.all Trace.remarks) (hfit : a.Fits frame)
    (hc : s.entered = frame.holdsCell) (hf : s.Filed)
    (hs : DeviceLink.stock a.operations + DeviceLink.stock frame.operations
      + DeviceLink.stock s.pending + lost = given) :
    ({ stage := s, traces, next := .ask a frame } : Turn κ).InOrder given lost :=
  ⟨⟨hfit, hc⟩, hf, hq, by simpa [operations, add_assoc] using hs⟩

end Turn

namespace Stage

open Turn

lemma inside_eq {s : Stage κ} (h : s.entered = false) (t : Turn κ) : s.inside t = t := by
  rw [inside, h]
  rfl

variable {s : Stage κ} {op : Operation κ}

/-! ### An operation is over -/

lemma inOrder_complete (hc : s.entered = false) (hf : s.Filed) (op : Operation κ) :
    (s.complete op).InOrder ({op.bare} + stock s.pending) 0 := by
  refine inOrder_ask rfl trivial hc hf ?_
  simp [Ask.operations, ChainCall.operation?, Frame.operations]

lemma inOrder_refuse (hc : s.entered = false) (hf : s.Filed) (op : Operation κ) (f : Failure) :
    (s.refuse op f).InOrder ({op.bare} + stock s.pending) 0 :=
  (inOrder_complete hc hf (op.fail f)).logging _

/-! ### An operation arrives -/

lemma inOrder_setConnectionArgs (hc : s.entered = false) (hf : s.Filed) (args : ConnectionArgs) :
    (s.setConnectionArgs op args).InOrder ({op.bare} + stock s.pending) 0 := by
  rw [setConnectionArgs, inside_eq hc]
  refine InOrder.logging ?_ _
  cases s.session with
  | some session => exact inOrder_complete hc hf (op.fail alreadySet)
  | none =>
      refine inOrder_ask rfl trivial hc hf ?_
      simp [Ask.operations, Frame.operations]

lemma inOrder_setCredential (hc : s.entered = false) (hf : s.Filed) (credential : Credential) :
    (s.setCredential op credential).InOrder ({op.bare} + stock s.pending) 0 := by
  rw [setCredential, inside_eq hc]
  exact (inOrder_complete (s := { s with credential := some credential }) hc
    (hf.of_eq rfl) op).logging _

/-- The start of an operation on the connection loses what stands in its slot. -/
lemma inOrder_startConnection (hc : s.entered = false) (hf : s.Filed) (aim : Aim)
    (op : Operation κ) :
    (s.startConnection aim op).InOrder ({op.bare} + stock s.pending)
      (stock (s.slot aim.slot).toList) := by
  rw [startConnection, inside_eq hc]
  cases s.session with
  | none =>
      have hslot := stock_pending_setSlot s aim.slot none
      have hfiled : (s.setSlot aim.slot none).Filed := hf.of_eq (by cases aim <;> rfl)
      have hcell : (s.setSlot aim.slot none).entered = false := by cases aim <;> exact hc
      have hrefuse := inOrder_refuse hcell hfiled op (noSession op)
      refine ⟨hrefuse.ready, hrefuse.filed, rfl, ?_⟩
      have hs := hrefuse.stock
      rw [add_zero] at hs
      rw [hs, add_assoc, hslot]
      simp
  | some session =>
      -- The slot is not looked at: an operation that a nested run has put there is lost.
      have hslot := stock_pending_setSlot s aim.slot (some op)
      have hfiled : ({ s.setSlot aim.slot (some op) with entered := true } : Stage κ).Filed :=
        hf.of_eq (by cases aim <;> rfl)
      refine inOrder_ask rfl ?_ rfl hfiled ?_
      · cases aim <;> simp [Ask.Fits, Aim.slot, callFor]
      · simpa [Ask.operations, Frame.operations, stock_pending] using hslot

/-- The operation that loses its slot when a frame is gone on with. -/
def displaced (s : Stage κ) : Frame κ → Option (Operation κ)
  | .superseding [] aim _ => s.slot aim.slot
  | .superseding (_ :: _) _ _ | .last | .creating _ _ | .replacing _ | .starting _ | .requesting _
  | .announced | .retired _ | .abandoning _ _ => none

lemma inOrder_supersede (hc : s.entered = false) (hf : s.Filed) (aim : Aim)
    (left : List (Operation κ)) (op : Operation κ) :
    (s.supersede aim op left).InOrder (stock left + {op.bare} + stock s.pending)
      (stock (s.displaced (.superseding left aim op)).toList) := by
  cases left with
  | nil =>
      have hstart := inOrder_startConnection hc hf aim op
      rwa [stock_nil, zero_add]
  | cons old left =>
      refine inOrder_ask rfl trivial hc hf ?_
      simp only [Ask.operations, ChainCall.operation?, Frame.operations, displaced,
        Option.toList_some, Option.toList_none, stock_append, stock_cons, stock_nil,
        Operation.bare_fail]
      abel

/-- An operation on the connection empties both slots before anything else. -/
lemma inOrder_runConnection (hc : s.entered = false) (hf : s.Filed) (aim : Aim) :
    (s.runConnection aim op).InOrder ({op.bare} + stock s.pending) 0 := by
  rw [runConnection, inside_eq hc]
  refine InOrder.logging ?_ _
  set cleared : Stage κ := { s with activeConnect := none, activeDisconnect := none }
  have hsup := inOrder_supersede (s := cleared) hc (hf.of_eq rfl) aim s.active op
  have hlost : stock (cleared.displaced (.superseding s.active aim op)).toList = 0 := by
    cases s.active with
    | nil => cases aim <;> rfl
    | cons _ _ => rfl
  have hkept : stock s.active + {op.bare} + stock cleared.pending
      = {op.bare} + stock s.pending := by
    rw [stock_pending, stock_pending, stock_active]
    simp only [cleared, Option.toList_none, stock_nil]
    abel
  rwa [hlost, hkept] at hsup

lemma inOrder_runRequest (hc : s.entered = false) (hf : s.Filed)
    (fresh : s.awaiting? op.id = none) {c : SessionCall} (hid : c.ackId? = some op.id)
    (text : String) : (s.runRequest op c text).InOrder ({op.bare} + stock s.pending) 0 := by
  rw [runRequest, inside_eq hc]
  refine InOrder.logging ?_ _
  cases s.session with
  | none => exact inOrder_refuse hc hf op (noSession op)
  | some session =>
      have hfiled : ({ s.await op with entered := true } : Stage κ).Filed := (hf.await op).of_eq rfl
      refine inOrder_ask rfl hid rfl hfiled ?_
      simpa [Ask.operations, Frame.operations, stock_pending] using stock_pending_await fresh

/-- **An operation arrives** under a number of its own: it is accounted for, and no other is
lost. -/
theorem inOrder_run (hc : s.entered = false) (hf : s.Filed) (fresh : s.awaiting? op.id = none) :
    (s.run (.on .pipeline) op).InOrder ({op.bare} + stock s.pending) 0 := by
  have hcheck : (Origin.on .pipeline).check .pipeline = .ok () := rfl
  rw [run, hcheck]
  cases hr : op.request with
  | setConnectionArgs args => exact inOrder_setConnectionArgs hc hf args
  | setCredential credential => exact inOrder_setCredential hc hf credential
  | connect => exact inOrder_runConnection hc hf .connect
  | reconnect => exact inOrder_runConnection hc hf .reconnect
  | disconnect => exact inOrder_runConnection hc hf .disconnect
  | publish topic payload => exact inOrder_runRequest hc hf fresh rfl _
  | subscribe topic => exact inOrder_runRequest hc hf fresh rfl _
  | unsubscribe topic => exact inOrder_runRequest hc hf fresh rfl _
  | enableFeature _ | disableFeature _ =>
      refine inOrder_ask rfl trivial hc hf ?_
      simp [Ask.operations, ChainCall.operation?, Frame.operations]

/-! ### The session reports -/

lemma stock_takeConnect (h : s.activeConnect = some op) :
    {op.bare} + stock { s with activeConnect := none }.pending = stock s.pending := by
  simp only [stock_pending, h, Option.toList_none, Option.toList_some, stock_cons, stock_nil]
  abel

lemma stock_takeDisconnect (h : s.activeDisconnect = some op) :
    {op.bare} + stock { s with activeDisconnect := none }.pending = stock s.pending := by
  simp only [stock_pending, h, Option.toList_none, Option.toList_some, stock_cons, stock_nil]
  abel

lemma inOrder_announced (hc : s.entered = false) (hf : s.Filed) :
    s.announced.InOrder (stock s.pending) 0 := by
  rw [announced, inside_eq hc]
  cases ho : s.activeConnect with
  | none => exact inOrder_done rfl hc hf (add_zero _)
  | some op =>
      rw [← stock_takeConnect ho]
      exact (inOrder_complete (s := { s with activeConnect := none }) hc
        (hf.of_eq rfl) _).logging _

lemma inOrder_retired (hc : s.entered = false) (hf : s.Filed) (cause : Option Failure) :
    (s.retired cause).InOrder (stock s.pending) 0 := by
  rw [retired, inside_eq hc]
  cases ho : s.activeDisconnect with
  | none => exact inOrder_done (by cases cause <;> rfl) hc hf (add_zero _)
  | some op =>
      have hbare : ((cause.map op.fail).getD op).bare = op.bare := by cases cause <;> rfl
      rw [← stock_takeDisconnect ho, ← hbare]
      exact (inOrder_complete (s := { s with activeDisconnect := none }) hc
        (hf.of_eq rfl) _).logging _

lemma inOrder_connectionFailed (hc : s.entered = false) (hf : s.Filed) (cause : Failure) :
    (s.connectionFailed cause).InOrder (stock s.pending) 0 := by
  rw [connectionFailed, inside_eq hc]
  refine InOrder.logging ?_ _
  cases ho : s.activeConnect with
  | none => exact inOrder_done rfl hc hf (add_zero _)
  | some op =>
      rw [← stock_takeConnect ho, ← Operation.bare_fail op cause]
      exact (inOrder_complete (s := { s with activeConnect := none }) hc
        (hf.of_eq rfl) _).logging _

lemma inOrder_acknowledged (hc : s.entered = false) (hf : s.Filed) (id : Nat) (outcome : Outcome) :
    (s.acknowledged id outcome).InOrder (stock s.pending) 0 := by
  rw [acknowledged, inside_eq hc]
  cases ho : s.awaiting? id with
  | none => exact inOrder_done rfl hc hf (add_zero _)
  | some op =>
      have hkept := stock_pending_forget hf ho
      cases outcome with
      | ok u =>
          rw [← hkept]
          exact (inOrder_complete (s := s.forget id) hc (hf.forget id) _).logging _
      | error f =>
          rw [← hkept, ← Operation.bare_fail op f]
          exact (inOrder_complete (s := s.forget id) hc (hf.forget id) _).logging _

/-- **The session reports**: what the report completes is handed over, all else is kept. -/
theorem inOrder_report (hc : s.entered = false) (hf : s.Filed) (r : Report) :
    (s.report r).InOrder (stock s.pending) 0 := by
  cases r with
  | connected =>
      refine inOrder_ask rfl trivial hc hf ?_
      simp [Ask.operations, ChainCall.operation?, Frame.operations]
  | connectionFailed cause => exact inOrder_connectionFailed hc hf cause
  | disconnected cause =>
      refine inOrder_ask rfl trivial hc hf ?_
      simp [Ask.operations, ChainCall.operation?, Frame.operations]
  | message topic payload =>
      refine inOrder_ask rfl trivial hc hf ?_
      simp [Ask.operations, ChainCall.operation?, Frame.operations]
  | acknowledged id outcome => exact inOrder_acknowledged hc hf id outcome

/-! ### Everything is given up -/

lemma inOrder_abandonRest (hc : s.entered = false) (hf : s.Filed) (session : Option SessionId)
    (left : List (Operation κ)) :
    (s.abandonRest session left).InOrder (stock left + stock s.pending) 0 := by
  cases left with
  | nil =>
      cases session with
      | none => exact inOrder_done rfl hc hf (by simp)
      | some session =>
          refine inOrder_ask rfl trivial hc hf ?_
          simp [Ask.operations, Frame.operations]
  | cons old left =>
      refine inOrder_ask rfl trivial hc hf ?_
      simp [Ask.operations, ChainCall.operation?, Frame.operations]

/-- **Everything is given up**: all that was kept is in hand now. -/
theorem inOrder_abandon (hc : s.entered = false) :
    (s.abandon (.on .pipeline)).InOrder (stock s.pending) 0 := by
  have hcheck : (Origin.on .pipeline).check .pipeline = .ok () := rfl
  rw [abandon, hcheck]
  simp only [inside_eq hc]
  have hq : s.abandonLines.all Trace.remarks := by
    rw [abandonLines]
    split <;> rfl
  refine InOrder.after ?_ hq
  set emptied : Stage κ :=
    { s with session := none, activeConnect := none, activeDisconnect := none, awaitingAck := [] }
  have hnothing : emptied.Filed := ⟨List.nodup_nil, List.forall_mem_nil _⟩
  have hrest := inOrder_abandonRest (s := emptied) hc hnothing s.session s.pending
  have hnone : stock emptied.pending = 0 := rfl
  rwa [hnone, add_zero] at hrest

/-! ### The surroundings return -/

/-- **The chain returns**, or a session is gone: the stage goes on with what it has in hand. -/
theorem inOrder_proceed {frame : Frame κ} {t : Turn κ} (hc : s.entered = frame.holdsCell)
    (hf : s.Filed) (h : s.proceed frame = some t) :
    t.InOrder (stock frame.operations + stock s.pending) (stock (s.displaced frame).toList) := by
  cases frame with
  | last =>
      cases h
      exact inOrder_done rfl hc hf (by simp [Frame.operations, displaced])
  | superseding left aim op =>
      cases h
      have hsup := inOrder_supersede hc hf aim left op
      simpa [Frame.operations] using hsup
  | replacing op =>
      cases h
      have hover := inOrder_complete (s := { s with entered := false }) rfl (hf.of_eq rfl) op
      simpa [Frame.operations, displaced, stock_pending] using hover
  | announced =>
      cases h
      simpa [Frame.operations, displaced] using inOrder_announced hc hf
  | retired cause =>
      cases h
      simpa [Frame.operations, displaced] using inOrder_retired hc hf cause
  | abandoning left session =>
      cases h
      simpa [Frame.operations, displaced] using inOrder_abandonRest hc hf session left
  | creating _ _ | starting _ | requesting _ => cases h

/-- **A session was made**, or was not: the operation that wanted it is over, or it waits until the
session of before is gone. -/
theorem inOrder_created {frame : Frame κ} {t : Turn κ} {result : Except Failure SessionId}
    (hc : s.entered = frame.holdsCell) (hf : s.Filed) (h : s.created result frame = some t) :
    t.InOrder (stock frame.operations + stock s.pending) 0 := by
  cases frame with
  | creating op args =>
      rw [Frame.operations, stock_cons, stock_nil, add_zero]
      cases result with
      | error f =>
          cases h
          exact (inOrder_complete hc hf (op.fail f)).logging _
      | ok session =>
          cases h
          rw [inside_eq hc]
          refine InOrder.logging ?_ _
          cases s.session with
          | none =>
              exact inOrder_complete (s := { s with args := some args, session := some session })
                hc (hf.of_eq rfl) op
          | some old =>
              refine inOrder_ask rfl trivial rfl (hf.of_eq rfl) ?_
              simp [Ask.operations, Frame.operations, stock_pending]
  | last | superseding _ _ _ | replacing _ | starting _ | requesting _ | announced | retired _
  | abandoning _ _ => cases h

/-- **The session has answered**: what it did not start is over, all else is kept. -/
theorem inOrder_answered {frame : Frame κ} {t : Turn κ} {outcome : Outcome} (hf : s.Filed)
    (h : s.answered outcome frame = some t) :
    t.InOrder (stock frame.operations + stock s.pending) 0 := by
  have hkept : stock ({ s with entered := false } : Stage κ).pending = stock s.pending := rfl
  have hleft : ({ s with entered := false } : Stage κ).Filed := hf.of_eq rfl
  cases frame with
  | starting slot =>
      rw [Frame.operations, stock_nil, zero_add]
      cases outcome with
      | ok u =>
          cases h
          exact inOrder_done rfl rfl hleft (by rw [hkept, add_zero])
      | error f =>
          cases ho : s.slot slot with
          | none =>
              simp only [answered, ho] at h
              cases h
              exact inOrder_done rfl rfl hleft (by rw [hkept, add_zero])
          | some op =>
              simp only [answered, ho] at h
              cases h
              have hslot := stock_pending_setSlot { s with entered := false } slot none
              have hsame : ({ s with entered := false } : Stage κ).slot slot = some op := by
                cases slot <;> exact ho
              rw [hsame, hkept, Option.toList_none, Option.toList_some, stock_nil, zero_add,
                stock_cons, stock_nil, add_zero, add_comm] at hslot
              rw [← hslot]
              exact inOrder_refuse (by cases slot <;> rfl) (hleft.of_eq (by cases slot <;> rfl))
                op f
  | requesting id =>
      rw [Frame.operations, stock_nil, zero_add]
      cases outcome with
      | ok u =>
          cases h
          exact inOrder_done rfl rfl hleft (by rw [hkept, add_zero])
      | error f =>
          cases ho : s.awaiting? id with
          | none =>
              simp only [answered, ho] at h
              cases h
              exact inOrder_done rfl rfl hleft (by rw [hkept, add_zero])
          | some op =>
              simp only [answered, ho] at h
              cases h
              have hgone := stock_pending_forget hleft
                (show ({ s with entered := false } : Stage κ).awaiting? id = some op from ho)
              rw [hkept] at hgone
              rw [← hgone]
              exact inOrder_refuse rfl (hleft.forget id) op f
  | last | superseding _ _ _ | creating _ _ | replacing _ | announced | retired _
  | abandoning _ _ => cases h

end Stage

end DeviceLink
