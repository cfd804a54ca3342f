import DeviceLink.Proofs.Stage.Single
import DeviceLink.Transport.Acks

/-!
# Operations that are acknowledged

An operation that publishes, subscribes or unsubscribes waits under its own number from the moment
at which the session is called for it, and stands nowhere else in a stage, unless everything is
given up.  So whenever one is over, that has one of four reasons: there is no session, the call of
the session has not started it, the session has reported that it is acknowledged, or can not be any
more, or everything is given up.

* `Request.kind?`, `SessionCall.tracked?` — the operations and calls that are acknowledged.
* `Turn.Sorts` — what a stretch of work does with them.
* `Activity.Ends` — why one is over.
* **`sorts_turn`** — every stretch of work leaves them where they wait, and ends them for these
  reasons only.
* **`Single.sorted_step`** — they stand nowhere else after any move of the worker.
-/

namespace DeviceLink

open Transport

variable {κ : Type}

/-- The kind of acknowledgement that an operation waits for. -/
def Request.kind? : Request → Option AckKind
  | publish _ _ => some .publish
  | subscribe _ => some .subscribe
  | unsubscribe _ => some .unsubscribe
  | setConnectionArgs _ | setCredential _ | connect | reconnect | disconnect | enableFeature _
  | disableFeature _ => none

/-- The kind of acknowledgement that a call waits for, and the number under which it does. -/
def SessionCall.tracked? : SessionCall → Option (AckKind × Nat)
  | publish id _ _ => some (.publish, id)
  | subscribe id _ => some (.subscribe, id)
  | unsubscribe id _ => some (.unsubscribe, id)
  | connect _ _ | reconnect _ | disconnect => none

/-- No operation that is acknowledged is among those that stand in a slot, or are in hand. -/
def Plain (ops : List (Operation κ)) : Prop := ∀ op ∈ ops, op.request.kind? = none

/-- No operation that is acknowledged is in hand, unless everything is given up. -/
def Frame.Plain : Frame κ → Prop
  | .abandoning _ _ => True
  | frame => DeviceLink.Plain frame.operations

/-- Operations that are acknowledged stand where they wait, and nowhere else. -/
structure Stage.Sorted (s : Stage κ) : Prop where
  slots : Plain s.active
  waiting : ∀ p ∈ s.awaitingAck, p.2.request.kind?.isSome ∧ p.2.error = none

/-- **What a stretch of work does** with the operations that are acknowledged, when it is given some
operations: whoever waits when it ends has waited before, or the session is called for it; and those
that it ends are told so as `ends` says, with what remains to be done then. -/
structure Turn.Sorts (s : Stage κ) (brought : List (Operation κ))
    (ends : Operation κ → Frame κ → Prop) (t : Turn κ) : Prop where
  slots : Plain t.stage.active
  inHand : ∀ ask frame, t.next = .ask ask frame → frame.Plain
  kept : ∀ p ∈ t.stage.awaitingAck, p ∈ s.awaitingAck ∨ ∃ op ∈ brought, p = (op.id, op) ∧
    ∃ session c, t.next = .ask (.call session c) (.requesting op.id)
  calls : ∀ session c id, t.next = .ask (.call session c) (.requesting id) →
    ∃ op ∈ brought, op.id = id ∧ (id, op) ∈ t.stage.awaitingAck ∧
      ∃ kind, op.request.kind? = some kind ∧ c.tracked? = some (kind, id)
  ends : ∀ op frame, t.next = .ask (.chain (.complete op)) frame → op.request.kind?.isSome →
    ends op frame

namespace Turn

variable {s : Stage κ} {t : Turn κ} {brought : List (Operation κ)}
  {ends : Operation κ → Frame κ → Prop}

lemma Sorts.after (h : t.Sorts s brought ends) (traces : List (Trace κ)) :
    (t.after traces).Sorts s brought ends :=
  ⟨h.slots, h.inHand, h.kept, h.calls, h.ends⟩

lemma Sorts.logging (h : t.Sorts s brought ends) (line : LogLine) :
    (t.logging line).Sorts s brought ends := h.after _

lemma sorts_of_next_done (hslots : Plain t.stage.active)
    (hkept : ∀ p ∈ t.stage.awaitingAck, p ∈ s.awaitingAck) (hnext : ∀ ask frame,
      t.next ≠ .ask ask frame) : t.Sorts s brought ends :=
  ⟨hslots, fun ask frame hn => (hnext ask frame hn).elim, fun p hp => .inl (hkept p hp),
    fun _ _ _ hn => (hnext _ _ hn).elim, fun _ frame hn => (hnext _ frame hn).elim⟩

/-- Something is handed over, and no session is called for a request. -/
lemma sorts_of_next_ask {ask : Ask κ} {frame : Frame κ} (hnext : t.next = .ask ask frame)
    (hslots : Plain t.stage.active) (hkept : ∀ p ∈ t.stage.awaitingAck, p ∈ s.awaitingAck)
    (hframe : frame.Plain) (hcall : ∀ id, frame ≠ .requesting id)
    (hover : ∀ op, ask = .chain (.complete op) → op.request.kind?.isSome → ends op frame) :
    t.Sorts s brought ends := by
  refine ⟨hslots, ?_, fun p hp => .inl (hkept p hp), ?_, ?_⟩
  · intro other next hn
    rw [hnext] at hn
    cases hn
    exact hframe
  · intro session c id hn
    rw [hnext] at hn
    cases hn
    exact (hcall id rfl).elim
  · intro op next hn
    rw [hnext] at hn
    cases hn
    exact hover op rfl

lemma Sorts.inside (hs : s.Sorted) (h : t.Sorts s brought ends) :
    (s.inside t).Sorts s brought ends := by
  rw [Stage.inside]
  split
  · exact sorts_of_next_done hs.slots (fun _ hp => hp) (by rintro ask frame ⟨⟩)
  · exact h

end Turn

namespace Stage

open Turn

variable {s : Stage κ} {op : Operation κ} {brought : List (Operation κ)}
  {ends : Operation κ → Frame κ → Prop}

lemma plain_nil : Plain ([] : List (Operation κ)) := List.forall_mem_nil _

/-- The slots without one of their operations. -/
lemma Sorted.plain_setSlot (h : s.Sorted) (slot : Slot) : Plain (s.setSlot slot none).active := by
  intro op hop
  refine h.slots op ?_
  cases slot with
  | connect => exact List.mem_append_right _ hop
  | disconnect =>
      rw [active, setSlot, Option.toList_none, List.append_nil] at hop
      exact List.mem_append_left _ hop

lemma Sorted.plain_slot (h : s.Sorted) (slot : Slot) (hop : s.slot slot = some op) :
    op.request.kind? = none := by
  refine h.slots op ?_
  cases slot with
  | connect => exact List.mem_append_left _ (Option.mem_toList.mpr hop)
  | disconnect => exact List.mem_append_right _ (Option.mem_toList.mpr hop)

/-- The chain is told that an operation is over. -/
lemma sorts_complete (left : Stage κ) (op : Operation κ) (hslots : Plain left.active)
    (hkept : ∀ p ∈ left.awaitingAck, p ∈ s.awaitingAck)
    (hover : op.request.kind?.isSome → ends op .last) :
    (left.complete op).Sorts s brought ends := by
  refine sorts_of_next_ask rfl hslots hkept plain_nil (by rintro id ⟨⟩) ?_
  rintro other ⟨⟩
  exact hover

lemma sorts_refuse (left : Stage κ) (op : Operation κ) (f : Failure) (hslots : Plain left.active)
    (hkept : ∀ p ∈ left.awaitingAck, p ∈ s.awaitingAck)
    (hover : op.request.kind?.isSome → ends (op.fail f) .last) :
    (left.refuse op f).Sorts s brought ends :=
  Sorts.logging (sorts_complete left (op.fail f) hslots hkept hover) _

/-- No operation that is not acknowledged needs a reason to be over. -/
lemma over_of_plain {P : Prop} (h : op.request.kind? = none) : op.request.kind?.isSome → P := by
  rw [h]
  rintro ⟨⟩

/-! ## An operation arrives -/

lemma sorts_setConnectionArgs (hs : s.Sorted) (hop : op.request.kind? = none)
    (args : ConnectionArgs) : (s.setConnectionArgs op args).Sorts s brought ends := by
  rw [setConnectionArgs]
  refine (Sorts.inside hs ?_).logging _
  cases s.session with
  | some session => exact sorts_complete s _ hs.slots (fun _ hp => hp) (over_of_plain hop)
  | none =>
      refine sorts_of_next_ask rfl hs.slots (fun _ hp => hp) ?_ (by rintro id ⟨⟩) (by rintro o ⟨⟩)
      intro other hother
      cases List.mem_singleton.mp hother
      exact hop

lemma sorts_startConnection (hs : s.Sorted) (hop : op.request.kind? = none) (aim : Aim) :
    (s.startConnection aim op).Sorts s brought ends := by
  rw [startConnection]
  refine Sorts.inside hs ?_
  cases s.session with
  | none =>
      refine sorts_refuse _ op _ (hs.plain_setSlot _) (fun p hp => ?_) (over_of_plain hop)
      cases aim <;> exact hp
  | some session =>
      refine sorts_of_next_ask rfl ?_ (fun p hp => ?_) plain_nil (by rintro id ⟨⟩) (by rintro o ⟨⟩)
      · intro other hother
        cases aim with
        | connect | reconnect =>
            rcases List.mem_cons.mp hother with rfl | hother
            · exact hop
            · exact hs.slots other (List.mem_append_right _ hother)
        | disconnect =>
            rcases List.mem_append.mp hother with hother | hother
            · exact hs.slots other (List.mem_append_left _ hother)
            · cases List.mem_singleton.mp hother
              exact hop
      · cases aim <;> exact hp

lemma sorts_supersede (hs : s.Sorted) (hop : op.request.kind? = none) (aim : Aim)
    {left : List (Operation κ)} (hleft : Plain left) :
    (s.supersede aim op left).Sorts s brought ends := by
  cases left with
  | nil => exact sorts_startConnection hs hop aim
  | cons old left =>
      refine sorts_of_next_ask rfl hs.slots (fun _ hp => hp) ?_ (by rintro id ⟨⟩) ?_
      · intro other hother
        rcases List.mem_append.mp hother with hother | hother
        · exact hleft other (List.mem_cons_of_mem _ hother)
        · cases List.mem_singleton.mp hother
          exact hop
      · rintro other ⟨⟩
        exact over_of_plain (hleft old List.mem_cons_self)

lemma sorts_runConnection (hs : s.Sorted) (hop : op.request.kind? = none) (aim : Aim) :
    (s.runConnection aim op).Sorts s brought ends := by
  rw [runConnection]
  refine (Sorts.inside hs ?_).logging _
  have hempty : ({ s with activeConnect := none, activeDisconnect := none } : Stage κ).Sorted :=
    ⟨plain_nil, hs.waiting⟩
  have hsorts : Turn.Sorts _ brought ends _ := sorts_supersede hempty hop aim hs.slots
  exact ⟨hsorts.slots, hsorts.inHand, hsorts.kept, hsorts.calls, hsorts.ends⟩

lemma sorts_runRequest (hs : s.Sorted) (hmem : op ∈ brought) (kind : AckKind)
    (hkind : op.request.kind? = some kind) {c : SessionCall} (hc : c.tracked? = some (kind, op.id))
    (text : String) (hover : ends (op.fail (noSession op)) .last) :
    (s.runRequest op c text).Sorts s brought ends := by
  rw [runRequest]
  refine (Sorts.inside hs ?_).logging _
  cases s.session with
  | none => exact sorts_refuse s op _ hs.slots (fun _ hp => hp) fun _ => hover
  | some session =>
      refine ⟨hs.slots, ?_, ?_, ?_, by rintro o frame ⟨⟩⟩
      · rintro ask frame ⟨⟩
        exact plain_nil
      · intro p hp
        rcases List.mem_append.mp hp with hp | hp
        · exact .inl (List.mem_of_mem_filter hp)
        · exact .inr ⟨op, hmem, List.mem_singleton.mp hp, session, c, rfl⟩
      · rintro session c id ⟨⟩
        exact ⟨op, hmem, rfl, List.mem_append_right _ List.mem_cons_self, kind, hkind, hc⟩

/-- **An operation arrives.** -/
theorem sorts_run (hs : s.Sorted) (o : Origin) (hmem : op ∈ brought)
    (hover : op.request.kind?.isSome → ends (op.fail (noSession op)) .last) :
    (s.run o op).Sorts s brought ends := by
  rw [run]
  cases o.check .pipeline with
  | error text => exact sorts_of_next_done hs.slots (fun _ hp => hp) (by rintro ask frame ⟨⟩)
  | ok u =>
      cases hr : op.request with
      | setConnectionArgs args => exact sorts_setConnectionArgs hs (by rw [hr]; rfl) args
      | setCredential credential =>
          refine (Sorts.inside hs ?_).logging _
          exact sorts_complete _ op hs.slots (fun _ hp => hp) (over_of_plain (by rw [hr]; rfl))
      | connect => exact sorts_runConnection hs (by rw [hr]; rfl) .connect
      | reconnect => exact sorts_runConnection hs (by rw [hr]; rfl) .reconnect
      | disconnect => exact sorts_runConnection hs (by rw [hr]; rfl) .disconnect
      | publish topic payload =>
          exact sorts_runRequest hs hmem .publish (by rw [hr]; rfl) rfl _
            (hover (by rw [hr]; rfl))
      | subscribe topic =>
          exact sorts_runRequest hs hmem .subscribe (by rw [hr]; rfl) rfl _
            (hover (by rw [hr]; rfl))
      | unsubscribe topic =>
          exact sorts_runRequest hs hmem .unsubscribe (by rw [hr]; rfl) rfl _
            (hover (by rw [hr]; rfl))
      | enableFeature feature | disableFeature feature =>
          exact sorts_of_next_ask rfl hs.slots (fun _ hp => hp) plain_nil (by rintro id ⟨⟩)
            (by rintro o ⟨⟩)

/-! ## The session reports -/

lemma sorts_connectionFailed (hs : s.Sorted) (cause : Failure) :
    (s.connectionFailed cause).Sorts s brought ends := by
  rw [connectionFailed]
  refine (Sorts.inside hs ?_).logging _
  cases hc : s.activeConnect with
  | none => exact sorts_of_next_done hs.slots (fun _ hp => hp) (by rintro ask frame ⟨⟩)
  | some held =>
      have hheld := hs.plain_slot .connect hc
      refine Sorts.logging ?_ _
      exact sorts_complete (s.setSlot .connect none) (held.fail cause) (hs.plain_setSlot .connect)
        (fun _ hp => hp) (over_of_plain hheld)

lemma sorts_announced (hs : s.Sorted) : s.announced.Sorts s brought ends := by
  rw [announced]
  refine Sorts.inside hs ?_
  cases hc : s.activeConnect with
  | none => exact sorts_of_next_done hs.slots (fun _ hp => hp) (by rintro ask frame ⟨⟩)
  | some held =>
      refine Sorts.logging ?_ _
      exact sorts_complete (s.setSlot .connect none) held (hs.plain_setSlot .connect)
        (fun _ hp => hp) (over_of_plain (hs.plain_slot .connect hc))

lemma sorts_retired (hs : s.Sorted) (cause : Option Failure) :
    (s.retired cause).Sorts s brought ends := by
  rw [retired]
  refine Sorts.inside hs ?_
  cases hd : s.activeDisconnect with
  | none => exact sorts_of_next_done hs.slots (fun _ hp => hp) (by rintro ask frame ⟨⟩)
  | some held =>
      have hheld := hs.plain_slot .disconnect hd
      refine Sorts.logging ?_ _
      refine sorts_complete (s.setSlot .disconnect none) _ (hs.plain_setSlot .disconnect)
        (fun _ hp => hp) ?_
      cases cause <;> exact over_of_plain hheld

/-- The operation that an acknowledgement ends. -/
def settled (held : Operation κ) : Outcome → Operation κ
  | .ok () => held
  | .error f => held.fail f

lemma sorts_acknowledged (hs : s.Sorted) (id : Nat) (outcome : Outcome)
    (hover : ∀ held, s.awaiting? id = some held → ends (settled held outcome) .last) :
    (s.acknowledged id outcome).Sorts s brought ends := by
  rw [acknowledged]
  refine Sorts.inside hs ?_
  cases hw : s.awaiting? id with
  | none => exact sorts_of_next_done hs.slots (fun _ hp => hp) (by rintro ask frame ⟨⟩)
  | some held =>
      have hsettled := hover held hw
      cases outcome <;>
      · refine Sorts.logging ?_ _
        exact sorts_complete (s.forget id) _ hs.slots (fun _ => List.mem_of_mem_filter)
          fun _ => hsettled

/-- **The session reports.** -/
theorem sorts_report (hs : s.Sorted) (r : Report)
    (hover : ∀ id outcome held, r = .acknowledged id outcome → s.awaiting? id = some held →
      ends (settled held outcome) .last) : (s.report r).Sorts s brought ends := by
  cases r with
  | connected | disconnected _ | message _ _ =>
      exact sorts_of_next_ask rfl hs.slots (fun _ hp => hp) plain_nil (by rintro id ⟨⟩)
        (by rintro o ⟨⟩)
  | connectionFailed cause => exact sorts_connectionFailed hs cause
  | acknowledged id outcome => exact sorts_acknowledged hs id outcome (hover id outcome · rfl)

/-! ## Everything is given up -/

lemma sorts_abandonRest (hslots : Plain s.active) {kept : Stage κ}
    (hkept : ∀ p ∈ s.awaitingAck, p ∈ kept.awaitingAck) (session : Option SessionId)
    {left : List (Operation κ)}
    (hover : ∀ op rest, left = op :: rest →
      ends (op.fail cancelled) (.abandoning rest session)) :
    (s.abandonRest session left).Sorts kept brought ends := by
  cases left with
  | nil =>
      cases session with
      | none => exact sorts_of_next_done hslots hkept (by rintro ask frame ⟨⟩)
      | some session =>
          exact sorts_of_next_ask rfl hslots hkept plain_nil (by rintro id ⟨⟩) (by rintro o ⟨⟩)
  | cons op rest =>
      refine sorts_of_next_ask rfl hslots hkept trivial (by rintro id ⟨⟩) ?_
      rintro other ⟨⟩
      exact fun _ => hover op rest rfl

/-- **Everything is given up.** -/
theorem sorts_abandon (hs : s.Sorted) (o : Origin)
    (hover : ∀ op rest, s.pending = op :: rest →
      ends (op.fail cancelled) (.abandoning rest s.session)) :
    (s.abandon o).Sorts s brought ends := by
  rw [abandon]
  cases o.check .pipeline with
  | error text => exact sorts_of_next_done hs.slots (fun _ hp => hp) (by rintro ask frame ⟨⟩)
  | ok u =>
      refine Sorts.inside hs (Sorts.after ?_ _)
      refine sorts_abandonRest ?_ ?_ s.session hover
      · exact plain_nil
      · exact List.forall_mem_nil _

/-! ## The surroundings return -/

theorem sorts_proceed (hs : s.Sorted) {frame : Frame κ} (hframe : frame.Plain) {t : Turn κ}
    (ht : s.proceed frame = some t)
    (hover : ∀ op rest session, frame = .abandoning (op :: rest) session →
      ends (op.fail cancelled) (.abandoning rest session)) : t.Sorts s brought ends := by
  cases frame with
  | last =>
      cases ht
      exact sorts_of_next_done hs.slots (fun _ hp => hp) (by rintro ask frame ⟨⟩)
  | replacing op =>
      cases ht
      exact sorts_complete _ op hs.slots (fun _ hp => hp)
        (over_of_plain (hframe op List.mem_cons_self))
  | superseding left aim op =>
      cases ht
      refine sorts_supersede hs (hframe op (List.mem_append_right _ List.mem_cons_self)) aim ?_
      exact fun other hother => hframe other (List.mem_append_left _ hother)
  | announced =>
      cases ht
      exact sorts_announced hs
  | retired cause =>
      cases ht
      exact sorts_retired hs cause
  | abandoning left session =>
      cases ht
      refine sorts_abandonRest hs.slots (fun _ hp => hp) session ?_
      rintro op rest rfl
      exact hover op rest session rfl
  | creating _ _ | starting _ | requesting _ => cases ht

theorem sorts_created (hs : s.Sorted) {frame : Frame κ} (hframe : frame.Plain)
    {result : Except Failure SessionId} {t : Turn κ} (ht : s.created result frame = some t) :
    t.Sorts s brought ends := by
  cases frame with
  | creating op args =>
      have hop := hframe op List.mem_cons_self
      cases result with
      | error f =>
          cases ht
          refine Sorts.logging ?_ _
          exact sorts_complete s (op.fail f) hs.slots (fun _ hp => hp) (over_of_plain hop)
      | ok session =>
          cases ht
          refine (Sorts.inside hs ?_).logging _
          cases s.session with
          | none => exact sorts_complete _ op hs.slots (fun _ hp => hp) (over_of_plain hop)
          | some old =>
              refine sorts_of_next_ask rfl hs.slots (fun _ hp => hp) ?_ (by rintro id ⟨⟩)
                (by rintro o ⟨⟩)
              intro other hother
              cases List.mem_singleton.mp hother
              exact hop
  | last | superseding _ _ _ | replacing _ | starting _ | requesting _ | announced | retired _
  | abandoning _ _ => cases ht

theorem sorts_answered (hs : s.Sorted) {frame : Frame κ} {outcome : Outcome} {t : Turn κ}
    (ht : s.answered outcome frame = some t)
    (hover : ∀ id f held, frame = .requesting id → outcome = .error f →
      s.awaiting? id = some held → ends (held.fail f) .last) : t.Sorts s brought ends := by
  cases frame with
  | starting slot =>
      simp only [answered] at ht
      split at ht
      · next f held hslot =>
          cases ht
          refine sorts_refuse (({ s with entered := false } : Stage κ).setSlot slot none) held f ?_
            (fun p hp => ?_) (over_of_plain (hs.plain_slot slot hslot))
          · intro other hother
            exact hs.plain_setSlot slot other (by cases slot <;> exact hother)
          · cases slot <;> exact hp
      all_goals
        cases ht
        exact sorts_of_next_done hs.slots (fun _ hp => hp) (by rintro ask frame ⟨⟩)
  | requesting id =>
      simp only [answered] at ht
      split at ht
      · next f held hwaits =>
          cases ht
          exact sorts_refuse (s := s) (({ s with entered := false } : Stage κ).forget id) held f
            hs.slots (fun _ => List.mem_of_mem_filter) fun _ => hover id f held rfl rfl hwaits
      all_goals
        cases ht
        exact sorts_of_next_done hs.slots (fun _ hp => hp) (by rintro ask frame ⟨⟩)
  | last | superseding _ _ _ | creating _ _ | replacing _ | announced | retired _
  | abandoning _ _ => cases ht

/-! ## Who waits -/

lemma mem_of_awaiting? {id : Nat} (h : s.awaiting? id = some op) : (id, op) ∈ s.awaitingAck := by
  obtain ⟨before, after, he, -⟩ := List.lookup_eq_some_iff.mp h
  rw [he]
  exact List.mem_append_right _ List.mem_cons_self

/-- Whoever waits under a number is found there. -/
lemma Filed.awaiting?_of_mem (h : s.Filed) {id : Nat} (hop : (id, op) ∈ s.awaitingAck) :
    s.awaiting? id = some op := by
  cases hw : s.awaiting? id with
  | none =>
      have hne := List.lookup_eq_none_iff.mp hw _ hop
      exact (bne_iff_ne.mp hne rfl).elim
  | some other =>
      have he := List.inj_on_of_nodup_map h.nodup (mem_of_awaiting? hw) hop rfl
      cases he
      rfl

end Stage

namespace Activity

variable {a a' : Activity κ} {m : Move κ} {traces : List (Trace κ)}

/-- **Why an operation that is acknowledged is over**, when a move is made, and what remains to be
done then: it was brought and there is no session; it has waited, and the session reports on it; it
has waited, and the call of the session has not started it; or everything is given up, and it is its
turn. -/
inductive Ends (a : Activity κ) : Move κ → Operation κ → Frame κ → Prop where
  | unstarted {o : Origin} {op : Operation κ} :
      Ends a (.enter o op) (op.fail (Stage.noSession op)) .last
  | reported {id : Nat} {outcome : Outcome} {held : Operation κ}
      (waits : a.stage.awaiting? id = some held) :
      Ends a (.deliver (.acknowledged id outcome)) (Stage.settled held outcome) .last
  | refused {ask : Ask κ} {id : Nat} {f : Failure} {held : Operation κ}
      (here : a.levels.head? = some (ask, .requesting id))
      (waits : a.stage.awaiting? id = some held) :
      Ends a (.answered (.error f)) (held.fail f) .last
  | givenUp {o : Origin} {op : Operation κ} {rest : List (Operation κ)}
      (first : a.stage.pending = op :: rest) :
      Ends a (.abandon o) (op.fail Stage.cancelled) (.abandoning rest a.stage.session)
  | cancelled {ask : Ask κ} {op : Operation κ} {rest : List (Operation κ)}
      {session : Option SessionId}
      (here : a.levels.head? = some (ask, .abandoning (op :: rest) session)) :
      Ends a .proceed (op.fail Stage.cancelled) (.abandoning rest session)

/-- Operations that are acknowledged stand nowhere but where they wait, unless everything is given
up. -/
structure Sorted (a : Activity κ) : Prop where
  stage : a.stage.Sorted
  inHand : ∀ l ∈ a.levels, l.2.Plain

lemma sorted_new (name : String) : ({ stage := .new name } : Activity κ).Sorted :=
  ⟨⟨Stage.plain_nil, List.forall_mem_nil _⟩, List.forall_mem_nil _⟩

/-- **Every stretch of work** leaves the operations that are acknowledged where they wait, unless it
ends them, or gives everything up. -/
theorem sorts_turn (h : a.Sorted) {t : Turn κ} (ht : a.turn? m = some t) :
    t.Sorts a.stage m.brings (a.Ends m) := by
  cases m with
  | enter o op =>
      cases ht
      exact Stage.sorts_run h.stage o List.mem_cons_self fun _ => .unstarted
  | deliver report =>
      cases ht
      refine Stage.sorts_report h.stage report ?_
      rintro id outcome held rfl hwaits
      exact .reported hwaits
  | abandon o =>
      cases ht
      exact Stage.sorts_abandon h.stage o fun op rest hfirst => .givenUp hfirst
  | panic message => cases ht
  | proceed =>
      obtain ⟨⟨ask, frame⟩, hl, ht⟩ := Option.bind_eq_some_iff.mp ht
      refine Stage.sorts_proceed h.stage (h.inHand _ (List.mem_of_head? hl)) ht ?_
      rintro op rest session rfl
      exact .cancelled hl
  | created result =>
      obtain ⟨l, hl, ht⟩ := Option.bind_eq_some_iff.mp ht
      exact Stage.sorts_created h.stage (h.inHand l (List.mem_of_head? hl)) ht
  | answered outcome =>
      obtain ⟨⟨ask, frame⟩, hl, ht⟩ := Option.bind_eq_some_iff.mp ht
      refine Stage.sorts_answered h.stage ht ?_
      rintro id f held rfl rfl hwaits
      exact .refused hl hwaits

/-- What waits after a move of the worker has waited before, or the session is called for it. -/
lemma Single.kept_step (h : a.Single) (hm : a.Driven m) (hs : a.Sorted)
    (hstep : a.step m = some (a', traces)) :
    ∀ p ∈ a'.stage.awaitingAck, p ∈ a.stage.awaitingAck ∨ ∃ op ∈ m.brings, p = (op.id, op) ∧
      ∃ session c, a'.levels = [(.call session c, .requesting op.id)] := by
  rcases h.outcome hm hstep with ⟨message, session, c, -, -, rfl, -⟩ | ⟨t, ht, rfl, -⟩
  · exact fun p hp => .inl hp
  · have hsorts := sorts_turn hs ht
    intro p hp
    have hstage : (settle [] t).1.stage.awaitingAck = t.stage.awaitingAck := by
      rw [settle]
      cases t.next <;> rfl
    rw [hstage] at hp
    refine (hsorts.kept p hp).imp_right ?_
    rintro ⟨op, hop, he, session, c, hn⟩
    refine ⟨op, hop, he, session, c, ?_⟩
    rw [settle, hn]

/-- A session is called for a request of an operation that is brought, and that waits from then
on. -/
lemma Single.calls_step (h : a.Single) (hm : a.Driven m) (hs : a.Sorted)
    (hstep : a.step m = some (a', traces)) {session : SessionId} {c : SessionCall} {id : Nat}
    (hlevels : a'.levels = [(.call session c, .requesting id)]) :
    ∃ op ∈ m.brings, op.id = id ∧ (id, op) ∈ a'.stage.awaitingAck ∧
      ∃ kind, op.request.kind? = some kind ∧ c.tracked? = some (kind, id) := by
  rcases h.outcome hm hstep with ⟨message, _, _, -, -, rfl, -⟩ | ⟨t, ht, rfl, -⟩
  · cases hlevels
  · have hsorts := sorts_turn hs ht
    rw [settle] at hlevels ⊢
    cases hn : t.next with
    | done | panic message =>
        rw [hn] at hlevels
        cases hlevels
    | ask ask frame =>
        rw [hn] at hlevels
        cases hlevels
        exact hsorts.calls session c id hn

/-- What is over after a move of the worker has been ended by that move. -/
lemma Single.ends_step (h : a.Single) (hm : a.Driven m) (hs : a.Sorted)
    (hstep : a.step m = some (a', traces)) {op : Operation κ} {frame : Frame κ}
    (hlevels : a'.levels = [(.chain (.complete op), frame)]) (hop : op.request.kind?.isSome) :
    a.Ends m op frame := by
  obtain ⟨t, ht, hn⟩ := h.next_of_levels hm hstep hlevels
  exact (sorts_turn hs ht).ends op frame hn hop

/-- **Every move of the worker** leaves operations that are acknowledged nowhere but where they
wait, unless everything is given up. -/
theorem Single.sorted_step (h : a.Single) (hm : a.Driven m) (hs : a.Sorted)
    (hclean : ∀ op ∈ m.brings, op.error = none) (hstep : a.step m = some (a', traces)) :
    a'.Sorted := by
  have hkept := h.kept_step hm hs hstep
  have hwaiting : ∀ p ∈ a'.stage.awaitingAck, p.2.request.kind?.isSome ∧ p.2.error = none := by
    intro p hp
    rcases hkept p hp with hp | ⟨op, hop, rfl, session, c, hlevels⟩
    · exact hs.stage.waiting p hp
    · obtain ⟨t, ht, hn⟩ := h.next_of_levels hm hstep hlevels
      obtain ⟨other, hother, -, -, kind, hkind, -⟩ := (sorts_turn hs ht).calls session c op.id hn
      refine ⟨?_, hclean op hop⟩
      cases m with
      | enter o brought =>
          cases List.mem_singleton.mp hop
          cases List.mem_singleton.mp hother
          exact Option.isSome_of_eq_some hkind
      | deliver _ | abandon _ | proceed | created _ | answered _ | panic _ => cases hop
  rcases h.outcome hm hstep with ⟨message, session, c, -, -, rfl, -⟩ | ⟨t, ht, rfl, -⟩
  · exact ⟨⟨hs.stage.slots, hwaiting⟩, List.forall_mem_nil _⟩
  · have hsorts := sorts_turn hs ht
    refine ⟨⟨?_, hwaiting⟩, ?_⟩
    · have hstage : (settle [] t).1.stage.active = t.stage.active := by
        rw [settle]
        cases t.next <;> rfl
      rw [hstage]
      exact hsorts.slots
    · rw [settle]
      cases hn : t.next with
      | done | panic message => exact List.forall_mem_nil _
      | ask ask frame =>
          intro l hl
          cases List.mem_singleton.mp hl
          exact hsorts.inHand ask frame hn

end Activity

end DeviceLink
