import DeviceLink.Proofs.Stage.Lone

/-!
# A stage that may be given up

Giving up takes the session and every operation away at once, and hands the operations over one
after the other.  Whatever else a stage does, it keeps an operation only where it has a session; so
one without a session keeps none, and what it keeps has come since everything was given up.

* `Stage.Poised` — what the state is like while the stage waits, also while it is being given up.
* `Stage.Tied` — a stage without a session keeps no operation.
* `Turn.Ties` — what a stretch of work makes of the session, and of that.
* `Move.session` — the session that a move leaves.
* **`Composed.step`**, **`Composed.stock_step`** — every move of the worker keeps the shape, leaves
  that session, and loses no operation.
* **`Composed.claims_step`** — what is not being given up was not before, or is brought.
-/

namespace DeviceLink

variable {κ : Type}

/-! ## What the state is like -/

/-- What the state is like while the stage waits: as in a stage that is left alone, or there is no
session, since everything is given up. -/
def Stage.Poised (s : Stage κ) : Ask κ × Frame κ → Prop
  | (.chain _, .abandoning _ _) | (.release _, .last) => s.session = none
  | l => s.Still l

lemma Stage.Still.poised {s : Stage κ} {l : Ask κ × Frame κ} (h : s.Still l) : s.Poised l := by
  obtain ⟨ask, frame⟩ := l
  cases ask <;> cases frame <;> first | exact h | exact h.elim

lemma Stage.Poised.still {s : Stage κ} {ask : Ask κ} {frame : Frame κ} (h : s.Poised (ask, frame))
    (hlast : frame ≠ .last) (hrest : ∀ left session, frame ≠ .abandoning left session) :
    s.Still (ask, frame) := by
  cases ask <;> cases frame <;>
    first | exact h | exact (hlast rfl).elim | exact (hrest _ _ rfl).elim

/-- A stage keeps no operation. -/
structure Stage.Vacant (s : Stage κ) : Prop where
  connect : s.activeConnect = none
  disconnect : s.activeDisconnect = none
  awaiting : s.awaitingAck = []

/-- A stage without a session keeps no operation. -/
def Stage.Tied (s : Stage κ) : Prop := s.session = none → s.Vacant

/-- What a stretch of work leaves: this session, and no operation where there is none. -/
structure Turn.Ties (session : Option SessionId) (t : Turn κ) : Prop where
  session : t.stage.session = session
  tied : t.stage.Tied

/-- It leaves the state as it has to be while the stage waits. -/
def Turn.Poised (t : Turn κ) : Prop :=
  ∀ ask frame, t.next = .ask ask frame → t.stage.Poised (ask, frame)

namespace Turn

variable {t : Turn κ} {session : Option SessionId}

lemma Ties.after (h : t.Ties session) (traces : List (Trace κ)) :
    (t.after traces).Ties session := ⟨h.session, h.tied⟩

lemma Ties.logging (h : t.Ties session) (line : LogLine) : (t.logging line).Ties session :=
  h.after _

lemma Still.poised (h : t.Still) : t.Poised := fun ask frame hn => (h ask frame hn).poised

lemma poised_of_next_done (h : t.next = .done) : t.Poised := (still_of_next_done h).poised

lemma poised_of_next_ask {ask : Ask κ} {frame : Frame κ} (hn : t.next = .ask ask frame)
    (h : t.stage.Poised (ask, frame)) : t.Poised := by
  intro other next hb
  rw [hn] at hb
  cases hb
  exact h

end Turn

namespace Stage

open Turn

variable {s : Stage κ} {op : Operation κ} {t : Turn κ} {session : Option SessionId}

lemma Vacant.pending_eq_nil (h : s.Vacant) : s.pending = [] := by
  rw [pending, active, h.connect, h.disconnect, h.awaiting]
  rfl

lemma tied_new (name : String) : (new name : Stage κ).Tied := fun _ => ⟨rfl, rfl, rfl⟩

lemma tied_of_session {session : SessionId} (h : s.session = some session) : s.Tied := by
  intro hnone
  cases hnone.symm.trans h

lemma Tied.setSlot (h : s.Tied) (slot : Slot) : (s.setSlot slot none).Tied := by
  intro hnone
  cases slot with
  | connect => exact { h hnone with connect := rfl }
  | disconnect => exact { h hnone with disconnect := rfl }

lemma Tied.forget (h : s.Tied) (id : Nat) : (s.forget id).Tied := by
  intro hnone
  refine { h hnone with awaiting := ?_ }
  rw [Stage.forget, (h hnone).awaiting]
  rfl

lemma Tied.leave (h : s.Tied) : ({ s with entered := false } : Stage κ).Tied :=
  fun hnone => { h hnone with }

lemma session_setSlot (s : Stage κ) (slot : Slot) (op : Option (Operation κ)) :
    (s.setSlot slot op).session = s.session := by
  cases slot <;> rfl

lemma ties_inside (hs : s.Tied) (h : t.Ties s.session) : (s.inside t).Ties s.session := by
  rw [inside]
  split
  · exact ⟨rfl, hs⟩
  · exact h

lemma ties_complete (hs : s.Tied) (op : Operation κ) : (s.complete op).Ties s.session := ⟨rfl, hs⟩

lemma ties_refuse (hs : s.Tied) (op : Operation κ) (f : Failure) :
    (s.refuse op f).Ties s.session := (ties_complete hs (op.fail f)).logging _

/-! ## An operation arrives -/

lemma ties_setConnectionArgs (hs : s.Tied) (args : ConnectionArgs) :
    (s.setConnectionArgs op args).Ties s.session := by
  rw [setConnectionArgs]
  refine (ties_inside hs ?_).logging _
  cases h : s.session <;> exact ⟨h, hs⟩

lemma ties_startConnection (hs : s.Tied) (aim : Aim) :
    (s.startConnection aim op).Ties s.session := by
  rw [startConnection]
  refine ties_inside hs ?_
  cases h : s.session with
  | none =>
      have hrefuse := ties_refuse (hs.setSlot aim.slot) op (noSession op)
      rwa [session_setSlot, h] at hrefuse
  | some session =>
      have hkept : (s.setSlot aim.slot (some op)).session = some session :=
        (session_setSlot s aim.slot _).trans h
      exact ⟨hkept, tied_of_session hkept⟩

lemma ties_supersede (hs : s.Tied) (aim : Aim) (left : List (Operation κ)) :
    (s.supersede aim op left).Ties s.session := by
  cases left with
  | nil => exact ties_startConnection hs aim
  | cons old left => exact ⟨rfl, hs⟩

lemma ties_runConnection (hs : s.Tied) (aim : Aim) : (s.runConnection aim op).Ties s.session := by
  rw [runConnection]
  refine (ties_inside hs ?_).logging _
  have hempty : ({ s with activeConnect := none, activeDisconnect := none } : Stage κ).Tied :=
    fun hnone => { hs hnone with connect := rfl, disconnect := rfl }
  exact ties_supersede hempty aim s.active

lemma ties_runRequest (hs : s.Tied) (c : SessionCall) (text : String) :
    (s.runRequest op c text).Ties s.session := by
  rw [runRequest]
  refine (ties_inside hs ?_).logging _
  cases h : s.session with
  | none =>
      have hrefuse := ties_refuse hs op (noSession op)
      rwa [h] at hrefuse
  | some session => exact ⟨h, tied_of_session h⟩

/-- **An operation arrives.** -/
theorem ties_run (hs : s.Tied) (o : Origin) : (s.run o op).Ties s.session := by
  rw [run]
  cases o.check .pipeline with
  | error text => exact ⟨rfl, hs⟩
  | ok u =>
      cases op.request with
      | setConnectionArgs args => exact ties_setConnectionArgs hs args
      | setCredential credential =>
          refine (ties_inside hs ?_).logging _
          exact ⟨rfl, fun hnone => { hs hnone with }⟩
      | connect => exact ties_runConnection hs .connect
      | reconnect => exact ties_runConnection hs .reconnect
      | disconnect => exact ties_runConnection hs .disconnect
      | publish _ _ | subscribe _ | unsubscribe _ => exact ties_runRequest hs _ _
      | enableFeature _ | disableFeature _ => exact ⟨rfl, hs⟩

/-! ## The session reports -/

lemma ties_connectionFailed (hs : s.Tied) (cause : Failure) :
    (s.connectionFailed cause).Ties s.session := by
  rw [connectionFailed]
  refine (ties_inside hs ?_).logging _
  cases s.activeConnect with
  | none => exact ⟨rfl, hs⟩
  | some held => exact (ties_complete (hs.setSlot .connect) (held.fail cause)).logging _

lemma ties_announced (hs : s.Tied) : s.announced.Ties s.session := by
  rw [announced]
  refine ties_inside hs ?_
  cases s.activeConnect with
  | none => exact ⟨rfl, hs⟩
  | some held => exact (ties_complete (hs.setSlot .connect) held).logging _

lemma ties_retired (hs : s.Tied) (cause : Option Failure) : (s.retired cause).Ties s.session := by
  rw [retired]
  refine ties_inside hs ?_
  cases s.activeDisconnect with
  | none => exact ⟨rfl, hs⟩
  | some held =>
      exact (ties_complete (hs.setSlot .disconnect) ((cause.map held.fail).getD held)).logging _

lemma ties_acknowledged (hs : s.Tied) (id : Nat) (outcome : Outcome) :
    (s.acknowledged id outcome).Ties s.session := by
  rw [acknowledged]
  refine ties_inside hs ?_
  cases s.awaiting? id with
  | none => exact ⟨rfl, hs⟩
  | some held => cases outcome <;> exact (ties_complete (hs.forget id) _).logging _

/-- **The session reports.** -/
theorem ties_report (hs : s.Tied) (r : Report) : (s.report r).Ties s.session := by
  cases r with
  | connected | disconnected _ | message _ _ => exact ⟨rfl, hs⟩
  | connectionFailed cause => exact ties_connectionFailed hs cause
  | acknowledged id outcome => exact ties_acknowledged hs id outcome

/-! ## Everything is given up -/

lemma ties_abandonRest (hs : s.Tied) (session : Option SessionId) (left : List (Operation κ)) :
    (s.abandonRest session left).Ties s.session := by
  cases left with
  | nil => cases session <;> exact ⟨rfl, hs⟩
  | cons op left => exact ⟨rfl, hs⟩

lemma poised_abandonRest (hs : s.session = none) (session : Option SessionId)
    (left : List (Operation κ)) : (s.abandonRest session left).Poised := by
  cases left with
  | nil =>
      cases session with
      | none => exact poised_of_next_done rfl
      | some session => exact poised_of_next_ask rfl hs
  | cons op left => exact poised_of_next_ask rfl hs

/-- **Everything is given up**, by the worker. -/
theorem parts_abandon (hout : s.entered = false) :
    (s.abandon (.on .pipeline)).Ties none ∧ (s.abandon (.on .pipeline)).Poised := by
  have hcheck : (Origin.on .pipeline).check .pipeline = .ok () := rfl
  have hempty : ({ s with
      session := none, activeConnect := none, activeDisconnect := none, awaitingAck := [] } :
      Stage κ).Tied := fun _ => ⟨rfl, rfl, rfl⟩
  have hinside : ∀ t, s.inside t = t := fun t => if_neg (ne_true_of_eq_false hout)
  simp only [abandon, hcheck, hinside]
  exact ⟨(ties_abandonRest hempty s.session s.pending).after _,
    poised_abandonRest rfl s.session s.pending⟩

/-! ## The surroundings return -/

theorem ties_proceed (hs : s.Tied) {frame : Frame κ} (ht : s.proceed frame = some t) :
    t.Ties s.session := by
  cases frame with
  | last =>
      cases ht
      exact ⟨rfl, hs⟩
  | superseding left aim op =>
      cases ht
      exact ties_supersede hs aim left
  | replacing op =>
      cases ht
      exact ties_complete hs.leave op
  | announced =>
      cases ht
      exact ties_announced hs
  | retired cause =>
      cases ht
      exact ties_retired hs cause
  | abandoning left session =>
      cases ht
      exact ties_abandonRest hs session left
  | creating _ _ | starting _ | requesting _ => cases ht

theorem poised_proceed {ask : Ask κ} {frame : Frame κ} (h : s.Poised (ask, frame))
    (ht : s.proceed frame = some t) : t.Poised := by
  cases frame with
  | abandoning left session =>
      cases ht
      cases ask with
      | chain c => exact poised_abandonRest h session left
      | create _ | call _ _ | release _ => exact h.elim
  | last =>
      cases ht
      exact poised_of_next_done rfl
  | superseding _ _ _ | replacing _ | announced | retired _ =>
      exact (still_proceed (h.still (by rintro ⟨⟩) (by rintro _ _ ⟨⟩)) ht).poised
  | creating _ _ | starting _ | requesting _ => cases ht

/-- A session was made, or was not, where there was none. -/
theorem ties_created (hs : s.Tied) (hout : s.entered = false) (hnone : s.session = none)
    {frame : Frame κ} {result : Except Failure SessionId} (ht : s.created result frame = some t) :
    t.Ties result.toOption := by
  cases frame with
  | creating op args =>
      cases result with
      | error f =>
          cases ht
          exact ⟨hnone, hs⟩
      | ok session =>
          cases ht
          refine Ties.logging ?_ _
          simp only [inside, hout, hnone]
          exact ⟨rfl, tied_of_session rfl⟩
  | last | superseding _ _ _ | replacing _ | starting _ | requesting _ | announced | retired _
  | abandoning _ _ => cases ht

theorem ties_answered (hs : s.Tied) {frame : Frame κ} {outcome : Outcome}
    (ht : s.answered outcome frame = some t) : t.Ties s.session := by
  cases frame with
  | starting slot =>
      simp only [answered] at ht
      split at ht
      · cases ht
        have hrefuse := ties_refuse (hs.leave.setSlot slot)
        rw [session_setSlot] at hrefuse
        exact hrefuse _ _
      all_goals
        cases ht
        exact ⟨rfl, hs.leave⟩
  | requesting id =>
      simp only [answered] at ht
      split at ht
      · cases ht
        exact ties_refuse (hs.leave.forget id) _ _
      all_goals
        cases ht
        exact ⟨rfl, hs.leave⟩
  | last | superseding _ _ _ | creating _ _ | replacing _ | announced | retired _
  | abandoning _ _ => cases ht

end Stage

/-! ## Moves of the worker -/

/-- The session that a move leaves. -/
def Move.session (held : Option SessionId) : Move κ → Option SessionId
  | abandon _ => none
  | created result => result.toOption
  | enter _ _ | deliver _ | proceed | answered _ | panic _ => held

/-- The operations in hand that are not being given up. -/
def Frame.claims : Frame κ → List (Operation κ)
  | .abandoning _ _ => []
  | frame => frame.operations

namespace Activity

variable {a a' : Activity κ} {m : Move κ} {traces : List (Trace κ)}

/-- **A stage that may be given up**, while it waits. -/
structure Composed (a : Activity κ) : Prop where
  single : a.Single
  tied : a.stage.Tied
  poised : ∀ l ∈ a.levels, a.stage.Poised l

lemma composed_new (name : String) : ({ stage := .new name } : Activity κ).Composed :=
  ⟨⟨orderly_new name, Nat.zero_le 1⟩, Stage.tied_new name, List.forall_mem_nil _⟩

/-- The operations that the stage has in hand or keeps, apart from those that are being given up. -/
def claims (a : Activity κ) : List (Operation κ) :=
  a.levels.flatMap (·.2.claims) ++ a.stage.pending

/-- While the slot of whatever supersedes is filled again, it is empty. -/
lemma displaced_of_poised {s : Stage κ} {l : Ask κ × Frame κ} (h : s.Poised l) :
    s.displaced l.2 = none := by
  obtain ⟨ask, frame⟩ := l
  cases frame with
  | superseding left aim op => exact displaced_of_still (h.still (by rintro ⟨⟩) (by rintro _ _ ⟨⟩))
  | last | creating _ _ | replacing _ | starting _ | requesting _ | announced | retired _
  | abandoning _ _ => rfl

/-- A session is made only where there is none. -/
lemma Composed.session_of_create (h : a.Composed) {args : ConnectionArgs} {frame : Frame κ}
    (hlevels : a.levels = [(.create args, frame)]) : a.stage.session = none := by
  have hpoised := h.poised _ (mem_of_levels hlevels)
  cases frame <;> first | exact hpoised | exact hpoised.elim

/-- **Nothing is lost** by a move of the worker. -/
lemma Composed.losing_eq_nil (h : a.Composed) (hm : a.Driven m) : a.losing m = [] :=
  h.single.losing_eq_nil hm fun l hl => displaced_of_poised (h.poised l hl)

/-- What a stretch of work of the worker makes of the session and of the state. -/
lemma Composed.turn (h : a.Composed) (hm : a.Driven m) {t : Turn κ} (ht : a.turn? m = some t) :
    t.Ties (m.session a.stage.session) ∧ t.Poised := by
  rcases hm with hm | ⟨rfl, hlevels⟩
  · cases m with
    | enter o op =>
        cases ht
        exact ⟨Stage.ties_run h.tied o, (Stage.still_run o).poised⟩
    | deliver report =>
        cases ht
        exact ⟨Stage.ties_report h.tied report, (Stage.still_report report).poised⟩
    | abandon o => exact hm.elim
    | panic message => cases ht
    | proceed =>
        obtain ⟨l, hl, ht⟩ := Option.bind_eq_some_iff.mp ht
        exact ⟨Stage.ties_proceed h.tied ht,
          Stage.poised_proceed (h.poised l (List.mem_of_head? hl)) ht⟩
    | answered outcome =>
        obtain ⟨l, hl, ht⟩ := Option.bind_eq_some_iff.mp ht
        exact ⟨Stage.ties_answered h.tied ht, (Stage.still_answered ht).poised⟩
    | created result =>
        obtain ⟨⟨ask, frame⟩, hl, ht⟩ := Option.bind_eq_some_iff.mp ht
        have hmem := List.mem_of_head? hl
        obtain ⟨op, args, rfl⟩ : ∃ op args, frame = .creating op args := by
          cases frame <;> first | exact ⟨_, _, rfl⟩ | cases ht
        have hout : a.stage.entered = false := by
          rw [h.single.orderly.cell, hl]
          rfl
        have hstill := (h.poised _ hmem).still (by rintro ⟨⟩) (by rintro _ _ ⟨⟩)
        have hnone : a.stage.session = none := by
          cases ask <;> first | exact hstill | exact hstill.elim
        exact ⟨Stage.ties_created h.tied hout hnone ht, (Stage.still_created hstill ht).poised⟩
  · cases ht
    have hout : a.stage.entered = false := by
      rw [h.single.orderly.cell, hlevels]
      rfl
    exact Stage.parts_abandon hout

lemma stage_settle (t : Turn κ) : (settle [] t).1.stage = t.stage := by
  rw [settle]
  cases t.next with
  | done | ask _ _ => rfl
  | panic message =>
      obtain ⟨⟨name, args, credential, session, connect, disconnect, awaiting, entered⟩, -, -⟩ := t
      cases entered <;> rfl

/-- What the stage waits for when a stretch of work is over. -/
lemma mem_levels_settle {t : Turn κ} {l : Ask κ × Frame κ} :
    l ∈ (settle [] t).1.levels ↔ t.next = .ask l.1 l.2 := by
  rw [settle]
  cases t.next with
  | done | panic message => exact iff_of_false List.not_mem_nil (by rintro ⟨⟩)
  | ask ask frame =>
      obtain ⟨other, next⟩ := l
      simp [eq_comm]

/-- **Every move of the worker** keeps the shape, and leaves the session that it should. -/
theorem Composed.step (h : a.Composed) (hm : a.Driven m)
    (fresh : ∀ op ∈ m.brings, a.stage.awaiting? op.id = none)
    (hs : a.step m = some (a', traces)) :
    a'.Composed ∧ a'.stage.session = m.session a.stage.session := by
  have hsingle := h.single.step hm fresh hs
  rcases h.single.outcome hm hs with ⟨message, session, c, -, rfl, rfl, -⟩ | ⟨t, ht, rfl, -⟩
  · exact ⟨⟨hsingle, fun hnone => { h.tied hnone with }, List.forall_mem_nil _⟩, rfl⟩
  · obtain ⟨hties, hpoised⟩ := h.turn hm ht
    refine ⟨⟨hsingle, ?_, fun l hl => ?_⟩, ?_⟩ <;> rw [stage_settle]
    · exact hties.tied
    · exact hpoised l.1 l.2 (mem_levels_settle.mp hl)
    · exact hties.session

/-- **No move of the worker loses an operation**, or doubles one. -/
theorem Composed.stock_step (h : a.Composed) (hm : a.Driven m)
    (fresh : ∀ op ∈ m.brings, a.stage.awaiting? op.id = none)
    (hs : a.step m = some (a', traces)) :
    stock a'.operations = stock m.brings + stock a.inHand := by
  rw [h.single.operations_eq hm fresh hs,
    ← Activity.stock_step h.single.orderly hm.permits fresh hs, h.losing_eq_nil hm, stock_nil,
    add_zero]

/-! ## What is not being given up -/

lemma stock_claims_le (a : Activity κ) : stock a.claims ≤ stock a.inHand := by
  have hone : ∀ frame : Frame κ, stock frame.claims ≤ stock frame.operations := by
    intro frame
    cases frame with
    | abandoning _ _ => exact Multiset.zero_le _
    | last | superseding _ _ _ | creating _ _ | replacing _ | starting _ | requesting _ | announced
    | retired _ => exact le_refl _
  have hall : ∀ levels : List (Ask κ × Frame κ),
      stock (levels.flatMap (·.2.claims)) ≤ stock (levels.flatMap (·.2.operations)) := by
    intro levels
    induction levels with
    | nil => exact le_refl _
    | cons l rest ih =>
        rw [List.flatMap_cons, List.flatMap_cons, stock_append, stock_append]
        exact add_le_add (hone l.2) ih
  rw [claims, inHand, stock_append, stock_append]
  exact add_le_add (hall a.levels) (le_refl _)

/-- Whoever only gives up claims nothing. -/
lemma claims_settle_of_abandonRest {s : Stage κ} (hs : s.Vacant) (session : Option SessionId)
    (left : List (Operation κ)) (traces : List (Trace κ)) :
    (settle [] ((s.abandonRest session left).after traces)).1.claims = [] := by
  have hpending := hs.pending_eq_nil
  cases left with
  | nil => cases session <;> exact hpending
  | cons op left => exact hpending

lemma Composed.claims_abandon (h : a.Composed) (hlevels : a.levels = [])
    (hs : a.step (.abandon (.on .pipeline)) = some (a', traces)) : a'.claims = [] := by
  have hout : a.stage.entered = false := by
    rw [h.single.orderly.cell, hlevels]
    rfl
  have hinside : ∀ t, a.stage.inside t = t := fun t => if_neg (ne_true_of_eq_false hout)
  have hcheck : (Origin.on .pipeline).check .pipeline = .ok () := rfl
  have hturn : a' = (settle a.levels (a.stage.abandon (.on .pipeline))).1 :=
    congrArg Prod.fst (Option.some.inj hs).symm
  rw [hturn, hlevels]
  simp only [Stage.abandon, hcheck, hinside]
  exact claims_settle_of_abandonRest ⟨rfl, rfl, rfl⟩ _ _ _

/-- **What is not being given up** after a move of the worker was not before, or is brought. -/
theorem Composed.claims_step (h : a.Composed) (hm : a.ByWorker m)
    (fresh : ∀ op ∈ m.brings, a.stage.awaiting? op.id = none)
    (hs : a.step m = some (a', traces)) :
    stock a'.claims ≤ stock m.brings + stock a.claims := by
  by_cases hgiven : ∃ ask left session, a.levels = [(ask, .abandoning left session)]
  · obtain ⟨ask, left, session, hlevels⟩ := hgiven
    have hmem := mem_of_levels hlevels
    have hnone : a.stage.session = none := by
      have hpoised := h.poised _ hmem
      cases ask <;> first | exact hpoised | exact hpoised.elim
    have hnil : a'.claims = [] := by
      cases m with
      | proceed =>
          rw [Activity.step, hlevels] at hs
          have hturn : a' = (settle [] (a.stage.abandonRest session left)).1 :=
            congrArg Prod.fst (Option.some.inj hs).symm
          rw [hturn]
          exact claims_settle_of_abandonRest (h.tied hnone) session left []
      | enter o op => cases hlevels.symm.trans hm.2
      | deliver report => cases hlevels.symm.trans hm
      | abandon o => exact hm.elim
      | created _ | answered _ =>
          rw [Activity.step, hlevels] at hs
          cases hs
      | panic message =>
          obtain ⟨target, c, hc⟩ := hm
          cases (asked?_of_levels hlevels).symm.trans hc
          exact (h.single.orderly.fits _ hmem).elim
    rw [hnil]
    exact Multiset.zero_le _
  · have hsame : a.claims = a.inHand := by
      rw [claims, inHand]
      congr 1
      refine List.flatMap_congr fun l hl => ?_
      obtain ⟨ask, frame⟩ := l
      cases frame with
      | abandoning left session => exact (hgiven ⟨_, _, _, h.single.levels_eq hl⟩).elim
      | last | superseding _ _ _ | creating _ _ | replacing _ | starting _ | requesting _
      | announced | retired _ => rfl
    rw [hsame, ← Activity.stock_step h.single.orderly hm.driven.permits fresh hs, add_assoc]
    exact (stock_claims_le a').trans (Multiset.le_add_right _ _)

end Activity

end DeviceLink
