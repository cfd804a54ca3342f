import DeviceLink.Proofs.Stage.Deeds
import DeviceLink.Proofs.Stage.Parting
import DeviceLink.Proofs.Stage.Watch

/-!
# Who stands where in a stage

A stage keeps operations in three places, and each place is for operations of its own kind.  At
most one of the two slots is filled, since whatever starts on the connection has emptied both
before, and nobody comes back in between to fill one.

* `Stage.Suited`, `Frame.Suited` — everybody stands in a place for its kind.
* `Stage.Exclusive` — one slot at most is filled.
* **`Suited.deed`**, **`Exclusive.deed`** — whatever a stretch of work does keeps both.
* `Activity.Disciplined` — what a stage keeps, whatever comes to it.
* **`disciplined_watch`** — that is so after every run with which nobody comes back.
-/

namespace DeviceLink

variable {κ : Type}

/-! ## Places for operations -/

/-- Everybody stands in a place for its kind, and is as it should be. -/
structure Stage.Suited (clean : Operation κ → Prop) (s : Stage κ) : Prop where
  slots : ∀ slot op, s.slot slot = some op →
    (∃ aim, op.request.aim? = some aim ∧ aim.slot = slot) ∧ clean op
  waiting : ∀ p ∈ s.awaitingAck, p.2.request.kind?.isSome ∧ clean p.2

/-- So does whoever the stage has in hand for one of these places, or for a session. -/
def Frame.Suited (clean : Operation κ → Prop) : Frame κ → Prop
  | superseding _ aim op => op.request.aim? = some aim ∧ clean op
  | creating op _ | replacing op => (∃ args, op.request = .setConnectionArgs args) ∧ clean op
  | last | starting _ | requesting _ | announced | retired _ | abandoning _ _ => True

/-- Whatever the end of a stretch of work hands over leaves such a frame. -/
def Next.Suited (clean : Operation κ → Prop) (n : Next κ) : Prop :=
  ∀ ask f, n = .ask ask f → f.Suited clean

namespace Stage

variable {s t : Stage κ} {clean : Operation κ → Prop} {op : Operation κ} {frame : Option (Frame κ)}
  {m : Move κ} {spilt : List Failure} {n : Next κ} {aim : Aim}

lemma suited_new (name : String) : (new name : Stage κ).Suited clean :=
  ⟨fun slot op h => (by cases slot <;> cases h), List.forall_mem_nil _⟩

lemma Suited.of_eq (h : s.Suited clean) (hslot : ∀ slot, t.slot slot = s.slot slot)
    (hwaiting : t.awaitingAck = s.awaitingAck) : t.Suited clean where
  slots slot op hop := h.slots slot op ((hslot slot).symm.trans hop)
  waiting := hwaiting ▸ h.waiting

lemma Suited.setSlot_none (h : s.Suited clean) (slot : Slot) :
    (s.setSlot slot none).Suited clean := by
  refine ⟨fun other op hop => h.slots other op ?_, ?_⟩
  · cases slot <;> cases other <;> first | exact hop | cases hop
  · cases slot <;> exact h.waiting

lemma Suited.setSlot_some (h : s.Suited clean) (hr : op.request.aim? = some aim) (hop : clean op) :
    (s.setSlot aim.slot (some op)).Suited clean := by
  refine ⟨fun other held hheld => ?_, by cases aim <;> exact h.waiting⟩
  have hcases : other = aim.slot ∧ held = op ∨ s.slot other = some held := by
    cases aim <;> cases other <;>
      first | exact .inr hheld | exact .inl ⟨rfl, (Option.some.inj hheld).symm⟩
  rcases hcases with ⟨rfl, rfl⟩ | hheld
  · exact ⟨⟨aim, hr, rfl⟩, hop⟩
  · exact h.slots other held hheld

lemma Suited.forget (h : s.Suited clean) (id : Nat) : (s.forget id).Suited clean :=
  ⟨fun slot op hop => h.slots slot op (by cases slot <;> exact hop),
    fun p hp => h.waiting p (List.mem_of_mem_filter hp)⟩

lemma Suited.await (h : s.Suited clean) (hk : op.request.kind?.isSome) (hop : clean op) :
    (s.await op).Suited clean := by
  refine ⟨fun slot held hheld => h.slots slot held (by cases slot <;> exact hheld), ?_⟩
  intro p hp
  rcases List.mem_append.mp hp with hp | hp
  · exact (h.forget op.id).waiting p hp
  · cases List.mem_singleton.mp hp
    exact ⟨hk, hop⟩

lemma Suited.cleared (h : s.Suited clean) : s.cleared.Suited clean :=
  ⟨fun slot op hop => (by cases slot <;> cases hop), h.waiting⟩

lemma suited_emptied (s : Stage κ) : s.emptied.Suited clean :=
  ⟨fun slot op hop => (by cases slot <;> cases hop), List.forall_mem_nil _⟩

lemma Suited.connect (h : s.Suited clean) (hop : s.activeConnect = some op) :
    op.request = .connect ∨ op.request = .reconnect := by
  obtain ⟨⟨aim, haim, hslot⟩, -⟩ := h.slots .connect op hop
  cases hr : op.request <;> rw [hr] at haim <;> cases haim <;>
    first | exact .inl rfl | exact .inr rfl | cases hslot

lemma Suited.disconnect (h : s.Suited clean) (hop : s.activeDisconnect = some op) :
    op.request = .disconnect := by
  obtain ⟨⟨aim, haim, hslot⟩, -⟩ := h.slots .disconnect op hop
  cases hr : op.request <;> rw [hr] at haim <;> cases haim <;> first | rfl | cases hslot

/-- Only the places count. -/
lemma Suited.enter (h : s.Suited clean) (entered : Bool) :
    ({ s with entered } : Stage κ).Suited clean :=
  h.of_eq (fun slot => by cases slot <;> rfl) rfl

lemma suited_ending (op : Operation κ) : (Next.ending op).Suited clean := by
  rintro ask f ⟨⟩
  trivial

lemma suited_done : (Next.done : Next κ).Suited clean := by rintro ask f ⟨⟩

lemma Suited.starts (h : s.Suited clean) (hr : op.request.aim? = some aim) (hop : clean op)
    (hs : s.Starts aim op t n) : t.Suited clean ∧ n.Suited clean := by
  cases hs with
  | barred text => exact ⟨h, by rintro ask f ⟨⟩⟩
  | refused hnone => exact ⟨h.setSlot_none _, suited_ending _⟩
  | called hsome =>
      refine ⟨(h.setSlot_some hr hop).enter true, ?_⟩
      rintro ask f ⟨⟩
      trivial

lemma Suited.supersedes (h : s.Suited clean) (hr : op.request.aim? = some aim) (hop : clean op)
    {left : List (Operation κ)} (hs : s.Supersedes aim op left t n) :
    t.Suited clean ∧ n.Suited clean := by
  cases hs with
  | last hs => exact h.starts hr hop hs
  | next =>
      refine ⟨h, ?_⟩
      rintro ask f ⟨⟩
      exact ⟨hr, hop⟩

lemma Abandons.suited {session : Option SessionId} {left : List (Operation κ)}
    (h : Abandons session left n) : n.Suited clean := by
  cases h <;> rintro ask f ⟨⟩ <;> trivial

/-- **Whatever a stretch of work does**, everybody stands in a place for its kind then. -/
theorem Suited.deed (h : s.Suited clean) (hframe : ∀ f, frame = some f → f.Suited clean)
    (hbrings : ∀ op ∈ m.brings, clean op) (hd : s.Deed frame m t spilt n) :
    t.Suited clean ∧ n.Suited clean := by
  cases hd with
  | barred text => exact ⟨h, by rintro ask f ⟨⟩⟩
  | rejects hr | refuses hk hnone => exact ⟨h, suited_ending _⟩
  | wants hr hnone =>
      refine ⟨h, ?_⟩
      rintro ask f ⟨⟩
      exact ⟨⟨_, hr⟩, hbrings _ List.mem_cons_self⟩
  | keeps hr => exact ⟨h.of_eq (fun slot => by cases slot <;> rfl) rfl, suited_ending _⟩
  | turns hr hs => exact h.cleared.supersedes hr (hbrings _ List.mem_cons_self) hs
  | asks hk hc hsome =>
      have hkind := Option.isSome_of_eq_some hk
      refine ⟨(h.await hkind (hbrings _ List.mem_cons_self)).enter true, ?_⟩
      rintro ask f ⟨⟩
      trivial
  | passes | rises | falls | hears =>
      refine ⟨h, ?_⟩
      rintro ask f ⟨⟩
      trivial
  | fails hop => exact ⟨h.setSlot_none .connect, suited_ending _⟩
  | announces here hop => exact ⟨h.setSlot_none .connect, suited_ending _⟩
  | retires here hop => exact ⟨h.setSlot_none .disconnect, suited_ending _⟩
  | acknowledges hop => exact ⟨h.forget _, suited_ending _⟩
  | failsAlone _ | acknowledgesNobody _ | ends _ | announcesAlone _ _ | retiresAlone _ _ =>
      exact ⟨h, suited_done⟩
  | givesUp ha => exact ⟨suited_emptied s, ha.suited⟩
  | abandons here ha => exact ⟨h, ha.suited⟩
  | supersedes here hs =>
      obtain ⟨hr, hop⟩ := hframe _ here
      exact h.supersedes hr hop hs
  | replaces here => exact ⟨h.enter false, suited_ending _⟩
  | unmade here => exact ⟨h, suited_ending _⟩
  | made here hnone => exact ⟨h.of_eq (fun slot => by cases slot <;> rfl) rfl, suited_ending _⟩
  | remade here hsome =>
      refine ⟨h.of_eq (fun slot => by cases slot <;> rfl) rfl, ?_⟩
      rintro ask f ⟨⟩
      obtain ⟨hr, hop⟩ := hframe _ here
      exact ⟨hr, hop⟩
  | accepts _ | unstartedNobody _ _ | unaskedNobody _ _ => exact ⟨h.enter false, suited_done⟩
  | unstarted here hop => exact ⟨(h.enter false).setSlot_none _, suited_ending _⟩
  | unasked here hop => exact ⟨(h.enter false).forget _, suited_ending _⟩

/-! ## One slot at most -/

/-- One slot at most is filled. -/
def Exclusive (s : Stage κ) : Prop := s.activeConnect = none ∨ s.activeDisconnect = none

lemma exclusive_setSlot_none (s : Stage κ) (slot : Slot) : (s.setSlot slot none).Exclusive := by
  cases slot with
  | connect => exact .inl rfl
  | disconnect => exact .inr rfl

/-- Whatever starts where both slots are empty fills one of them. -/
lemma exclusive_supersedes (hc : s.activeConnect = none) (hd : s.activeDisconnect = none)
    {left : List (Operation κ)} (hs : s.Supersedes aim op left t n) : t.Exclusive := by
  cases hs with
  | next => exact .inl hc
  | last hs =>
      cases hs with
      | barred text => exact .inl hc
      | refused hnone => exact exclusive_setSlot_none s _
      | called hsome =>
          cases aim with
          | connect | reconnect => exact .inr hd
          | disconnect => exact .inl hc

/-- **Whatever a stretch of work does**, one slot at most is filled then, if both are empty while
something is superseded. -/
theorem Exclusive.deed (h : s.Exclusive)
    (hframe : ∀ left aim op, frame = some (.superseding left aim op) →
      s.activeConnect = none ∧ s.activeDisconnect = none)
    (hd : s.Deed frame m t spilt n) : t.Exclusive := by
  cases hd with
  | turns hr hs => exact exclusive_supersedes rfl rfl hs
  | supersedes here hs =>
      obtain ⟨hconnect, hdisconnect⟩ := hframe _ _ _ here
      exact exclusive_supersedes hconnect hdisconnect hs
  | fails hop => exact exclusive_setSlot_none s .connect
  | announces here hop => exact exclusive_setSlot_none s .connect
  | retires here hop => exact exclusive_setSlot_none s .disconnect
  | unstarted here hop => exact exclusive_setSlot_none s.left _
  | givesUp ha => exact .inl rfl
  | barred _ | rejects _ | wants _ _ | keeps _ | refuses _ _ | asks _ _ _ | passes | rises | falls
  | hears | failsAlone _ | acknowledges _ | acknowledgesNobody _ | ends _ | replaces _
  | announcesAlone _ _ | retiresAlone _ _ | abandons _ _ | unmade _ | made _ _ | remade _ _
  | accepts _ | unstartedNobody _ _ | unasked _ _ | unaskedNobody _ _ => exact h

/-- A session that can not be made changes nothing. -/
lemma stage_eq_of_unmade {f : Failure} (hd : s.Deed frame (.created (.error f)) t spilt n) :
    t = s := by
  cases hd <;> rfl

end Stage

namespace Activity

variable {a a' : Activity κ} {m : Move κ} {traces : List (Trace κ)}

/-! ## A stage at work -/

/-- Everybody stands in a place for its kind, and so does whoever the stage has in hand. -/
structure Sited (clean : Operation κ → Prop) (a : Activity κ) : Prop where
  stage : a.stage.Suited clean
  frames : ∀ l ∈ a.levels, l.2.Suited clean

variable {clean : Operation κ → Prop}

lemma sited_new (name : String) : ({ stage := .new name } : Activity κ).Sited clean :=
  ⟨Stage.suited_new name, List.forall_mem_nil _⟩

lemma mem_levels_of_frame? {f : Frame κ} (h : a.frame? = some f) : ∃ ask, (ask, f) ∈ a.levels := by
  obtain ⟨⟨ask, other⟩, hl, he⟩ := Option.map_eq_some_iff.mp h
  cases (he : other = f)
  exact ⟨ask, List.mem_of_head? hl⟩

lemma Sited.frame (h : a.Sited clean) : ∀ f, a.frame? = some f → f.Suited clean := by
  intro f hf
  obtain ⟨ask, hl⟩ := mem_levels_of_frame? hf
  exact h.frames _ hl

lemma Sited.unwound (h : a.Sited clean) (message : String) (levels : List (Ask κ × Frame κ)) :
    (unwind a.stage message levels).1.Sited clean :=
  ⟨h.stage.enter _, List.forall_mem_nil _⟩

/-- **After every stretch of work** with nothing beneath it, everybody stands in a place for its
kind. -/
theorem Sited.turn (h : a.Sited clean) (hbrings : ∀ op ∈ m.brings, clean op) {t : Turn κ}
    (ht : a.turn? m = some t) : (settle [] t).1.Sited clean := by
  obtain ⟨hstage, hnext⟩ := h.stage.deed h.frame hbrings (does_turn ht).deed
  refine ⟨?_, fun l hl => hnext l.1 l.2 (mem_levels_settle.mp hl)⟩
  rw [stage_settle]
  exact hstage

/-- So it is after every move of the worker. -/
lemma Lone.sited_step (h : a.Lone) (hsited : a.Sited clean) (hm : a.ByWorker m)
    (hbrings : ∀ op ∈ m.brings, clean op) (hs : a.step m = some (a', traces)) :
    a'.Sited clean := by
  rcases h.outcome hm hs with ⟨message, session, c, -, -, rfl, -⟩ | ⟨t, ht, rfl, -⟩
  · exact hsited.unwound message _
  · exact hsited.turn hbrings ht

/-! ## Everything that a stage keeps -/

/-- An operation that no failure has been recorded for. -/
def Unharmed (op : Operation κ) : Prop := op.error = none

/-- **The discipline of a stage.** -/
structure Disciplined (a : Activity κ) : Prop where
  /-- One slot at most is filled. -/
  exclusive : a.stage.activeConnect = none ∨ a.stage.activeDisconnect = none
  connect : ∀ op, a.stage.activeConnect = some op →
    (op.request = .connect ∨ op.request = .reconnect) ∧ op.error = none
  disconnect : ∀ op, a.stage.activeDisconnect = some op →
    op.request = .disconnect ∧ op.error = none
  awaiting : ∀ id op, (id, op) ∈ a.stage.awaitingAck →
    id = op.id ∧ op.request.kind?.isSome ∧ op.error = none
  vacant : a.stage.session = none → a.stage.Vacant
  /-- A session is wanted only where there is none. -/
  creates : ∀ args, a.asked? = some (.create args) → a.stage.session = none
  /-- If it can not be made, the state stays as it is. -/
  unmade : ∀ f next traces, a.step (.created (.error f)) = some (next, traces) →
    next.stage = a.stage

/-- What moves with which nobody comes back preserve. -/
structure Regular (a : Activity κ) : Prop where
  composed : a.Composed
  sited : a.Sited Unharmed
  exclusive : a.stage.Exclusive

lemma regular_new (name : String) : ({ stage := .new name } : Activity κ).Regular :=
  ⟨composed_new name, sited_new name, .inl rfl⟩

lemma Composed.unwound (h : a.Composed) (message : String) :
    (unwind a.stage message a.levels).1.Composed where
  single := ⟨h.single.orderly.step (m := .panic message) trivial (List.forall_mem_nil _) rfl,
    Nat.zero_le 1⟩
  tied := fun hnone => { h.tied hnone with }
  poised := List.forall_mem_nil _

/-- **Every move with which nobody comes back** keeps the discipline. -/
theorem Regular.comes (h : a.Regular) (fresh : ∀ op ∈ m.brings, a.stage.awaiting? op.id = none)
    (hclean : ∀ op ∈ m.brings, Unharmed op) (hm : a.comes m = some (a', traces)) :
    a'.Regular := by
  rcases comes_cases h.composed.single.alone hm with
    ⟨message, rfl, -⟩ | ⟨hdriven, t, ht, rfl, -⟩
  · exact ⟨h.composed.unwound message, h.sited.unwound message _, h.exclusive⟩
  · have hcomposed := (h.composed.step hdriven fresh (step_of_comes hm).2).1
    have hempty : ∀ left aim op, a.frame? = some (.superseding left aim op) →
        a.stage.activeConnect = none ∧ a.stage.activeDisconnect = none := by
      intro left aim op hf
      obtain ⟨ask, hl⟩ := mem_levels_of_frame? hf
      have hpoised := h.composed.poised _ hl
      cases ask <;> first | exact hpoised | exact hpoised.elim
    refine ⟨hcomposed, h.sited.turn hclean ht, ?_⟩
    rw [stage_settle]
    exact h.exclusive.deed hempty (does_turn ht).deed

lemma Regular.disciplined (h : a.Regular) : a.Disciplined where
  exclusive := h.exclusive
  connect op hop := ⟨h.sited.stage.connect hop, (h.sited.stage.slots .connect op hop).2⟩
  disconnect op hop := ⟨h.sited.stage.disconnect hop, (h.sited.stage.slots .disconnect op hop).2⟩
  awaiting := fun id op hop =>
    ⟨h.composed.single.orderly.filed.own _ hop, h.sited.stage.waiting _ hop⟩
  vacant := h.composed.tied
  creates := by
    intro args hask
    obtain ⟨frame, hlevels⟩ := h.composed.single.levels_of_asked? hask
    exact h.composed.session_of_create hlevels
  unmade := by
    intro f next traces hs
    rcases step_cases hs with ⟨message, hm, -⟩ | ⟨t, ht, hr⟩
    · cases hm
    · have hnext : next = (settle (a.beneath (.created (.error f))) t).1 := congrArg Prod.fst hr
      have hbeneath := h.composed.single.beneath_eq_nil (m := .created (.error f)) (.inl trivial)
      rw [hnext, hbeneath, stage_settle]
      exact Stage.stage_eq_of_unmade (does_turn ht).deed

/-- What the stage has in hand after a move was in hand before, or is brought. -/
lemma Regular.stock_comes (h : a.Regular) (fresh : ∀ op ∈ m.brings, a.stage.awaiting? op.id = none)
    (hm : a.comes m = some (a', traces)) :
    ∃ gone, stock a'.inHand + gone = stock m.brings + stock a.inHand := by
  rcases comes_cases h.composed.single.alone hm with ⟨message, rfl, -⟩ | ⟨hdriven, -⟩
  · refine ⟨stock m.brings + stock (a.levels.flatMap (·.2.operations)), ?_⟩
    have hleft : (unwind a.stage message a.levels).1.inHand = a.stage.pending := rfl
    rw [hleft, inHand, stock_append]
    abel
  · have hstock := Activity.stock_step h.composed.single.orderly hdriven.permits fresh
      (step_of_comes hm).2
    exact ⟨_, by rw [← hstock, add_assoc]⟩

lemma Regular.watch (h : a.Regular) {g : List (Entry κ)} {moves : List (Move κ)}
    (hclean : ∀ op ∈ brought moves, op.error = none)
    (hn : ((brought moves ++ a.inHand).map Operation.id).Nodup) :
    (Activity.watch (a, g) moves).1.Regular := by
  induction moves generalizing a g with
  | nil => exact h
  | cons m rest ih =>
      rw [brought, List.flatMap_cons] at hclean hn
      have hrest : ∀ op ∈ brought rest, op.error = none :=
        fun op hop => hclean op (List.mem_append_right _ hop)
      have hfresh := awaiting?_of_nodup h.composed.single.orderly hn
      rw [Activity.watch]
      cases hm : a.comes m with
      | none =>
          -- what a move would have brought that is passed over is not missed
          rw [runWith_cons_of_none hm]
          refine ih h hrest ?_
          rw [List.append_assoc, List.map_append] at hn
          exact (List.nodup_append.mp hn).2.1
      | some r =>
          have hnext := h.comes hfresh (fun op hop => hclean op (List.mem_append_left _ hop)) hm
          obtain ⟨gone, hgone⟩ := h.stock_comes hfresh hm
          rw [runWith_cons_of_some hm]
          exact ih hnext hrest (nodup_of_step hgone hn)

/-- **The discipline of a stage**, whatever operations, reports and answers come to it and in
whatever order, as long as nobody comes back into it: each operation has a number of its own and
comes without a failure. -/
theorem disciplined_watch (name : String) {moves : List (Move κ)}
    (hclean : ∀ op ∈ brought moves, op.error = none)
    (hn : ((brought moves).map Operation.id).Nodup) :
    (watch ({ stage := .new name }, []) moves).1.Disciplined := by
  have hnew : ({ stage := .new name } : Activity κ).inHand = [] := rfl
  exact ((regular_new name).watch hclean (by rwa [hnew, List.append_nil])).disciplined

/-- A connection is superseded by the order to end it, while a message waits to be acknowledged. -/
def supersededConnect : List (Move Unit) :=
  [.enter (.on .pipeline) ⟨1, .setConnectionArgs ⟨"hub", "device", "id", none⟩, none, none⟩,
    .created (.ok 0), .proceed,
    .enter (.on .pipeline) ⟨2, .publish "t" [], none, none⟩, .answered (.ok ()),
    .enter (.on .pipeline) ⟨3, .connect, none, none⟩, .answered (.ok ()),
    .enter (.on .pipeline) ⟨4, .disconnect, none, none⟩, .proceed, .answered (.ok ())]

/-- The order to end the connection is alone in the slots then. -/
theorem supersededConnect_disciplined :
    let a := (watch ({ stage := .new "mqtt" }, []) supersededConnect).1
    a.stage.activeDisconnect = some ⟨4, .disconnect, none, none⟩ ∧
      a.stage.awaitingAck = [(2, ⟨2, .publish "t" [], none, none⟩)] ∧ a.Disciplined :=
  ⟨by decide, by decide, disciplined_watch "mqtt" (by decide) (by decide)⟩

end Activity

end DeviceLink
