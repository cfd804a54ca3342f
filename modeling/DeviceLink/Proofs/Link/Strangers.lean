import DeviceLink.Proofs.Link.Wiring
import DeviceLink.Proofs.Stage.Deeds
import DeviceLink.Proofs.Stage.Parting
import DeviceLink.Proofs.Transport.Audience

/-!
# Operations that nobody has met

Until the pipeline's worker takes an operation from its queue, its number is known to nobody, and
what the link does then is nothing to it.

* `Endings`, `Endings.note` — the record of a run: who was completed, and of whom an acknowledgement
  was reported.
* `Link.Unmet` — neither the stage nor any session knows a number.
* **`Unmet.does`** — that stays so, as long as the worker does not take the operation.
* **`patient_attend`** — whoever waits for the worker, or has not come yet, is unmet.
-/

namespace DeviceLink

open Transport Dispatch

variable {κ : Type}

/-! ## The stage -/

/-- The operation for which a session is called. -/
def Next.ackId? : Next κ → Option Nat
  | .ask (.call _ c) _ => c.ackId?
  | .ask (.chain _) _ | .ask (.create _) _ | .ask (.release _) _ | .done | .panic _ => none

/-- A session is called for an operation only when that arrives. -/
lemma Stage.ackId?_of_deed {s t : Stage κ} {frame : Option (Frame κ)} {m : Move κ}
    {spilt : List Failure} {n : Next κ} (h : s.Deed frame m t spilt n) {id : Nat}
    (hid : n.ackId? = some id) : ∃ op ∈ m.brings, op.id = id := by
  have hstarts : ∀ {s t : Stage κ} {aim op n}, s.Starts aim op t n → n.ackId? = none := by
    rintro s t aim op n (_ | _ | _)
    · rfl
    · rfl
    · cases aim <;> rfl
  have hsupersedes : ∀ {s t : Stage κ} {aim op left n}, s.Supersedes aim op left t n →
      n.ackId? = none := by
    rintro s t aim op left n (h | _)
    · exact hstarts h
    · rfl
  have habandons : ∀ {session : Option SessionId} {left : List (Operation κ)} {n},
      Stage.Abandons session left n → n.ackId? = none := by
    rintro session left n (_ | _ | _) <;> rfl
  cases h with
  | @asks o op kind c session hk hc hsome =>
      have hack : c.ackId? = some op.id := by cases c <;> cases hc <;> rfl
      cases hack.symm.trans hid
      exact ⟨op, List.mem_singleton_self op, rfl⟩
  | turns hr h => cases (hsupersedes h).symm.trans hid
  | supersedes here h => cases (hsupersedes h).symm.trans hid
  | givesUp h => cases (habandons h).symm.trans hid
  | abandons here h => cases (habandons h).symm.trans hid
  | barred | rejects | wants | keeps | refuses | passes | rises | falls | hears | fails | failsAlone
  | acknowledges | acknowledgesNobody | ends | replaces | announces | announcesAlone | retires
  | retiresAlone | unmade | made | remade | accepts | unstarted | unstartedNobody | unasked
  | unaskedNobody => cases hid

namespace Activity

variable {a a' : Activity κ} {m : Move κ} {traces : List (Trace κ)}

/-- After a move of the worker a session is called only for an operation that the move brings. -/
lemma Single.ackId?_step (h : a.Single) (hm : a.Driven m) (hs : a.step m = some (a', traces))
    {s : SessionId} {c : SessionCall} (hasked : a'.asked? = some (.call s c)) {id : Nat}
    (hid : c.ackId? = some id) : ∃ op ∈ m.brings, op.id = id := by
  rcases h.outcome hm hs with ⟨message, _, _, -, -, rfl, -⟩ | ⟨t, ht, rfl, -⟩
  · cases hasked
  · obtain ⟨⟨ask, frame⟩, hhead, rfl⟩ := Option.map_eq_some_iff.mp hasked
    have hn := mem_levels_settle.mp (List.mem_of_head? hhead)
    exact Stage.ackId?_of_deed (does_turn ht).deed (by rw [hn]; exact hid)

/-- After a move of the worker the stage knows no operation that it did not know before, but for
those that the move brings. -/
lemma Single.known_step (h : a.Single) (hm : a.Driven m)
    (fresh : ∀ op ∈ m.brings, a.stage.awaiting? op.id = none)
    (hs : a.step m = some (a', traces)) {op : Operation κ} (hop : op ∈ a'.operations) :
    ∃ other ∈ m.brings ++ a.operations, other.id = op.id := by
  have hle : stock a'.operations ≤ stock (m.brings ++ a.inHand) := by
    rw [h.operations_eq hm fresh hs, stock_append,
      ← Activity.stock_step h.orderly hm.permits fresh hs]
    exact Multiset.le_add_right _ _
  obtain ⟨other, hother, hid⟩ := Link.exists_id_of_stock_le hle hop
  refine ⟨other, ?_, hid⟩
  rcases List.mem_append.mp hother with hother | hother
  · exact List.mem_append_left _ hother
  · refine List.mem_append_right _ ?_
    rcases List.mem_append.mp hother with hother | hother
    · obtain ⟨l, hl, hother⟩ := List.mem_flatMap.mp hother
      exact List.mem_append_left _ (List.mem_flatMap.mpr ⟨l, hl, List.mem_append_right _ hother⟩)
    · exact List.mem_append_right _ hother

end Activity

/-! ## The record -/

/-- Somebody else has a turn, and not the pipeline's worker. -/
def Incident.byOthers {ε : Type} : Incident κ ε → Bool
  | .happening .work => false
  | .happening (.submit _ _ _) | .happening (.stir _) | .happening .beginUser
  | .happening (.endUser _) | .happening (.handle _) | .shutdown _ _ => true

/-- The record of a run. -/
structure Endings (κ : Type) where
  /-- The operations that the stage has handed to the chain because they were over, each time. -/
  completed : List (Operation κ) := []
  /-- The operations of which an acknowledgement was reported, each time. -/
  told : List Nat := []

namespace Endings

/-- How often an operation was completed, and with what. -/
def ofId (g : Endings κ) (id : Nat) : List (Operation κ) := g.completed.filter (·.id = id)

def hear (g : Endings κ) (reports : List Report) : Endings κ :=
  { g with told := g.told ++ answeredIds reports }

def complete (g : Endings κ) (op : Option (Operation κ)) : Endings κ :=
  { g with completed := g.completed ++ op.toList }

/-- What is reported in a step of the pipeline's worker. -/
def reportsOf (l : Link κ Transports) : List Report :=
  match l.activity.asked? with
  | some (.call s c) => (l.world.step s c).2.1
  | some (.release s) => (l.world.release s).1
  | some (.chain _) | some (.create _) | none => []

/-- The operation that is over. -/
def over? (l : Link κ Transports) : Option (Operation κ) :=
  match l.activity.asked? with
  | some (.chain (.complete op)) => some op
  | _ => none

/-- What the observer writes down when something happens. -/
def note : Incident κ Stirring → Link κ Transports → Link κ Transports → Endings κ → Endings κ
  | .happening .work, before, after, g => (g.hear (reportsOf before)).complete (over? after)
  | .happening (.stir e), before, _, g => g.hear (((before.world.stir e).map Prod.fst).getD [])
  | .happening (.submit _ _ _), _, _, g | .happening .beginUser, _, _, g
  | .happening (.endUser _), _, _, g | .happening (.handle _), _, _, g
  | .shutdown _ _, _, _, g => g

lemma hear_nil (g : Endings κ) : g.hear [] = g := by
  rw [hear, answeredIds, List.filterMap_nil, List.append_nil]

lemma complete_none (g : Endings κ) : g.complete none = g := by
  rw [complete, Option.toList_none, List.append_nil]

lemma ofId_complete_self (g : Endings κ) (op : Operation κ) :
    (g.complete (some op)).ofId op.id = g.ofId op.id ++ [op] := by
  simp [ofId, complete]

lemma ofId_complete {g : Endings κ} {op : Option (Operation κ)} {id : Nat}
    (h : ∀ x ∈ op, x.id ≠ id) : (g.complete op).ofId id = g.ofId id := by
  rw [ofId, complete, List.filter_append]
  cases op with
  | none => exact List.append_nil _
  | some x => simp [ofId, h x rfl]

end Endings

namespace Link

variable {l l' : Link κ Transports} {g : Endings κ} {id : Nat}

/-! ## Runs -/

lemma attend_append {ω ε γ : Type} (W : World ω ε)
    (note : Incident κ ε → Link κ ω → Link κ ω → γ → γ) (p : Link κ ω × γ)
    (incidents more : List (Incident κ ε)) :
    attend W note p (incidents ++ more) = attend W note (attend W note p incidents) more := by
  rw [attend, runWith_append]

/-- A run of one incident that happens. -/
lemma attend_one {ω ε γ : Type} {W : World ω ε}
    {note : Incident κ ε → Link κ ω → Link κ ω → γ → γ} {l l' : Link κ ω} {i : Incident κ ε}
    (hs : l.does W i = some l') (g : γ) : attend W note (l, g) [i] = (l', note i l l' g) :=
  runWith_cons_of_some hs g []

/-- A run of one incident that does not happen. -/
lemma attend_none {ω ε γ : Type} {W : World ω ε}
    {note : Incident κ ε → Link κ ω → Link κ ω → γ → γ} {l : Link κ ω} {i : Incident κ ε}
    (hs : l.does W i = none) (g : γ) : attend W note (l, g) [i] = (l, g) :=
  runWith_cons_of_none hs g []

/-! ## Operations that nobody has met -/

/-- **Neither the stage nor any session knows a number**, and nothing was reported of it. -/
structure Unmet (l : Link κ Transports) (g : Endings κ) (id : Nat) : Prop where
  held : ∀ op ∈ l.activity.operations, op.id ≠ id
  called : ∀ s c, l.activity.asked? = some (.call s c) → c.ackId? ≠ some id
  strange : l.world.Strange id
  told : id ∉ g.told

/-- Nothing is done by the stage, and nothing is reported of the number. -/
lemma Unmet.of_same (h : l.Unmet g id) (l' : Link κ Transports) (ha : l'.activity = l.activity)
    {reports : List Report} (hreports : id ∉ answeredIds reports)
    (hstrange : l'.world.Strange id) : l'.Unmet (g.hear reports) id where
  held := ha ▸ h.held
  called := ha ▸ h.called
  strange := hstrange
  told hmem := (List.mem_append.mp hmem).elim h.told hreports

/-- The stage makes a move that brings nothing under that number. -/
lemma Unmet.move (h : l.Unmet g id) (hsound : l.Sound) {m : Move κ} {a : Activity κ}
    {traces : List (Trace κ)} (hm : l.activity.Driven m) (hs : l.activity.step m = some (a, traces))
    (ha : l'.activity = a) (fresh : ∀ op ∈ m.brings, l.activity.stage.awaiting? op.id = none)
    (hbrings : ∀ op ∈ m.brings, op.id ≠ id) {reports : List Report}
    (hreports : id ∉ answeredIds reports) (hstrange : l'.world.Strange id) :
    l'.Unmet (g.hear reports) id where
  held op hop he := by
    rw [ha] at hop
    obtain ⟨other, hother, hid⟩ := hsound.single.known_step hm fresh hs hop
    rcases List.mem_append.mp hother with hother | hother
    · exact hbrings other hother (hid.trans he)
    · exact h.held other hother (hid.trans he)
  called s c hasked hid := by
    rw [ha] at hasked
    obtain ⟨op, hop, he⟩ := hsound.single.ackId?_step hm hs hasked hid
    exact hbrings op hop he
  strange := hstrange
  told hmem := (List.mem_append.mp hmem).elim h.told hreports

/-- Whatever is over is with the stage. -/
lemma ne_of_over? (h : ∀ op ∈ l.activity.operations, op.id ≠ id) :
    ∀ op ∈ Endings.over? l, op.id ≠ id := by
  intro op hop
  refine h op (List.mem_append_left _ ?_)
  rw [Endings.over?] at hop
  split at hop
  · next other hasked =>
      obtain ⟨⟨ask, frame⟩, hhead, rfl⟩ := Option.map_eq_some_iff.mp hasked
      cases hop
      exact List.mem_flatMap.mpr ⟨_, List.mem_of_head? hhead, List.mem_append_left _
        (List.mem_singleton_self op)⟩
  · cases hop

/-- The worker does one thing, and nobody is completed under that number. -/
lemma Unmet.complete (h : l'.Unmet (g.hear (Endings.reportsOf l)) id) :
    l'.Unmet (Endings.note (.happening .work) l l' g) id ∧
      (Endings.note (.happening .work) l l' g).ofId id = g.ofId id :=
  ⟨⟨h.held, h.called, h.strange, h.told⟩, Endings.ofId_complete (ne_of_over? h.held)⟩

/-- **The pipeline's worker does not meet an operation** that it does not take. -/
theorem Unmet.tasks (h : l.Unmet g id) (hsound : l.Sound) (ht : Tasks Transports.model l l')
    (hleft : (∃ op ∈ l.queued, op.id = id) → ∃ op ∈ l'.queued, op.id = id) :
    l'.Unmet (Endings.note (.happening .work) l l' g) id ∧
      (Endings.note (.happening .work) l l' g).ofId id = g.ofId id := by
  have hnone : id ∉ answeredIds [] := List.not_mem_nil
  refine Unmet.complete ?_
  cases ht with
  | chain hlevels hstep log sink =>
      have hreports : Endings.reportsOf l = [] := by
        rw [Endings.reportsOf, Activity.asked?_of_levels hlevels]
      rw [hreports]
      exact h.move hsound (m := .proceed) (.inl trivial) hstep rfl (List.forall_mem_nil _)
        (List.forall_mem_nil _) hnone h.strange
  | create hlevels hstep log sink =>
      have hreports : Endings.reportsOf l = [] := by
        rw [Endings.reportsOf, Activity.asked?_of_levels hlevels]
      rw [hreports]
      exact h.move hsound (m := .created _) (.inl trivial) hstep rfl (List.forall_mem_nil _)
        (List.forall_mem_nil _) hnone (h.strange.create _)
  | @call session c frame reports world hlevels hcall =>
      have hasked := Activity.asked?_of_levels hlevels
      have hreports : Endings.reportsOf l = reports := by
        rw [Endings.reportsOf, hasked]
        exact congrArg (·.2.1) hcall
      obtain ⟨hstrange, hquiet⟩ :=
        h.strange.step (Transports.steps_of_step hcall) (h.called _ _ hasked)
      rw [hreports]
      refine h.of_same _ ?_ hquiet hstrange
      rfl
  | @answer session c frame answer reports world a traces hlevels hcall hstep log sink =>
      have hasked := Activity.asked?_of_levels hlevels
      have hreports : Endings.reportsOf l = reports := by
        rw [Endings.reportsOf, hasked]
        exact congrArg (·.2.1) hcall
      have hbrings : (ended answer : Move κ).brings = [] := brings_ended answer
      obtain ⟨hstrange, hquiet⟩ :=
        h.strange.step (Transports.steps_of_step hcall) (h.called _ _ hasked)
      rw [hreports]
      exact h.move hsound (byWorker_ended answer hlevels).driven hstep rfl
        (hbrings ▸ List.forall_mem_nil _) (hbrings ▸ List.forall_mem_nil _) hquiet hstrange
  | @release session frame a traces hlevels hstep log sink =>
      have hreports : Endings.reportsOf l = (l.world.release session).1 := by
        rw [Endings.reportsOf, Activity.asked?_of_levels hlevels]
      obtain ⟨hstrange, hquiet⟩ := h.strange.release session
      rw [hreports]
      exact h.move hsound (m := .proceed) (.inl trivial) hstep rfl (List.forall_mem_nil _)
        (List.forall_mem_nil _) hquiet hstrange
  | @job job rest a traces hlevels hphase hqueue hstep log sink =>
      have hreports : Endings.reportsOf l = [] := by
        rw [Endings.reportsOf, Activity.asked?_of_nil hlevels]
      rw [hreports]
      refine h.move hsound (driven_start hlevels job) hstep rfl (hsound.fresh_start hqueue) ?_
        hnone h.strange
      intro op hop he
      -- the operation would wait no longer
      have hqueued := queued_of_job hqueue
      have hwaits : op ∈ l.queued := by
        rw [hqueued]
        exact List.mem_append_left _ hop
      obtain ⟨other, hother, hid⟩ := hleft ⟨op, hwaits, he⟩
      have hdistinct : (l.queued.map Operation.id).Nodup :=
        ((List.sublist_append_left _ _).map _).nodup hsound.distinct
      rw [hqueued, List.map_append] at hdistinct
      exact (List.nodup_append.mp hdistinct).2.2 op.id (List.mem_map_of_mem hop) other.id
        (List.mem_map_of_mem hother) (he.trans hid.symm)
  | leave hlevels hleaves log =>
      have hreports : Endings.reportsOf l = [] := by
        rw [Endings.reportsOf, Activity.asked?_of_nil hlevels]
      rw [hreports]
      exact ⟨h.held, h.called, h.strange, fun hmem => (List.mem_append.mp hmem).elim h.told hnone⟩

/-- Whatever others do is nothing to the stage, nor to what is due. -/
lemma others_keep {incident : Incident κ Stirring} (hothers : incident.byOthers)
    (hs : l.does Transports.world incident = some l') :
    l'.activity = l.activity ∧ l'.world.underway = l.world.underway := by
  cases incident with
  | happening happening =>
      cases happening with
      | submit caller request callback =>
          cases hs
          obtain ⟨log, heq⟩ := l.exists_submit_eq_offer caller request callback
          rw [heq]
          exact ⟨rfl, rfl⟩
      | stir e =>
          obtain ⟨⟨reports, w⟩, hw, rfl⟩ := Option.map_eq_some_iff.mp hs
          rw [happen_eq_offer]
          cases e with
          | drive maker turn =>
              obtain ⟨-, -, -, -, -, -, -, -, -, hu, -⟩ := Transports.drive_face hw
              exact ⟨rfl, hu⟩
          | room maker room =>
              obtain ⟨t, -, he⟩ := Option.map_eq_some_iff.mp hw
              cases he
              exact ⟨rfl, rfl⟩
      | work => cases hothers
      | beginUser =>
          obtain ⟨ha, -, hw, -⟩ := beginUser_core hs
          exact ⟨ha, congrArg _ hw⟩
      | endUser panic =>
          obtain ⟨log, sink, rfl⟩ := exists_eq_of_endUser hs
          exact ⟨rfl, rfl⟩
      | handle kept =>
          cases hs
          exact ⟨rfl, rfl⟩
  | shutdown worker s =>
      obtain ⟨⟨next, s'⟩, hstep, rfl⟩ := Option.map_eq_some_iff.mp hs
      obtain ⟨inbox, outbox, log, rfl, -⟩ := exists_shutdownStep_eq hstep
      exact ⟨rfl, rfl⟩

/-- **Whatever others do** completes nobody, and reports nothing of a number that no session
knows. -/
lemma others_does {incident : Incident κ Stirring} (hothers : incident.byOthers)
    (hs : l.does Transports.world incident = some l') (hstrange : l.world.Strange id)
    (htold : id ∉ g.told) :
    l'.world.Strange id ∧ id ∉ (Endings.note incident l l' g).told ∧
      (Endings.note incident l l' g).completed = g.completed := by
  cases incident with
  | happening happening =>
      cases happening with
      | submit caller request callback =>
          cases hs
          obtain ⟨log, heq⟩ := l.exists_submit_eq_offer caller request callback
          rw [heq]
          exact ⟨hstrange, htold, rfl⟩
      | stir e =>
          obtain ⟨⟨reports, w⟩, hw, rfl⟩ := Option.map_eq_some_iff.mp hs
          have hstir : l.world.stir e = some (reports, w) := hw
          have hstirred : w.Strange id ∧ id ∉ answeredIds reports := by
            cases e with
            | drive maker turn => exact hstrange.drive hw
            | room maker room =>
                obtain ⟨t, ht, he⟩ := Option.map_eq_some_iff.mp hw
                cases he
                exact ⟨hstrange.room ht _ _, List.not_mem_nil⟩
          rw [happen_eq_offer, Endings.note, hstir]
          exact ⟨hstirred.1, fun hmem => (List.mem_append.mp hmem).elim htold hstirred.2, rfl⟩
      | work => cases hothers
      | beginUser =>
          obtain ⟨-, -, hw, -⟩ := beginUser_core hs
          exact ⟨hw ▸ hstrange, htold, rfl⟩
      | endUser panic =>
          obtain ⟨log, sink, rfl⟩ := exists_eq_of_endUser hs
          exact ⟨hstrange, htold, rfl⟩
      | handle kept =>
          cases hs
          exact ⟨hstrange, htold, rfl⟩
  | shutdown worker s =>
      obtain ⟨⟨next, s'⟩, hstep, rfl⟩ := Option.map_eq_some_iff.mp hs
      obtain ⟨inbox, outbox, log, rfl, -⟩ := exists_shutdownStep_eq hstep
      exact ⟨hstrange, htold, rfl⟩

/-- **Everything that happens** leaves an operation unmet, as long as the worker does not take
it. -/
theorem Unmet.does (h : l.Unmet g id) (hsound : l.Sound) {incident : Incident κ Stirring}
    (hs : l.does Transports.world incident = some l')
    (hleft : (∃ op ∈ l.queued, op.id = id) → ∃ op ∈ l'.queued, op.id = id) :
    l'.Unmet (Endings.note incident l l' g) id ∧
      (Endings.note incident l l' g).ofId id = g.ofId id := by
  cases hothers : incident.byOthers with
  | true =>
      obtain ⟨ha, -⟩ := others_keep hothers hs
      obtain ⟨hstrange, htold, hcompleted⟩ := others_does hothers hs h.strange h.told
      exact ⟨⟨ha ▸ h.held, ha ▸ h.called, hstrange, htold⟩, by
        rw [Endings.ofId, Endings.ofId, hcompleted]⟩
  | false =>
      rcases incident with (_ | _ | _ | _ | _ | _) | _ <;> cases hothers
      exact h.tasks hsound (hsound.tasks hs) hleft

/-! ## Operations that wait for the worker -/

/-- An operation waits for the pipeline's worker. -/
def Waits (l : Link κ Transports) (id : Nat) : Prop := ∃ op ∈ l.queued, op.id = id

/-- Whoever waits after something has happened has waited before, or has just come under the next
number; and numbers are only given out. -/
lemma waits_does (hsound : l.Sound) {incident : Incident κ Stirring}
    (hs : l.does Transports.world incident = some l') :
    (∀ id, l'.Waits id → l.Waits id ∨ l.nextId ≤ id ∧ id < l'.nextId) ∧ l.nextId ≤ l'.nextId := by
  have hsubset : l'.queued ⊆ l.queued → l'.nextId = l.nextId →
      (∀ id, l'.Waits id → l.Waits id ∨ l.nextId ≤ id ∧ id < l'.nextId) ∧ l.nextId ≤ l'.nextId :=
    fun hq hn => ⟨fun id ⟨op, hop, he⟩ => .inl ⟨op, hq hop, he⟩, hn ▸ Nat.le_refl _⟩
  cases incident with
  | happening happening =>
      cases happening with
      | submit caller request callback =>
          cases hs
          obtain ⟨log, heq⟩ := l.exists_submit_eq_offer caller request callback
          rw [heq]
          refine ⟨?_, Nat.le_succ _⟩
          rintro id ⟨op, hop, he⟩
          obtain ⟨job, hjob, hrun⟩ := List.mem_filterMap.mp hop
          rcases Mailbox.mem_jobs_offer hjob with hold | hnew
          · exact .inl ⟨op, List.mem_filterMap.mpr ⟨job, hold, hrun⟩, he⟩
          · cases List.mem_singleton.mp hnew
            cases hrun
            cases he
            exact .inr ⟨Nat.le_refl _, Nat.lt_succ_self _⟩
      | stir e =>
          obtain ⟨⟨reports, w⟩, -, rfl⟩ := Option.map_eq_some_iff.mp hs
          rw [happen_eq_offer] at hsubset ⊢
          refine hsubset (fun op hop => ?_) rfl
          obtain ⟨job, hjob, hrun⟩ := List.mem_filterMap.mp hop
          rcases Mailbox.mem_jobs_offer hjob with hold | hnew
          · exact List.mem_filterMap.mpr ⟨job, hold, hrun⟩
          · obtain ⟨r, -, rfl⟩ := List.mem_map.mp hnew
            cases hrun
      | work =>
          cases hsound.tasks hs with
          | chain hlevels hstep log sink | create hlevels hstep log sink =>
              exact hsubset (List.Subset.refl _) rfl
          | call hlevels hcall | answer hlevels hcall hstep log sink
          | release hlevels hstep log sink =>
              refine hsubset (fun op hop => ?_) rfl
              rwa [queued, queued_put_reports] at hop
          | job hlevels hphase hqueue hstep log sink =>
              refine hsubset (fun op hop => ?_) rfl
              rw [queued_of_job hqueue]
              exact List.mem_append_right _ hop
          | leave hlevels hleaves log =>
              exact hsubset (hleaves.jobs_sublist.filterMap Job.operation?).subset rfl
      | beginUser =>
          obtain ⟨-, hi, -, hn⟩ := beginUser_core hs
          exact hsubset (fun _ hop => by rwa [queued, hi] at hop) hn
      | endUser panic =>
          obtain ⟨log, sink, rfl⟩ := exists_eq_of_endUser hs
          exact hsubset (List.Subset.refl _) rfl
      | handle kept =>
          cases hs
          exact hsubset (List.Subset.refl _) rfl
  | shutdown worker s =>
      obtain ⟨⟨next, s'⟩, hstep, rfl⟩ := Option.map_eq_some_iff.mp hs
      obtain ⟨inbox, outbox, log, rfl, hinbox⟩ := exists_shutdownStep_eq hstep
      refine hsubset (fun op hop => ?_) rfl
      obtain ⟨job, hjob, hrun⟩ := List.mem_filterMap.mp hop
      refine List.mem_filterMap.mpr ⟨job, ?_, hrun⟩
      rcases hinbox with hoffer | ⟨hjobs, -⟩
      · change job ∈ Mailbox.jobs inbox.queue at hjob
        rw [hoffer] at hjob
        refine (Mailbox.mem_jobs_offer hjob).resolve_right fun hnew => ?_
        cases List.mem_singleton.mp hnew
        cases hrun
      · exact hjobs ▸ hjob

/-- An operation that is not new, and that does not wait, never waits again. -/
lemma not_waits_does (hsound : l.Sound) {incident : Incident κ Stirring}
    (hs : l.does Transports.world incident = some l') (hold : id < l.nextId) (h : ¬ l.Waits id) :
    id < l'.nextId ∧ ¬ l'.Waits id := by
  obtain ⟨hwaits, hle⟩ := waits_does hsound hs
  refine ⟨hold.trans_le hle, fun hw => ?_⟩
  rcases hwaits id hw with hw | ⟨hnew, -⟩
  · exact h hw
  · exact absurd hold (Nat.not_lt.mpr hnew)

/-- **Whoever waits for the pipeline's worker**, or has not come yet, is unmet and not completed. -/
def Patient (l : Link κ Transports) (g : Endings κ) : Prop :=
  ∀ id, l.Waits id ∨ l.nextId ≤ id → l.Unmet g id ∧ g.ofId id = []

theorem Patient.does (h : l.Patient g) (hsound : l.Sound) {incident : Incident κ Stirring}
    (hs : l.does Transports.world incident = some l') :
    l'.Patient (Endings.note incident l l' g) := by
  intro id hid
  obtain ⟨hwaits, hle⟩ := waits_does hsound hs
  have hbefore : l.Waits id ∨ l.nextId ≤ id := by
    rcases hid with hid | hid
    · exact (hwaits id hid).imp_right And.left
    · exact .inr (hle.trans hid)
  obtain ⟨hunmet, hnone⟩ := h id hbefore
  have hleft : l.Waits id → l'.Waits id := by
    rintro ⟨op, hop, rfl⟩
    have hknown := hsound.known op (List.mem_append_left _ hop)
    exact hid.resolve_right (Nat.not_le.mpr (hknown.trans_le hle))
  obtain ⟨hunmet', hsame⟩ := hunmet.does hsound hs hleft
  exact ⟨hunmet', hsame.trans hnone⟩

/-- In any run, whoever waits for the pipeline's worker is unmet, and not completed. -/
theorem patient_attend {c : PipelineConfig} {listens : Bool} {config : TransportConfig}
    {files : Config.Files} (hbuild : Link.build c listens (some { config, files }) = .ok l)
    (incidents : List (Incident κ Stirring)) :
    (attend Transports.world Endings.note (l, {}) incidents).1.Sound ∧
      (attend Transports.world Endings.note (l, {}) incidents).1.Wired ∧
      (attend Transports.world Endings.note (l, {}) incidents).1.Patient
        (attend Transports.world Endings.note (l, {}) incidents).2 := by
  refine wired_attend_induction (fun l g => l.Wired ∧ l.Patient g) ?_ hbuild ?_ incidents
  · exact fun incident l g next hsound hwired hp hn =>
      ⟨hwired.does hsound hn, hp.2.does hsound hn⟩
  · cases hbuild
    refine ⟨wired_of_underway rfl, fun id _ => ⟨⟨?_, ?_, ?_, List.not_mem_nil⟩, rfl⟩⟩
    · exact List.forall_mem_nil _
    · rintro s c ⟨⟩
    · exact Transports.strange_new config files id

end Link

end DeviceLink
