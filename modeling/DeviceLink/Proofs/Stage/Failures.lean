import DeviceLink.Proofs.Stage.Discipline
import DeviceLink.Proofs.Stage.Lone

/-!
# Where failures go in a stage

A failure comes to a stage with a report, or as the answer of a session or of the factory.  It
leaves in the same stretch of work, as that of an operation that is over or as one that nobody waits
for; only the cause with which a connection has ended waits until everybody knows.  An
acknowledgement that nobody waits for is dropped.  Whatever else an operation fails with, the stage
has made itself.

* `Report.failure?`, `Move.failure?`, `Move.comesWith` — the failures that come to a stage.
* `Ask.failure?`, `Frame.cause?` — those that it hands over, or has in hand.
* `Stage.stray?`, `Stage.answers?` — whom an acknowledgement finds, and who has got an answer.
* `Homemade` — the failures that a stage makes.
* `Stage.Routes` — where the failure goes that comes with a move.
* **`routes_deed`**, **`Lone.routes`** — every failure goes to one place, and nothing is changed
  of it.
* `awaits_deed`, `Lone.awaits_step` — requests wait until their answer comes.
-/

namespace DeviceLink

variable {κ : Type}

/-! ## Failures on their way -/

/-- The failure that a session reports. -/
def Report.failure? : Report → Option Failure
  | connectionFailed cause => some cause
  | disconnected cause => cause
  | acknowledged _ (.error f) => some f
  | acknowledged _ (.ok ()) | connected | message _ _ => none

/-- The failure that whoever makes a move brings along. -/
def Move.failure? : Move κ → Option Failure
  | deliver r => r.failure?
  | created (.error f) | answered (.error f) => some f
  | created (.ok _) | answered (.ok ()) | enter _ _ | abandon _ | proceed | panic _ => none

/-- The cause that a frame keeps until everybody knows that the connection is down. -/
def Frame.cause? : Frame κ → Option Failure
  | retired cause => cause
  | last | superseding _ _ _ | creating _ _ | replacing _ | starting _ | requesting _ | announced
  | abandoning _ _ => none

/-- The failure of the operation that is over. -/
def Ask.failure? : Ask κ → Option Failure
  | chain (.complete op) => op.error
  | chain (.pass _) | chain (.event _) | chain .connected | chain .disconnected | create _
  | call _ _ | release _ => none

def Next.failure? : Next κ → Option Failure
  | ask a _ => a.failure?
  | done | panic _ => none

def Next.cause? : Next κ → Option Failure
  | ask _ frame => frame.cause?
  | done | panic _ => none

/-- **The failure that comes to a stage with a move**, given the frame of whoever returns. -/
def Move.comesWith (frame : Option (Frame κ)) : Move κ → Option Failure
  | proceed => frame.bind Frame.cause?
  | m => m.failure?

/-- The failure of an acknowledgement that nobody waits for, and under which number it comes. -/
def Stage.stray? (s : Stage κ) : Move κ → Option (Nat × Failure)
  | .deliver (.acknowledged id (.error f)) => if (s.awaiting? id).isNone then some (id, f) else none
  | .deliver (.acknowledged _ (.ok ())) | .deliver .connected | .deliver (.connectionFailed _)
  | .deliver (.disconnected _) | .deliver (.message _ _) | .enter _ _ | .abandon _ | .proceed
  | .created _ | .answered _ | .panic _ => none

/-- The request for which a session is called. -/
def Frame.request? : Frame κ → Option Nat
  | requesting id => some id
  | last | superseding _ _ _ | creating _ _ | replacing _ | starting _ | announced | retired _
  | abandoning _ _ => none

/-- **The request that is answered with a move**: it is acknowledged, or the session refuses it. -/
def Stage.answers? (s : Stage κ) (frame : Option (Frame κ)) : Move κ → Option Nat
  | .deliver (.acknowledged id _) => if (s.awaiting? id).isSome then some id else none
  | .answered (.error _) => frame.bind Frame.request?
  | .deliver .connected | .deliver (.connectionFailed _) | .deliver (.disconnected _)
  | .deliver (.message _ _) | .answered (.ok ()) | .enter _ _ | .abandon _ | .proceed | .created _
  | .panic _ => none

/-- **A failure that a stage makes** while nobody gives it up. -/
inductive Homemade (κ : Type) : Failure → Prop where
  | noSession (op : Operation κ) : Homemade κ (Stage.noSession op)
  | alreadySet : Homemade κ Stage.alreadySet
  | superseded (newer : Operation κ) : Homemade κ (Stage.superseded newer)

namespace Stage

variable {s t : Stage κ} {op : Operation κ} {frame : Option (Frame κ)} {m : Move κ}
  {spilt : List Failure} {n : Next κ} {aim : Aim}

/-- Nobody waits for an acknowledgement whose failure goes astray. -/
lemma awaiting?_of_stray? {id : Nat} {f : Failure} (h : s.stray? m = some (id, f)) :
    s.awaiting? id = none := by
  unfold stray? at h
  split at h
  · split at h
    · next hnone =>
        cases h
        exact Option.isNone_iff_eq_none.mp hnone
    · cases h
  all_goals cases h

/-! ## One stretch of work -/

/-- Where the failure goes that comes with a move: it waits in a frame, it is reported, or it is
dropped; or it is that of the operation that is over.  If none comes, that operation's failure is
homemade. -/
inductive Routes (κ : Type) (came stray : Option Failure) (spilt : List Failure)
    (failure cause : Option Failure) : Prop where
  | apart (hnone : failure = none) (hcame : came.toList = cause.toList ++ spilt ++ stray.toList)
  | carried {f : Failure} (hf : failure = some f) (hcause : cause = none) (hspilt : spilt = [])
      (hstray : stray = none) (hcame : came = some f ∨ came = none ∧ Homemade κ f)

/-- Nothing comes and nothing goes. -/
lemma routes_nothing (hcame : m.comesWith frame = none) (hstray : s.stray? m = none)
    (hf : n.failure? = none) (hcause : n.cause? = none) :
    Routes κ (m.comesWith frame) ((s.stray? m).map Prod.snd) [] n.failure? n.cause? := by
  refine .apart hf ?_
  rw [hcame, hstray, hcause]
  rfl

lemma supersedes_routes {left : List (Operation κ)} (h : s.Supersedes aim op left t n)
    {stray : Option Failure} (hstray : stray = none) {came : Option Failure} (hcame : came = none) :
    Routes κ came stray [] n.failure? n.cause? := by
  subst hstray hcame
  cases h with
  | next => exact .carried rfl rfl rfl rfl (.inr ⟨rfl, .superseded op⟩)
  | last hs =>
      cases hs with
      | barred text => exact .apart rfl rfl
      | refused hnone => exact .carried rfl rfl rfl rfl (.inr ⟨rfl, .noSession op⟩)
      | called hsome => exact .apart rfl rfl

/-- **Every failure goes to one place** in a stretch of work, and it goes there as it has come. -/
theorem routes_deed (h : s.Suited Activity.Unharmed)
    (hslot : ∀ slot, frame = some (.starting slot) → (s.slot slot).isSome)
    (hwaits : ∀ id, frame = some (.requesting id) → (s.awaiting? id).isSome)
    (hclean : ∀ op ∈ m.brings, Activity.Unharmed op)
    (hframe : ∀ f, frame = some f → f.Suited Activity.Unharmed)
    (hkept : ∀ o, m ≠ .abandon o) (hrest : ∀ left session, frame ≠ some (.abandoning left session))
    (hin : ∀ text, n ≠ .panic text) (hd : s.Deed frame m t spilt n) :
    Routes κ (m.comesWith frame) ((s.stray? m).map Prod.snd) spilt n.failure? n.cause? := by
  cases hd with
  | barred text => exact (hin text rfl).elim
  | givesUp _ => exact (hkept _ rfl).elim
  | abandons here _ => exact (hrest _ _ here).elim
  | rejects hr => exact .carried rfl rfl rfl rfl (.inr ⟨rfl, .alreadySet⟩)
  | refuses hk hnone => exact .carried rfl rfl rfl rfl (.inr ⟨rfl, .noSession _⟩)
  | turns hr hs => exact supersedes_routes hs rfl rfl
  | supersedes here hs => exact supersedes_routes hs rfl (by rw [here]; rfl)
  | keeps hr => exact routes_nothing rfl rfl (hclean _ List.mem_cons_self) rfl
  | wants _ _ | asks _ _ _ | passes | rises | hears | accepts _ =>
      exact routes_nothing rfl rfl rfl rfl
  | @falls cause => exact .apart rfl (by cases cause <;> rfl)
  | fails hop => exact .carried rfl rfl rfl rfl (.inl rfl)
  | failsAlone hnone => exact .apart rfl rfl
  | @acknowledges id outcome op hop =>
      cases outcome with
      | ok u => exact routes_nothing rfl rfl (h.waiting _ (mem_of_awaiting? hop)).2 rfl
      | error f => exact .carried rfl rfl rfl (by rw [stray?, hop]; rfl) (.inl rfl)
  | @acknowledgesNobody id outcome hnone =>
      cases outcome with
      | ok u => exact routes_nothing rfl rfl rfl rfl
      | error f => exact .apart rfl (by rw [stray?, hnone]; rfl)
  | ends here => exact routes_nothing (by rw [here]; rfl) rfl rfl rfl
  | announcesAlone here hnone => exact routes_nothing (by rw [here]; rfl) rfl rfl rfl
  | announces here hop =>
      exact routes_nothing (by rw [here]; rfl) rfl (h.slots .connect _ hop).2 rfl
  | @retires cause op here hop =>
      subst here
      cases cause with
      | none => exact routes_nothing rfl rfl (h.slots .disconnect _ hop).2 rfl
      | some f => exact .carried rfl rfl rfl rfl (.inl rfl)
  | @retiresAlone cause here hnone =>
      subst here
      exact .apart rfl (by cases cause <;> rfl)
  | replaces here => exact routes_nothing (by rw [here]; rfl) rfl (hframe _ here).2 rfl
  | unmade here => exact .carried rfl rfl rfl rfl (.inl rfl)
  | made here hnone => exact routes_nothing rfl rfl (hframe _ here).2 rfl
  | remade here hsome => exact routes_nothing rfl rfl rfl rfl
  | unstarted here hop => exact .carried rfl rfl rfl rfl (.inl rfl)
  | unasked here hop => exact .carried rfl rfl rfl rfl (.inl rfl)
  | unstartedNobody here hnone =>
      have hsome := hslot _ here
      rw [hnone] at hsome
      cases hsome
  | unaskedNobody here hnone =>
      have hsome := hwaits _ here
      rw [hnone] at hsome
      cases hsome

lemma awaiting?_await (s : Stage κ) (op : Operation κ) :
    (s.await op).awaiting? op.id = some op := by
  have hnone : (s.forget op.id).awaitingAck.lookup op.id = none := by
    rw [List.lookup_eq_none_iff]
    intro p hp
    have hne : p.1 ≠ op.id := by simpa using (List.mem_filter.mp hp).2
    exact bne_iff_ne.mpr hne.symm
  rw [awaiting?, await, List.lookup_append, hnone]
  simp

lemma awaiting?_setSlot (s : Stage κ) (slot : Slot) (op : Option (Operation κ)) (id : Nat) :
    (s.setSlot slot op).awaiting? id = s.awaiting? id := by
  cases slot <;> rfl

lemma awaiting?_forget_of_ne (s : Stage κ) {id other : Nat} (h : other ≠ id) :
    (s.forget id).awaiting? other = s.awaiting? other := by
  rw [awaiting?, awaiting?, forget]
  induction s.awaitingAck with
  | nil => rfl
  | cons p rest ih =>
      obtain ⟨kept, op⟩ := p
      by_cases hkept : kept = id
      · subst hkept
        rw [List.filter_cons_of_neg (by simp), List.lookup_cons, beq_false_of_ne h]
        exact ih
      · rw [List.filter_cons_of_pos (by simpa using hkept), List.lookup_cons, List.lookup_cons, ih]

lemma awaiting?_of_supersedes {left : List (Operation κ)} (h : s.Supersedes aim op left t n)
    (id : Nat) : t.awaiting? id = s.awaiting? id := by
  cases h with
  | next => rfl
  | last hs =>
      cases hs with
      | barred text => rfl
      | refused hnone => exact awaiting?_setSlot s _ none id
      | called hsome => exact awaiting?_setSlot s _ (some op) id

lemma isSome_awaiting?_await (op : Operation κ) {id : Nat} (h : (s.awaiting? id).isSome) :
    ((s.await op).awaiting? id).isSome := by
  rcases eq_or_ne id op.id with rfl | hne
  · rw [awaiting?_await]
    rfl
  · obtain ⟨waiting, hwaiting⟩ := Option.isSome_iff_exists.mp h
    rw [← awaiting?_forget_of_ne s hne] at hwaiting
    have hlookup : (s.forget op.id).awaitingAck.lookup id = some waiting := hwaiting
    rw [awaiting?, await, List.lookup_append, hlookup]
    rfl

lemma not_requesting_of_supersedes {left : List (Operation κ)} (h : s.Supersedes aim op left t n)
    {ask : Ask κ} {id : Nat} : n ≠ .ask ask (.requesting id) := by
  cases h with
  | next => rintro ⟨⟩
  | last hs => cases hs <;> rintro ⟨⟩

lemma not_requesting_of_abandons {session : Option SessionId} {left : List (Operation κ)}
    (h : Abandons session left n) {ask : Ask κ} {id : Nat} : n ≠ .ask ask (.requesting id) := by
  cases h <;> rintro ⟨⟩

/-- Whoever waits goes on waiting, but for whom the answer has come. -/
lemma awaits_deed (hkept : ∀ o, m ≠ .abandon o) (hd : s.Deed frame m t spilt n) {id : Nat}
    (hid : (s.awaiting? id).isSome) :
    (t.awaiting? id).isSome ∨ s.answers? frame m = some id := by
  have hforget : ∀ other, (s.forget other).awaiting? id = s.awaiting? id ∨ other = id :=
    fun other => (eq_or_ne id other).elim (fun he => .inr he.symm)
      fun hne => .inl (awaiting?_forget_of_ne s hne)
  cases hd with
  | givesUp _ => exact (hkept _ rfl).elim
  | turns hr hs | supersedes here hs =>
      exact .inl ((awaiting?_of_supersedes hs id).symm ▸ hid)
  | asks hk hc hsome => exact .inl (isSome_awaiting?_await _ hid)
  | @acknowledges other outcome op hop =>
      rcases hforget other with he | rfl
      · exact .inl (he ▸ hid)
      · exact .inr (if_pos hid)
  | @unasked other f op here hop =>
      rcases hforget other with he | rfl
      · exact .inl (he ▸ hid)
      · exact .inr (by rw [here]; rfl)
  | fails _ | announces _ _ | retires _ _ | unstarted _ _ =>
      exact .inl (by rwa [awaiting?_setSlot])
  | _ => exact .inl hid

/-- A session is called for a request only of an operation that waits. -/
lemma found_deed (hd : s.Deed frame m t spilt n) {ask : Ask κ} {id : Nat}
    (hn : n = .ask ask (.requesting id)) : (t.awaiting? id).isSome := by
  cases hd with
  | asks hk hc hsome =>
      cases hn
      exact Option.isSome_of_eq_some (awaiting?_await s _)
  | turns hr hs => exact (not_requesting_of_supersedes hs hn).elim
  | supersedes here hs => exact (not_requesting_of_supersedes hs hn).elim
  | givesUp ha => exact (not_requesting_of_abandons ha hn).elim
  | abandons here ha => exact (not_requesting_of_abandons ha hn).elim
  | _ => cases hn

end Stage

/-! ## One move of the worker -/

namespace Activity

variable {a a' : Activity κ} {m : Move κ} {traces : List (Trace κ)}

/-- The failure of the operation that is over. -/
def failure? (a : Activity κ) : Option Failure := a.asked?.bind Ask.failure?

/-- The cause that waits until everybody knows that the connection is down. -/
def cause? (a : Activity κ) : Option Failure := a.frame?.bind Frame.cause?

/-- The request for which a session is called is that of an operation that waits. -/
def Found (a : Activity κ) : Prop :=
  ∀ id, a.frame? = some (.requesting id) → (a.stage.awaiting? id).isSome

/-- A panic spills no failure. -/
lemma filterMap_unhandled?_unwind (s : Stage κ) (message : String)
    (levels : List (Ask κ × Frame κ)) :
    (unwind s message levels).2.filterMap Trace.unhandled? = [] := by
  rw [List.filterMap_eq_nil_iff]
  intro trace ht
  rcases of_mem_unwind ht with ⟨session, rfl⟩ | rfl <;> rfl

/-- What can be seen of a stretch of work that does not panic. -/
lemma settle_failures {t : Turn κ} (h : ∀ text, t.next ≠ .panic text) :
    (settle [] t).2.filterMap Trace.unhandled? = t.spilt ∧
      (settle [] t).1.failure? = t.next.failure? ∧ (settle [] t).1.cause? = t.next.cause? := by
  rw [settle]
  cases hn : t.next with
  | done => exact ⟨rfl, rfl, rfl⟩
  | ask ask frame =>
      refine ⟨?_, rfl, rfl⟩
      rw [List.filterMap_append]
      exact List.append_nil _
  | panic text => exact (h text hn).elim

lemma Lone.not_panic (h : a.Lone) (hm : a.ByWorker m)
    (fresh : ∀ op ∈ m.brings, a.stage.awaiting? op.id = none) {t : Turn κ}
    (ht : a.turn? m = some t) (text : String) : t.next ≠ .panic text := by
  intro hn
  obtain ⟨given, horder, -⟩ := h.orderly.turn hm.driven.permits fresh ht
  have hready := horder.ready
  rw [Turn.Ready, hn] at hready
  exact hready

lemma Lone.found_step (h : a.Lone) (hm : a.ByWorker m) (hs : a.step m = some (a', traces)) :
    a'.Found := by
  intro id hf
  rcases h.outcome hm hs with ⟨message, session, c, -, -, rfl, -⟩ | ⟨t, ht, rfl, -⟩
  · cases hf
  · obtain ⟨ask, hl⟩ := mem_levels_of_frame? hf
    rw [stage_settle]
    exact Stage.found_deed (does_turn ht).deed (mem_levels_settle.mp hl)

/-- Whoever waits goes on waiting after a move of the worker, but for whom the answer has come. -/
lemma Lone.awaits_step (h : a.Lone) (hm : a.ByWorker m) (hs : a.step m = some (a', traces))
    {id : Nat} (hid : (a.stage.awaiting? id).isSome) :
    (a'.stage.awaiting? id).isSome ∨ a.stage.answers? a.frame? m = some id := by
  rcases h.outcome hm hs with ⟨message, session, c, -, -, rfl, -⟩ | ⟨t, ht, rfl, -⟩
  · exact .inl hid
  · rw [stage_settle]
    refine Stage.awaits_deed ?_ (does_turn ht).deed hid
    rintro o rfl
    exact hm

/-- **Every failure goes to one place** with a move of the worker, and it goes there as it has
come. -/
theorem Lone.routes (h : a.Lone) (hsited : a.Sited Unharmed) (hfound : a.Found) (hm : a.ByWorker m)
    (fresh : ∀ op ∈ m.brings, a.stage.awaiting? op.id = none)
    (hclean : ∀ op ∈ m.brings, Unharmed op) (hs : a.step m = some (a', traces)) :
    Stage.Routes κ (m.comesWith a.frame?) ((a.stage.stray? m).map Prod.snd)
      (traces.filterMap Trace.unhandled?) a'.failure? a'.cause? := by
  rcases h.outcome hm hs with ⟨message, session, c, -, rfl, rfl, rfl⟩ | ⟨t, ht, rfl, rfl⟩
  · rw [filterMap_unhandled?_unwind]
    exact .apart rfl rfl
  · obtain ⟨hspilt, hfailure, hcause⟩ := settle_failures (h.not_panic hm fresh ht)
    have hslot : ∀ slot, a.frame? = some (.starting slot) → (a.stage.slot slot).isSome := by
      intro slot hf
      obtain ⟨ask, hl⟩ := mem_levels_of_frame? hf
      have hstill := h.still _ hl
      cases ask <;> first | exact hstill.2 | exact hstill.elim
    have hrest : ∀ left session, a.frame? ≠ some (.abandoning left session) := by
      intro left session hf
      obtain ⟨ask, hl⟩ := mem_levels_of_frame? hf
      have hstill := h.still _ hl
      cases ask <;> exact hstill.elim
    rw [hspilt, hfailure, hcause]
    refine Stage.routes_deed hsited.stage hslot hfound hclean hsited.frame ?_ hrest
      (h.not_panic hm fresh ht) (does_turn ht).deed
    rintro o rfl
    exact hm

end Activity

end DeviceLink
