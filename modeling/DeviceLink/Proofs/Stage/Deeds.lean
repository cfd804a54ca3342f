import DeviceLink.Proofs.Stage.Requests

/-!
# What a stretch of work can do

A move starts one stretch of work, which changes the state, reports failures that nobody waits for,
and ends with something that is handed over, or without.  The ways in which it can go are listed
once, guards included, so that whatever depends on them is a look at the list.

* `Request.aim?`, `SessionCall.aim?` — the operations and calls that are about the connection.
* `Stage.Starts`, `Stage.Supersedes`, `Stage.Abandons` — the pieces that more than one move leads
  to.
* `Stage.Deed` — the list.
* **`does_turn`** — every stretch of work is on it, and hands over nothing before its end.
* **`run_abandon`**, **`perm_run_abandon`** — what giving up comes to, in whichever order the
  operations wait.
-/

namespace DeviceLink

variable {κ : Type}

/-! ## Operations on the connection -/

/-- What an operation wants of the connection, if it wants anything of it. -/
def Request.aim? : Request → Option Aim
  | connect => some .connect
  | reconnect => some .reconnect
  | disconnect => some .disconnect
  | setConnectionArgs _ | setCredential _ | publish _ _ | subscribe _ | unsubscribe _
  | enableFeature _ | disableFeature _ => none

/-- What a session is to do with the connection, if anything. -/
def SessionCall.aim? : SessionCall → Option Aim
  | connect _ _ => some .connect
  | reconnect _ => some .reconnect
  | disconnect => some .disconnect
  | publish _ _ _ | subscribe _ _ | unsubscribe _ _ => none

lemma Request.aim?_of_kind? {r : Request} (h : r.kind?.isSome) : r.aim? = none := by
  cases r <;> first | rfl | cases h

lemma SessionCall.aim?_of_tracked? {c : SessionCall} (h : c.tracked?.isSome) : c.aim? = none := by
  cases c <;> first | rfl | cases h

lemma Stage.aim?_callFor (s : Stage κ) (aim : Aim) : (s.callFor aim).aim? = some aim := by
  cases aim <;> rfl

/-! ## The list -/

/-- The failures that nobody waits for, as they are reported on the spot. -/
def Trace.unhandled? : Trace κ → Option Failure
  | unhandled f => some f
  | log _ | ask _ | gone _ | panic _ => none

def Turn.spilt (t : Turn κ) : List Failure := t.traces.filterMap Trace.unhandled?

/-- An operation is over, and nothing remains to be done. -/
abbrev Next.ending (op : Operation κ) : Next κ := .ask (.chain (.complete op)) .last

namespace Stage

/-- How an operation on the connection starts. -/
inductive Starts (s : Stage κ) (aim : Aim) (op : Operation κ) : Stage κ → Next κ → Prop where
  | barred (text : String) : Starts s aim op s (.panic text)
  | refused (hnone : s.session = none) :
      Starts s aim op (s.setSlot aim.slot none) (.ending (op.fail (noSession op)))
  | called {session : SessionId} (hsome : s.session = some session) :
      Starts s aim op { s.setSlot aim.slot (some op) with entered := true }
        (.ask (.call session (s.callFor aim)) (.starting aim.slot))

/-- How the stage goes on with what an operation supersedes. -/
inductive Supersedes (s : Stage κ) (aim : Aim) (op : Operation κ) :
    List (Operation κ) → Stage κ → Next κ → Prop where
  | last {t : Stage κ} {n : Next κ} (h : s.Starts aim op t n) : Supersedes s aim op [] t n
  | next {old : Operation κ} {left : List (Operation κ)} :
      Supersedes s aim op (old :: left) s
        (.ask (.chain (.complete (old.fail (superseded op)))) (.superseding left aim op))

/-- How the stage goes on with what is given up. -/
inductive Abandons : Option SessionId → List (Operation κ) → Next κ → Prop where
  | done : Abandons none [] .done
  | releases {session : SessionId} : Abandons (some session) [] (.ask (.release session) .last)
  | next {session : Option SessionId} {op : Operation κ} {left : List (Operation κ)} :
      Abandons session (op :: left)
        (.ask (.chain (.complete (op.fail cancelled))) (.abandoning left session))

/-- Both slots empty. -/
def cleared (s : Stage κ) : Stage κ := { s with activeConnect := none, activeDisconnect := none }

/-- Nothing kept, and no session. -/
def emptied (s : Stage κ) : Stage κ :=
  { s with session := none, activeConnect := none, activeDisconnect := none, awaitingAck := [] }

/-- Nobody is inside the cell. -/
def left (s : Stage κ) : Stage κ := { s with entered := false }

/-- **What a stretch of work can do**, given the frame of whoever returns: the state it leaves, the
failures it reports, and its end. -/
inductive Deed (s : Stage κ) (frame : Option (Frame κ)) :
    Move κ → Stage κ → List Failure → Next κ → Prop where
  /-- Whoever comes in may not be here, or somebody is inside the cell. -/
  | barred {m : Move κ} (text : String) : Deed s frame m s [] (.panic text)
  -- an operation arrives
  | rejects {o : Origin} {op : Operation κ} {args : ConnectionArgs}
      (hr : op.request = .setConnectionArgs args) :
      Deed s frame (.enter o op) s [] (.ending (op.fail alreadySet))
  | wants {o : Origin} {op : Operation κ} {args : ConnectionArgs}
      (hr : op.request = .setConnectionArgs args) (hnone : s.session = none) :
      Deed s frame (.enter o op) s [] (.ask (.create args) (.creating op args))
  | keeps {o : Origin} {op : Operation κ} {credential : Credential}
      (hr : op.request = .setCredential credential) :
      Deed s frame (.enter o op) { s with credential := some credential } [] (.ending op)
  | turns {o : Origin} {op : Operation κ} {aim : Aim} {t : Stage κ} {n : Next κ}
      (hr : op.request.aim? = some aim) (h : s.cleared.Supersedes aim op s.active t n) :
      Deed s frame (.enter o op) t [] n
  | refuses {o : Origin} {op : Operation κ} (hk : op.request.kind?.isSome)
      (hnone : s.session = none) :
      Deed s frame (.enter o op) s [] (.ending (op.fail (noSession op)))
  | asks {o : Origin} {op : Operation κ} {kind : Transport.AckKind} {c : SessionCall}
      {session : SessionId} (hk : op.request.kind? = some kind)
      (hc : c.tracked? = some (kind, op.id)) (hsome : s.session = some session) :
      Deed s frame (.enter o op) { s.await op with entered := true } []
        (.ask (.call session c) (.requesting op.id))
  | passes {o : Origin} {op : Operation κ} :
      Deed s frame (.enter o op) s [] (.ask (.chain (.pass op)) .last)
  -- the session reports
  | rises : Deed s frame (.deliver .connected) s [] (.ask (.chain .connected) .announced)
  | falls {cause : Option Failure} :
      Deed s frame (.deliver (.disconnected cause)) s []
        (.ask (.chain .disconnected) (.retired cause))
  | hears {topic : String} {payload : List UInt8} :
      Deed s frame (.deliver (.message topic payload)) s []
        (.ask (.chain (.event (.incomingMessage topic payload))) .last)
  | fails {cause : Failure} {op : Operation κ} (hop : s.activeConnect = some op) :
      Deed s frame (.deliver (.connectionFailed cause)) (s.setSlot .connect none) []
        (.ending (op.fail cause))
  | failsAlone {cause : Failure} (hnone : s.activeConnect = none) :
      Deed s frame (.deliver (.connectionFailed cause)) s [cause] .done
  | acknowledges {id : Nat} {outcome : Outcome} {op : Operation κ}
      (hop : s.awaiting? id = some op) :
      Deed s frame (.deliver (.acknowledged id outcome)) (s.forget id) []
        (.ending (settled op outcome))
  | acknowledgesNobody {id : Nat} {outcome : Outcome} (hnone : s.awaiting? id = none) :
      Deed s frame (.deliver (.acknowledged id outcome)) s [] .done
  -- everything is given up
  | givesUp {o : Origin} {n : Next κ} (h : Abandons s.session s.pending n) :
      Deed s frame (.abandon o) s.emptied [] n
  -- the surroundings return
  | ends (here : frame = some .last) : Deed s frame .proceed s [] .done
  | supersedes {left : List (Operation κ)} {aim : Aim} {op : Operation κ} {t : Stage κ}
      {n : Next κ} (here : frame = some (.superseding left aim op))
      (h : s.Supersedes aim op left t n) : Deed s frame .proceed t [] n
  | replaces {op : Operation κ} (here : frame = some (.replacing op)) :
      Deed s frame .proceed s.left [] (.ending op)
  | announces {op : Operation κ} (here : frame = some .announced)
      (hop : s.activeConnect = some op) :
      Deed s frame .proceed (s.setSlot .connect none) [] (.ending op)
  | announcesAlone (here : frame = some .announced) (hnone : s.activeConnect = none) :
      Deed s frame .proceed s [] .done
  | retires {cause : Option Failure} {op : Operation κ} (here : frame = some (.retired cause))
      (hop : s.activeDisconnect = some op) :
      Deed s frame .proceed (s.setSlot .disconnect none) [] (.ending ((cause.map op.fail).getD op))
  | retiresAlone {cause : Option Failure} (here : frame = some (.retired cause))
      (hnone : s.activeDisconnect = none) : Deed s frame .proceed s cause.toList .done
  | abandons {left : List (Operation κ)} {session : Option SessionId} {n : Next κ}
      (here : frame = some (.abandoning left session)) (h : Abandons session left n) :
      Deed s frame .proceed s [] n
  -- a session was made, or was not
  | unmade {op : Operation κ} {args : ConnectionArgs} {f : Failure}
      (here : frame = some (.creating op args)) :
      Deed s frame (.created (.error f)) s [] (.ending (op.fail f))
  | made {op : Operation κ} {args : ConnectionArgs} {session : SessionId}
      (here : frame = some (.creating op args)) (hnone : s.session = none) :
      Deed s frame (.created (.ok session)) { s with args := some args, session := some session } []
        (.ending op)
  | remade {op : Operation κ} {args : ConnectionArgs} {session old : SessionId}
      (here : frame = some (.creating op args)) (hsome : s.session = some old) :
      Deed s frame (.created (.ok session))
        { s with args := some args, session := some session, entered := true } []
        (.ask (.release old) (.replacing op))
  -- the session has answered
  | accepts (here : (∃ slot, frame = some (.starting slot)) ∨ ∃ id, frame = some (.requesting id)) :
      Deed s frame (.answered (.ok ())) s.left [] .done
  | unstarted {slot : Slot} {f : Failure} {op : Operation κ}
      (here : frame = some (.starting slot)) (hop : s.slot slot = some op) :
      Deed s frame (.answered (.error f)) (s.left.setSlot slot none) [] (.ending (op.fail f))
  | unstartedNobody {slot : Slot} {f : Failure} (here : frame = some (.starting slot))
      (hnone : s.slot slot = none) : Deed s frame (.answered (.error f)) s.left [] .done
  | unasked {id : Nat} {f : Failure} {op : Operation κ} (here : frame = some (.requesting id))
      (hop : s.awaiting? id = some op) :
      Deed s frame (.answered (.error f)) (s.left.forget id) [] (.ending (op.fail f))
  | unaskedNobody {id : Nat} {f : Failure} (here : frame = some (.requesting id))
      (hnone : s.awaiting? id = none) : Deed s frame (.answered (.error f)) s.left [] .done

end Stage

/-! ## Every stretch of work -/

/-- A stretch of work is on the list, and hands over nothing before its end. -/
structure Turn.Does (s : Stage κ) (frame : Option (Frame κ)) (m : Move κ) (t : Turn κ) : Prop where
  quiet : t.traces.all Trace.remarks
  deed : s.Deed frame m t.stage t.spilt t.next

namespace Turn

variable {s : Stage κ} {frame : Option (Frame κ)} {m : Move κ} {t : Turn κ}

lemma Does.logging (h : t.Does s frame m) (line : LogLine) : (t.logging line).Does s frame m :=
  ⟨h.quiet, h.deed⟩

lemma Does.inside (h : t.Does s frame m) : (s.inside t).Does s frame m := by
  rw [Stage.inside]
  split
  · exact ⟨rfl, .barred _⟩
  · exact h

end Turn

namespace Stage

open Turn

variable {s : Stage κ} {op : Operation κ} {frame : Option (Frame κ)} {m : Move κ} {t : Turn κ}

lemma does_refuse {u : Stage κ} {f : Failure} (h : s.Deed frame m u [] (.ending (op.fail f))) :
    (u.refuse op f).Does s frame m := ⟨rfl, h⟩

/-! ### An operation arrives -/

lemma starts_startConnection (s : Stage κ) (aim : Aim) (op : Operation κ) :
    (s.startConnection aim op).traces.all Trace.remarks ∧ (s.startConnection aim op).spilt = [] ∧
      s.Starts aim op (s.startConnection aim op).stage (s.startConnection aim op).next := by
  rw [startConnection, inside]
  split
  · exact ⟨rfl, rfl, .barred _⟩
  · cases hs : s.session with
    | none => exact ⟨rfl, rfl, .refused hs⟩
    | some session => exact ⟨rfl, rfl, .called hs⟩

lemma supersedes_supersede (s : Stage κ) (aim : Aim) (op : Operation κ)
    (left : List (Operation κ)) :
    (s.supersede aim op left).traces.all Trace.remarks ∧ (s.supersede aim op left).spilt = [] ∧
      s.Supersedes aim op left (s.supersede aim op left).stage (s.supersede aim op left).next := by
  cases left with
  | nil =>
      obtain ⟨hquiet, hspilt, hstarts⟩ := starts_startConnection s aim op
      exact ⟨hquiet, hspilt, .last hstarts⟩
  | cons old left => exact ⟨rfl, rfl, .next⟩

lemma does_setConnectionArgs {o : Origin} {args : ConnectionArgs}
    (hr : op.request = .setConnectionArgs args) :
    (s.setConnectionArgs op args).Does s frame (.enter o op) := by
  rw [setConnectionArgs]
  refine (Does.inside ?_).logging _
  cases hs : s.session with
  | some session => exact ⟨rfl, .rejects hr⟩
  | none => exact ⟨rfl, .wants hr hs⟩

lemma does_runConnection {o : Origin} {aim : Aim} (hr : op.request.aim? = some aim) :
    (s.runConnection aim op).Does s frame (.enter o op) := by
  rw [runConnection]
  refine (Does.inside ?_).logging _
  obtain ⟨hquiet, hspilt, hsupersedes⟩ := supersedes_supersede s.cleared aim op s.active
  exact ⟨hquiet, hspilt ▸ .turns hr hsupersedes⟩

lemma does_runRequest {o : Origin} (kind : Transport.AckKind) {c : SessionCall}
    (hk : op.request.kind? = some kind) (hc : c.tracked? = some (kind, op.id)) (text : String) :
    (s.runRequest op c text).Does s frame (.enter o op) := by
  rw [runRequest]
  refine (Does.inside ?_).logging _
  cases hs : s.session with
  | none => exact does_refuse (.refuses (Option.isSome_of_eq_some hk) hs)
  | some session => exact ⟨rfl, .asks hk hc hs⟩

lemma does_run (o : Origin) : (s.run o op).Does s frame (.enter o op) := by
  rw [run]
  cases o.check .pipeline with
  | error text => exact ⟨rfl, .barred _⟩
  | ok u =>
      cases hr : op.request with
      | setConnectionArgs args => exact does_setConnectionArgs hr
      | setCredential credential => exact (Does.inside ⟨rfl, .keeps hr⟩).logging _
      | connect | reconnect | disconnect => exact does_runConnection (by rw [hr]; rfl)
      | publish _ _ => exact does_runRequest .publish (by rw [hr]; rfl) rfl _
      | subscribe _ => exact does_runRequest .subscribe (by rw [hr]; rfl) rfl _
      | unsubscribe _ => exact does_runRequest .unsubscribe (by rw [hr]; rfl) rfl _
      | enableFeature _ | disableFeature _ => exact ⟨rfl, .passes⟩

/-! ### The session reports -/

lemma does_report (r : Report) : (s.report r).Does s frame (.deliver r) := by
  cases r with
  | connected => exact ⟨rfl, .rises⟩
  | disconnected cause => exact ⟨rfl, .falls⟩
  | message topic payload => exact ⟨rfl, .hears⟩
  | connectionFailed cause =>
      refine (Does.inside ?_).logging _
      cases hop : s.activeConnect with
      | none => exact ⟨rfl, .failsAlone hop⟩
      | some op => exact ⟨rfl, .fails hop⟩
  | acknowledged id outcome =>
      refine Does.inside ?_
      cases hop : s.awaiting? id with
      | none => exact ⟨rfl, .acknowledgesNobody hop⟩
      | some op => cases outcome <;> exact ⟨rfl, .acknowledges hop⟩

/-! ### Everything is given up -/

lemma exists_abandonRest_eq (s : Stage κ) (session : Option SessionId)
    (left : List (Operation κ)) :
    ∃ n, s.abandonRest session left = { stage := s, next := n } ∧ Abandons session left n := by
  cases left with
  | nil => cases session <;> first | exact ⟨_, rfl, .done⟩ | exact ⟨_, rfl, .releases⟩
  | cons op left => exact ⟨_, rfl, .next⟩

lemma does_abandon (o : Origin) : (s.abandon o).Does s frame (.abandon o) := by
  rw [abandon]
  cases o.check .pipeline with
  | error text => exact ⟨rfl, .barred _⟩
  | ok u =>
      refine Does.inside ?_
      obtain ⟨n, heq, habandons⟩ := exists_abandonRest_eq s.emptied s.session s.pending
      refine heq ▸ ?_
      rw [abandonLines]
      split <;> exact ⟨rfl, .givesUp habandons⟩

/-! ### The surroundings return -/

lemma does_proceed {f : Frame κ} (ht : s.proceed f = some t) :
    t.Does s (some f) .proceed := by
  cases f with
  | last =>
      cases ht
      exact ⟨rfl, .ends rfl⟩
  | superseding left aim op =>
      cases ht
      obtain ⟨hquiet, hspilt, hsupersedes⟩ := supersedes_supersede s aim op left
      exact ⟨hquiet, hspilt ▸ .supersedes rfl hsupersedes⟩
  | replacing op =>
      cases ht
      exact ⟨rfl, .replaces rfl⟩
  | announced =>
      cases ht
      refine Does.inside ?_
      cases hop : s.activeConnect with
      | none => exact ⟨rfl, .announcesAlone rfl hop⟩
      | some op => exact ⟨rfl, .announces rfl hop⟩
  | retired cause =>
      cases ht
      refine Does.inside ?_
      cases hop : s.activeDisconnect with
      | none =>
          cases cause <;> exact ⟨rfl, .retiresAlone rfl hop⟩
      | some op => exact ⟨rfl, .retires rfl hop⟩
  | abandoning left session =>
      cases ht
      obtain ⟨n, heq, habandons⟩ := exists_abandonRest_eq s session left
      rw [heq]
      exact ⟨rfl, .abandons rfl habandons⟩
  | creating _ _ | starting _ | requesting _ => cases ht

lemma does_created {f : Frame κ} {result : Except Failure SessionId}
    (ht : s.created result f = some t) : t.Does s (some f) (.created result) := by
  cases f with
  | creating op args =>
      cases result with
      | error f =>
          cases ht
          exact ⟨rfl, .unmade rfl⟩
      | ok session =>
          cases ht
          refine (Does.inside ?_).logging _
          cases hs : s.session with
          | none => exact ⟨rfl, .made rfl hs⟩
          | some old => exact ⟨rfl, .remade rfl hs⟩
  | last | superseding _ _ _ | replacing _ | starting _ | requesting _ | announced | retired _
  | abandoning _ _ => cases ht

lemma does_answered {f : Frame κ} {outcome : Outcome} (ht : s.answered outcome f = some t) :
    t.Does s (some f) (.answered outcome) := by
  cases f with
  | starting slot =>
      cases outcome with
      | ok u =>
          cases ht
          exact ⟨rfl, .accepts (.inl ⟨slot, rfl⟩)⟩
      | error f =>
          simp only [answered] at ht
          cases hop : s.slot slot with
          | none =>
              rw [hop] at ht
              cases ht
              exact ⟨rfl, .unstartedNobody rfl hop⟩
          | some op =>
              rw [hop] at ht
              cases ht
              exact does_refuse (.unstarted rfl hop)
  | requesting id =>
      cases outcome with
      | ok u =>
          cases ht
          exact ⟨rfl, .accepts (.inr ⟨id, rfl⟩)⟩
      | error f =>
          simp only [answered] at ht
          cases hop : s.awaiting? id with
          | none =>
              rw [hop] at ht
              cases ht
              exact ⟨rfl, .unaskedNobody rfl hop⟩
          | some op =>
              rw [hop] at ht
              cases ht
              exact does_refuse (.unasked rfl hop)
  | last | superseding _ _ _ | creating _ _ | replacing _ | announced | retired _
  | abandoning _ _ => cases ht

end Stage

namespace Activity

variable {a : Activity κ} {m : Move κ}

/-- The frame of whoever returns. -/
def frame? (a : Activity κ) : Option (Frame κ) := a.levels.head?.map Prod.snd

/-- **Every stretch of work is on the list.** -/
theorem does_turn {t : Turn κ} (ht : a.turn? m = some t) : t.Does a.stage a.frame? m := by
  have hhead : ∀ l, a.levels.head? = some l → a.frame? = some l.2 := by
    intro l hl
    rw [frame?, hl]
    rfl
  cases m with
  | enter o op =>
      cases ht
      exact Stage.does_run o
  | deliver r =>
      cases ht
      exact Stage.does_report r
  | abandon o =>
      cases ht
      exact Stage.does_abandon o
  | panic message => cases ht
  | proceed =>
      obtain ⟨l, hl, ht⟩ := Option.bind_eq_some_iff.mp ht
      exact hhead l hl ▸ Stage.does_proceed ht
  | created result =>
      obtain ⟨l, hl, ht⟩ := Option.bind_eq_some_iff.mp ht
      exact hhead l hl ▸ Stage.does_created ht
  | answered outcome =>
      obtain ⟨l, hl, ht⟩ := Option.bind_eq_some_iff.mp ht
      exact hhead l hl ▸ Stage.does_answered ht

/-! ## From its beginning to its end -/

/-- What is handed over when some operations are given up: one after the other they are cancelled,
and last the session goes. -/
def farewells (session : Option SessionId) (left : List (Operation κ)) : List (Trace κ) :=
  left.map (fun op => .ask (.chain (.complete (op.fail Stage.cancelled)))) ++
    session.toList.map fun session => .ask (.release session)

/-- Whoever is handed something returns, so many times. -/
def returns (n : Nat) : List (Move κ) := List.replicate n .proceed

/-- **What is left of giving up** is handed over, one after the other, to whoever returns each
time. -/
lemma run_abandonRest (s : Stage κ) (session : Option SessionId) (left : List (Operation κ))
    (lines : List (Trace κ)) :
    let r := settle [] ((s.abandonRest session left).after lines)
    (r.1.run (returns (left.length + 1))).1 = { stage := s } ∧
      r.2 ++ (r.1.run (returns (left.length + 1))).2 = lines ++ farewells session left := by
  induction left generalizing lines with
  | nil =>
      cases session with
      | none => exact ⟨rfl, by simp [Stage.abandonRest, Turn.after, settle, returns, run, step,
          farewells]⟩
      | some session => exact ⟨rfl, by simp [Stage.abandonRest, Turn.after, settle, returns, run,
          step, farewells, Stage.proceed]⟩
  | cons op left ih =>
      -- the next to return finds the rest as if it had just been begun
      obtain ⟨hlast, htraces⟩ := ih []
      have hfirst : lines ++ [] ++ [.ask (.chain (.complete (op.fail Stage.cancelled)))] ++
          ([] ++ farewells session left) = lines ++ farewells session (op :: left) := by
        simp [farewells]
      exact ⟨hlast, (congrArg (lines ++ [] ++ [_] ++ ·) htraces).trans hfirst⟩

/-- **Everything is given up:** whatever is kept is cancelled, one operation after the other, then
the session goes, and nothing is kept. -/
theorem run_abandon {s : Stage κ} (hout : s.entered = false) :
    ({ stage := s } : Activity κ).run
        (.abandon (.on .pipeline) :: returns (s.pending.length + 1)) =
      ({ stage := s.emptied }, s.abandonLines ++ farewells s.session s.pending) := by
  have hcheck : (Origin.on .pipeline).check .pipeline = .ok () := rfl
  have hstep : ({ stage := s } : Activity κ).step (.abandon (.on .pipeline)) =
      some (settle [] ((s.emptied.abandonRest s.session s.pending).after s.abandonLines)) := by
    rw [step, Stage.abandon, hcheck]
    simp only
    rw [Stage.inside, if_neg (ne_true_of_eq_false hout)]
    rfl
  obtain ⟨hlast, htraces⟩ := run_abandonRest s.emptied s.session s.pending s.abandonLines
  rw [run, hstep]
  exact Prod.ext hlast htraces

/-- **In which order operations wait does not matter** when they are given up: the same stage is
left, and the same is handed over, up to its order. -/
theorem perm_run_abandon {s : Stage κ} (hout : s.entered = false)
    {waiting : List (Nat × Operation κ)} (h : waiting.Perm s.awaitingAck) :
    let s' := { s with awaitingAck := waiting }
    let moves := .abandon (.on .pipeline) :: returns (s.pending.length + 1)
    (({ stage := s' } : Activity κ).run moves).1 = (({ stage := s } : Activity κ).run moves).1 ∧
      (({ stage := s' } : Activity κ).run moves).2.Perm (({ stage := s } : Activity κ).run moves).2
      := by
  intro s' moves
  have hpending : s'.pending.Perm s.pending := (h.map Prod.snd).append_left s.active
  have hlines : s'.abandonLines = s.abandonLines := by
    simp only [Stage.abandonLines, hpending.isEmpty_eq, hpending.length_eq]
    rfl
  have hmoves : moves = .abandon (.on .pipeline) :: returns (s'.pending.length + 1) := by
    rw [hpending.length_eq]
  rw [run_abandon hout, hmoves, run_abandon (s := s') hout]
  refine ⟨rfl, ?_⟩
  rw [hlines]
  exact ((hpending.map _).append_right _).append_left _

end Activity

end DeviceLink
