import DeviceLink.Proofs.Link.Places
import DeviceLink.Proofs.Stage.Precedence

/-!
# What is published before a callback runs

The root takes what the stage hands over one after the other.  It publishes connectivity on the
spot, and sends callbacks to a worker of their own; so whatever a callback is told of a connection,
everybody else could have seen it before.

* `Bulletin` — the record of a run: what the root has taken, and what was published then.
* `Covered` — a call of the user's code comes after what is published for it.
* `Link.Foretold` — so with every call that runs or waits.
* **`Foretold.happens`** — everything that happens keeps that.
* **`connectivity_precedes_completion`** — every record of a stage is in order, and in a link so is
  what callbacks are told.
-/

namespace DeviceLink

open Dispatch

variable {κ ω ε : Type}

/-! ## The record of a run -/

/-- What the root has taken, each time with the state that was published then. -/
abbrev Bulletin (κ : Type) := List (ChainCall κ × ConnectionState)

/-- What the observer writes down. -/
def Bulletin.note : Happening κ ε → Link κ ω → Link κ ω → Bulletin κ → Bulletin κ
  | .work, before, after, g =>
    match before.activity.asked? with
    | some (.chain c) => g ++ [(c, after.root.state)]
    | some (.create _) | some (.call _ _) | some (.release _) | none => g
  | .submit _ _ _, _, _, g | .stir _, _, _, g | .beginUser, _, _, g | .endUser _, _, _, g
  | .handle _, _, _, g => g

/-- The connection of an operation is published when the operation is over, and was published right
before. -/
def Published (g : Bulletin κ) (op : Operation κ) : Prop :=
  ∃ before after, g = before ++ (.connected, .connected) :: (.complete op, .connected) :: after

/-- **A call of the user's code** that is told of a connection comes after its publication. -/
def Covered (g : Bulletin κ) : UserCall κ → Prop
  | .completion id name callback outcome =>
    name = Request.connect.name ∨ name = Request.reconnect.name → outcome = .ok () →
      ∃ op, op.id = id ∧ op.callback = some callback ∧ Published g op
  | .event _ => True

lemma Covered.append {g : Bulletin κ} {c : UserCall κ} (h : Covered g c) (more : Bulletin κ) :
    Covered (g ++ more) c := by
  cases c with
  | event e => trivial
  | completion id name callback outcome =>
      intro hname hok
      obtain ⟨op, hid, hcallback, before, after, rfl⟩ := h hname hok
      exact ⟨op, hid, hcallback, before, after ++ more, by simp⟩

lemma connects_of_name {r : Request}
    (h : r.name = Request.connect.name ∨ r.name = Request.reconnect.name) :
    r = .connect ∨ r = .reconnect := by
  cases r <;> first | exact .inl rfl | exact .inr rfl | exact absurd h (by simp [Request.name])

/-- What the root sends to the callback worker for an operation is its callback's outcome. -/
lemma mem_calls_complete {op : Operation κ} {c : UserCall κ}
    (h : c ∈ Link.calls (Root.complete op)) :
    ∃ callback, op.callback = some callback ∧
      c = .completion op.id op.name callback op.outcome := by
  rw [Link.calls_complete] at h
  obtain ⟨callback, hcallback, rfl⟩ := List.mem_map.mp h
  exact ⟨callback, Option.mem_toList.mp hcallback, rfl⟩

/-- **Whatever the root sends to the callback worker** comes after its publication, if that is what
the operation's end comes after. -/
lemma covered_of_mem_calls {g : Bulletin κ} {r : Root} {c : ChainCall κ}
    (hc : ∀ op, c = .complete op → op.request = .connect ∨ op.request = .reconnect →
      op.outcome = .ok () → Published (g ++ [(c, (r.handle c).1.state)]) op) {call : UserCall κ}
    (h : call ∈ Link.calls (r.handle c).2) : Covered (g ++ [(c, (r.handle c).1.state)]) call := by
  cases c with
  | complete op =>
      obtain ⟨callback, hcallback, rfl⟩ := mem_calls_complete h
      exact fun hname hok =>
        ⟨op, rfl, hcallback, hc op rfl (connects_of_name hname) hok⟩
  | pass op =>
      obtain ⟨callback, -, rfl⟩ := mem_calls_complete h
      rintro - ⟨⟩
  | event e =>
      simp only [Root.handle, Root.event] at h
      split at h
      · cases List.mem_singleton.mp h
        trivial
      · cases h
  | connected | disconnected =>
      simp only [Root.handle, Root.publish, Root.changeLines] at h
      split at h <;> cases h

namespace Link

variable {W : World ω ε} {M : SessionModel ω} {l l' : Link κ ω} {g : Bulletin κ}

/-! ## What callbacks are told -/

/-- **Every callback that runs or waits comes after what is published for it**, and so will that of
an operation that the stage has just completed. -/
structure Foretold (l : Link κ ω) (g : Bulletin κ) : Prop where
  sited : l.activity.Sited fun _ => True
  completed : ∀ op, l.activity.asked? = some (.chain (.complete op)) →
    op.request = .connect ∨ op.request = .reconnect → op.outcome = .ok () →
    ∃ before, g = before ++ [(.connected, .connected)] ∧ l.root.state = .connected
  calls : ∀ c ∈ l.user.toList ++ Mailbox.jobs l.outbox.queue, Covered g c

/-- What the stage goes on from when it completes a connection after a move of the worker. -/
lemma announced_of_step (h : l.Steady) (hl : l.activity.Sited fun _ => True) {m : Move κ}
    (hm : l.activity.ByWorker m) {a : Activity κ} {traces : List (Trace κ)}
    (hs : l.activity.step m = some (a, traces)) {op : Operation κ}
    (hask : a.asked? = some (.chain (.complete op)))
    (hr : op.request = .connect ∨ op.request = .reconnect) (hok : op.outcome = .ok ()) :
    m = .proceed ∧ ∃ ask, l.activity.levels = [(ask, .announced)] := by
  rcases h.lone.outcome hm hs with ⟨message, session, c, -, -, rfl, -⟩ | ⟨t, ht, rfl, -⟩
  · cases hask
  · obtain ⟨⟨ask, f⟩, hhead, rfl⟩ := Option.map_eq_some_iff.mp hask
    have hn := Activity.mem_levels_settle.mp (List.mem_of_head? hhead)
    have hdeed := (Activity.does_turn ht).deed
    obtain ⟨rfl, hf⟩ := Stage.announces_of_ok hl.stage hl.frame hdeed hn hr hok
    obtain ⟨before, hbefore⟩ := Activity.mem_levels_of_frame? hf
    exact ⟨rfl, before, h.lone.levels_eq hbefore⟩

lemma foretold_of_works (h : l.Steady) (hg : l.Foretold g) (hw : Works M l l') :
    l'.Foretold (Bulletin.note (.work : Happening κ ε) l l' g) := by
  -- a step that the root has no part in completes no connection
  have hquiet : ∀ {m : Move κ} {a : Activity κ} {traces : List (Trace κ)},
      l.activity.ByWorker m → m ≠ .proceed → l.activity.step m = some (a, traces) →
      ∀ op, a.asked? = some (.chain (.complete op)) →
        op.request = .connect ∨ op.request = .reconnect → op.outcome = .ok () →
        ∃ before, g = before ++ [(.connected, .connected)] ∧ l.root.state = .connected :=
    fun hm hne hs op hask hr hok => (hne (announced_of_step h hg.sited hm hs hask hr hok).1).elim
  have hsited : ∀ {m : Move κ} {a : Activity κ} {traces : List (Trace κ)},
      l.activity.ByWorker m → l.activity.step m = some (a, traces) → a.Sited fun _ => True :=
    fun hm hs => h.lone.sited_step hg.sited hm (fun _ _ => trivial) hs
  cases hw with
  | @chain c frame a traces hlevels hstep log sink =>
      have hasked := Activity.asked?_of_levels hlevels
      simp only [Bulletin.note, hasked]
      refine ⟨hsited (m := .proceed) trivial hstep, ?_, ?_⟩
      · intro op hask hr hok
        obtain ⟨-, ask, hannounced⟩ :=
          announced_of_step h hg.sited (m := .proceed) trivial hstep hask hr hok
        cases hlevels.symm.trans hannounced
        have hfits := h.lone.orderly.fits _ (Activity.mem_of_levels hlevels)
        cases c with
        | connected => exact ⟨g, rfl, rfl⟩
        | complete _ | pass _ | event _ | disconnected => exact hfits.elim
      · intro call hcall
        rw [Mailbox.jobs_put, ← List.append_assoc] at hcall
        rcases List.mem_append.mp hcall with hcall | hcall
        · exact (hg.calls call hcall).append _
        · refine covered_of_mem_calls ?_ hcall
          rintro op rfl hr hok
          obtain ⟨before, rfl, hstate⟩ := hg.completed op hasked hr hok
          refine ⟨before, [], ?_⟩
          have hsame : (l.root.handle (.complete op)).1.state = .connected := hstate
          rw [hsame, List.append_assoc]
          rfl
  | create hlevels hstep log sink =>
      simp only [Bulletin.note, Activity.asked?_of_levels hlevels]
      exact ⟨hsited (m := .created _) trivial hstep,
        hquiet (m := .created _) trivial (by rintro ⟨⟩) hstep, hg.calls⟩
  | call hlevels hcall =>
      simp only [Bulletin.note, Activity.asked?_of_levels hlevels]
      exact ⟨hg.sited, hg.completed, hg.calls⟩
  | @answer session c frame answer reports world a traces hlevels hcall hstep log sink =>
      simp only [Bulletin.note, Activity.asked?_of_levels hlevels]
      have hm := byWorker_ended answer hlevels
      exact ⟨hsited hm hstep, hquiet hm (by cases answer <;> rintro ⟨⟩) hstep, hg.calls⟩
  | @job job rest a traces hlevels hqueue hstep log sink =>
      simp only [Bulletin.note, Activity.asked?_of_nil hlevels]
      have hm := h.byWorker_start hlevels hqueue
      exact ⟨hsited hm hstep, hquiet hm (by cases job <;> rintro ⟨⟩) hstep, hg.calls⟩

/-- **Everything that happens** keeps what callbacks are told behind its publication. -/
theorem Foretold.happens (h : l.Steady) (hg : l.Foretold g) {happening : Happening κ ε}
    (hs : l.happens W happening = some l') :
    l'.Foretold (Bulletin.note happening l l' g) := by
  cases happening with
  | submit caller request callback =>
      cases hs
      obtain ⟨log, heq⟩ := exists_submit_eq h.inbox caller request callback
      rw [heq]
      exact ⟨hg.sited, hg.completed, hg.calls⟩
  | stir e =>
      obtain ⟨⟨reports, world⟩, -, rfl⟩ := Option.map_eq_some_iff.mp hs
      rw [happen_eq h.inbox]
      exact ⟨hg.sited, hg.completed, hg.calls⟩
  | work => exact foretold_of_works h hg (h.works hs)
  | beginUser =>
      obtain ⟨c, rest, hnone, hqueue, rfl⟩ := h.beginUser_cases hs
      refine ⟨hg.sited, hg.completed, fun call hcall => hg.calls call ?_⟩
      rw [hnone, hqueue]
      exact hcall
  | endUser panic =>
      obtain ⟨log, sink, rfl⟩ := exists_eq_of_endUser hs
      refine ⟨hg.sited, hg.completed, fun call hcall => hg.calls call ?_⟩
      exact List.mem_append_right _ hcall
  | handle kept =>
      cases hs
      exact ⟨hg.sited, hg.completed, hg.calls⟩

lemma foretold_build {c : PipelineConfig} {listens : Bool} {world : ω}
    (h : Link.build c listens (some world) = .ok l) : l.Foretold [] := by
  cases h
  exact ⟨Activity.sited_new _, (by rintro op ⟨⟩), List.forall_mem_nil _⟩

/-- **Connectivity precedes completion, and supersession the call that it makes room for.**  Every
record of a stage is in order; and in a link, while a callback is told of a connection, that
connection has been published for its operation. -/
theorem connectivity_precedes_completion {c : PipelineConfig} {listens : Bool} {world : ω}
    (hbuild : Link.build c listens (some world) = .ok l) :
    (∀ (name : String) (moves : List (Move κ)),
        Timely (Activity.watch ({ stage := .new name }, []) moves).2) ∧
      ∀ happenings : List (Happening κ ε), ∀ call,
        (follow W Bulletin.note (l, []) happenings).1.user = some call →
        Covered (follow W Bulletin.note (l, []) happenings).2 call := by
  refine ⟨Activity.timely_watch, fun happenings call hcall => ?_⟩
  have hforetold : Foretold (follow W Bulletin.note (l, []) happenings).1
      (follow W Bulletin.note (l, []) happenings).2 := by
    refine (runWith_induction_of_kept (S := Steady) ?_ Foretold ?_ (steady_build hbuild)
      (foretold_build hbuild) happenings).2
    · exact fun _ _ _ hl hn => hl.happens hn
    · exact fun _ _ _ _ hl hg hn => hg.happens hl hn
  exact hforetold.calls call (List.mem_append_left _ (Option.mem_toList.mpr hcall))

/-- A session is made and connects; then the callback of the connection runs. -/
def connectedCourse : List (Happening Nat (List Report)) :=
  [.submit none (.setConnectionArgs ⟨"hub", "device", "id", none⟩) 10, .work, .work, .work,
    .submit none .connect 20, .work, .work, .beginUser, .endUser none,
    .stir [.connected], .work, .work, .work, .beginUser]

/-- Its connection has been published. -/
theorem connectedCourse_covered :
    ∃ l : Link Nat Unit, Link.build {} false (some ()) = .ok l ∧
      let r := follow obliging Bulletin.note (l, []) connectedCourse
      r.1.user = some (.completion 2 "Connect" 20 (.ok ())) ∧
        Covered r.2 (.completion 2 "Connect" 20 (.ok ())) := by
  refine ⟨_, rfl, by decide, ?_⟩
  exact (connectivity_precedes_completion rfl).2 connectedCourse _ (by decide)

end Link

end DeviceLink
