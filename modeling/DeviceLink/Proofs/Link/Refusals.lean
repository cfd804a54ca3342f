import Mathlib.Data.List.Induction
import DeviceLink.Proofs.Link.Correlation
import DeviceLink.Proofs.Link.Strangers

/-!
# A request that is refused leaves no trace

Stage and transport both register a request before they try to hand it over, and both take it back
when that fails, the transport by its place in a queue, the stage by its number.  What others do in
between finds the link as it would be without the request: so it is compared, step by step, with the
link from which the operation was taken away before the worker could take it.

* **`Transport.step_of_request`** — a phase of a request that the client does not take changes
  nothing.
* `Link.aside` — a link with another stage and another phase due, as others see it.
* **`does_aside`** — others do there what they do without.
* **`tried_attend`** — while a session is called for a request, nothing else has changed.
* `Parted`, **`parted_of_refused`**, **`Parted.does`** — a request that was refused is completed,
  and stays completed once.
* **`refused_leaves_nothing`** — a request that is refused leaves no trace.
-/

namespace DeviceLink

open Transport Dispatch

variable {κ : Type}

/-! ## Transports -/

namespace Transport

variable {η : Type} {t t' : Transport η} {files : Config.Files} {p : Phase η}
  {told : List (Told η)} {progress : Progress η}

lemma modify_self {n : Nat} {c : Connection η} (hc : t.connections[n]? = some c) :
    (t.modify n fun _ => c) = t := by
  have hsame : t.connections.modify n (fun _ => c) = t.connections.modify n id :=
    modify_congr fun d hd => by cases hc.symm.trans hd; rfl
  rw [modify, hsame, List.modify_id]

/-- **A phase of a request** changes nothing and calls nobody, unless the client takes the
request. -/
theorem step_of_request {r : Tracked η} (hp : p.request? = some r)
    (h : t.step files p = (t', told, progress)) (hrefused : progress ≠ .done (.ok ())) :
    t' = t ∧ told = [] := by
  cases p with
  | beforeRequest other =>
      cases hl : t.live? <;> simp only [Transport.step, hl] at h <;> cases h <;> exact ⟨rfl, rfl⟩
  | accepted m other =>
      cases h
      exact ⟨rfl, rfl⟩
  | request m other =>
      cases hc : t.connections[m]? with
      | none =>
          simp only [Transport.step, hc] at h
          cases h
          exact ⟨rfl, rfl⟩
      | some c =>
          simp only [Transport.step, hc] at h
          cases htakes : c.takes with
          | true =>
              rw [submit_of_takes htakes] at h
              cases h
              exact (hrefused rfl).elim
          | false =>
              rw [submit_of_busy htakes] at h
              cases h
              exact ⟨modify_self hc, rfl⟩
  | replace _ | silence _ _ | cancel _ _ | drain _ _ | start _ | beforeDisconnect | want _
  | wanted _ | giveUp _ | disconnect _ | unwant _ => cases hp

end Transport

namespace Transports

variable {w w' : Transports} {s : SessionId} {c : SessionCall} {answer : Option Answer}
  {reports : List Report}

/-- The phase that is due, if one is, is about a request. -/
def Requesting (u : Option (Phase Nat)) : Prop := ∀ p, u = some p → p.request?.isSome

/-- **A step of a call for a request** changes nothing but what is due, and reports nothing, unless
the client takes the request. -/
theorem refused_steps (hdue : w.Due s c) (hrequesting : Requesting w.underway)
    (hc : c.ackId?.isSome) (hsteps : Steps w s c answer reports w')
    (hrefused : answer ≠ some (.returned (.ok ()))) :
    reports = [] ∧ (∃ u, w' = { w with underway := u } ∧ Requesting u) ∧
      ∀ a, answer = some a → w'.underway = none ∧ ∃ f, (f = .notConnected ∨ f = .request .full) ∧
        a = .returned (.error (.ofTransport f)) := by
  cases hsteps with
  | missing hnone =>
      have hidle : w.underway = none := by
        cases hu : w.underway with
        | none => rfl
        | some p =>
            have hthere := (hdue p hu).2
            rw [hnone] at hthere
            cases hthere
      refine ⟨rfl, ⟨w.underway, rfl, hrequesting⟩, ?_⟩
      rintro a ⟨⟩
      exact ⟨hidle, _, .inl rfl, rfl⟩
  | @phase t t₀ t' p told progress hs hbegun hstep =>
      have hstart : t₀ = t ∧ p.request?.isSome := by
        rcases hbegun with ⟨hu, rfl⟩ | ⟨hu, hbegin⟩
        · exact ⟨rfl, hrequesting p hu⟩
        · cases c <;> cases hc <;> cases hbegin <;> exact ⟨rfl, rfl⟩
      obtain ⟨rfl, hp⟩ := hstart
      obtain ⟨r, hr⟩ := Option.isSome_iff_exists.mp hp
      obtain ⟨rfl, rfl⟩ := step_of_request hr hstep fun he => hrefused (by rw [he]; rfl)
      rw [set_self hs]
      refine ⟨rfl, ⟨progress.phase?, rfl, fun q hq => ?_⟩, fun a ha => ?_⟩
      · cases progress with
        | more next =>
            cases hq
            rw [request?_step hstep rfl]
            exact hp
        | done outcome => cases hq
      · rcases request_step hr hstep with ⟨-, q, rfl⟩ | ⟨rfl | rfl, -⟩ | rfl
        · cases ha
        · cases ha
          exact ⟨rfl, _, .inl rfl, rfl⟩
        · cases ha
          exact ⟨rfl, _, .inr rfl, rfl⟩
        · exact (hrefused rfl).elim

/-- What happens in the world by itself has nothing to do with what is due. -/
lemma stir_due (w : Transports) (u : Option (Phase Nat)) (e : Stirring) :
    ({ w with underway := u } : Transports).stir e
      = (w.stir e).map fun r => (r.1, { r.2 with underway := u }) := by
  cases e with
  | drive maker turn =>
      simp only [stir, drive]
      cases w.sessions[maker.session]? with
      | none => rfl
      | some t =>
          simp only [Option.map_map]
          rfl
  | room maker room =>
      simp only [stir, Option.map_map]
      rfl

end Transports

/-- An operation on the connection calls no session for a request. -/
lemma Stage.Supersedes.ne_requesting {s t : Stage κ} {aim : Aim} {op : Operation κ}
    {left : List (Operation κ)} {n : Next κ} (h : s.Supersedes aim op left t n) {ask : Ask κ}
    {id : Nat} : n ≠ .ask ask (.requesting id) := by
  rcases h with (_ | _ | _) | _ <;> rintro ⟨⟩

namespace Link

variable {l l' : Link κ Transports} {g : Endings κ} {id : Nat}

/-! ## What others see -/

/-- **A link with another stage, and another phase due**, which others do not look at. -/
def aside (l : Link κ Transports) (a : Activity κ) (u : Option (Phase Nat)) (log : List LogRecord) :
    Link κ Transports :=
  { l with activity := a, world := { l.world with underway := u }, log }

/-- **Others do there what they do without**, and write down the same. -/
lemma does_aside {incident : Incident κ Stirring} (hothers : incident.byOthers)
    (l : Link κ Transports) (a : Activity κ) (u : Option (Phase Nat)) (log : List LogRecord) :
    ∃ log', (l.aside a u log).does Transports.world incident
      = (l.does Transports.world incident).map (·.aside a u log') := by
  cases incident with
  | happening happening =>
      cases happening with
      | submit caller request callback =>
          obtain ⟨lines, heq⟩ := l.exists_submit_eq_offer caller request callback
          obtain ⟨lines', heq'⟩ :=
            (l.aside a u log).exists_submit_eq_offer caller request callback
          refine ⟨lines', ?_⟩
          simp only [does, happens, heq, heq', Option.map_some]
          rfl
      | stir e =>
          refine ⟨log, ?_⟩
          have hstir : Transports.world.stir (l.aside a u log).world e = (l.world.stir e).map
              fun r => (r.1, { r.2 with underway := u }) := l.world.stir_due u e
          simp only [does, happens, hstir, Option.map_map]
          refine congrFun (congrArg _ (funext fun r => ?_)) _
          simp only [Function.comp_apply, happen_eq_offer]
          rfl
      | work => cases hothers
      | beginUser =>
          simp only [does, happens, beginUser, aside]
          cases l.user with
          | some c => exact ⟨log, rfl⟩
          | none =>
              simp only
              cases l.outbox.turn with
              | none => exact ⟨log, rfl⟩
              | job c rest => exact ⟨log, rfl⟩
              | stop rest => exact ⟨_, rfl⟩
              | exit dropped rest => exact ⟨log, rfl⟩
      | endUser panic =>
          simp only [does, happens, aside]
          cases hu : l.user with
          | none => exact ⟨log, rfl⟩
          | some c =>
              cases panic with
              | none =>
                  refine ⟨log, ?_⟩
                  simp only [Option.map_some, endUser, hu]
              | some message =>
                  refine ⟨log ++ [⟨.unhandled, some .callback,
                    .error (Unhandled.line (c.panicked message))⟩], ?_⟩
                  simp only [Option.map_some, endUser, hu]
                  rfl
      | handle kept => exact ⟨log, rfl⟩
  | shutdown worker s =>
      simp only [does, aside]
      cases s with
      | abandon =>
          refine ⟨log, ?_⟩
          simp only [shutdownStep, send_eq_offer]
          rfl
      | stop todo =>
          cases todo with
          | nil => exact ⟨log, rfl⟩
          | cons c todo =>
              have hjoinable : ({ l with
                  activity := a, world := { l.world with underway := u }, log } :
                  Link κ Transports).joinable c = l.joinable c := by cases c <;> rfl
              simp only [shutdownStep, hjoinable]
              split
              · exact ⟨log, by cases c <;> rfl⟩
              · split
                · exact ⟨log ++ [⟨.dispatch, worker, ownStopLine c⟩], by cases c <;> rfl⟩
                · exact ⟨log, by cases c <;> rfl⟩
      | join c todo =>
          have hphase : ({ l with activity := a, world := { l.world with underway := u }, log } :
              Link κ Transports).phase c = l.phase c := by cases c <;> rfl
          simp only [shutdownStep, hphase]
          cases l.phase c with
          | exited => exact ⟨log ++ [⟨.dispatch, worker, joinedLine c⟩], rfl⟩
          | running | stopped => exact ⟨log, rfl⟩

lemma note_aside {incident : Incident κ Stirring} (hothers : incident.byOthers)
    (l next : Link κ Transports) (a : Activity κ) (u : Option (Phase Nat))
    (log log' : List LogRecord) (g : Endings κ) :
    Endings.note incident (l.aside a u log) (next.aside a u log') g
      = Endings.note incident l next g := by
  cases incident with
  | happening happening =>
      cases happening with
      | stir e =>
          have hstir : (l.aside a u log).world.stir e = (l.world.stir e).map
              fun r => (r.1, { r.2 with underway := u }) := l.world.stir_due u e
          simp only [Endings.note, hstir, Option.map_map]
          rfl
      | work => cases hothers
      | submit _ _ _ | beginUser | endUser _ | handle _ => rfl
  | shutdown worker s => rfl

/-! ## The operation is taken -/

/-- The stage while a session is called for an operation. -/
def calling (a : Activity κ) (op : Operation κ) (s : SessionId) (c : SessionCall) : Activity κ :=
  ⟨{ a.stage.await op with entered := true }, [(.call s c, .requesting op.id)]⟩

/-- What can be seen of the stage is only written down. -/
lemma exists_notice_lines (M : SessionModel Transports) {traces : List (Trace κ)}
    (h : ∀ trace ∈ traces, (∃ line, trace = .log line) ∨ ∃ ask, trace = .ask ask)
    (l : Link κ Transports) : ∃ log, traces.foldl (notice M) l = { l with log } := by
  induction traces generalizing l with
  | nil => exact ⟨l.log, rfl⟩
  | cons trace rest ih =>
      have hrest := fun trace ht => h trace (List.mem_cons_of_mem _ ht)
      rcases h trace List.mem_cons_self with ⟨line, rfl⟩ | ⟨ask, rfl⟩
      · exact ih hrest (l.notice M (.log line))
      · exact ih hrest l

/-- An operation for which a session is called waits under its number, and everything else is as it
was. -/
lemma step_of_asking {a a' : Activity κ} {traces : List (Trace κ)} (hfree : a.levels = [])
    {op : Operation κ} (hs : a.step (.enter (.on .pipeline) op) = some (a', traces))
    {s : SessionId} {c : SessionCall} {k : Nat}
    (hlevels : a'.levels = [(.call s c, .requesting k)]) :
    a' = calling a op s c ∧ c.ackId? = some op.id ∧
      ∀ trace ∈ traces, (∃ line, trace = .log line) ∨ ∃ ask, trace = .ask ask := by
  have hsettle : Activity.settle [] (a.stage.run (.on .pipeline) op) = (a', traces) := by
    rw [← hfree]
    exact Option.some.inj hs
  have hdoes : (a.stage.run (.on .pipeline) op).Does a.stage none
      (.enter (.on .pipeline) op) := Stage.does_run _
  generalize a.stage.run (.on .pipeline) op = t at hsettle hdoes
  obtain ⟨stage, lines, next⟩ := t
  have hmem : (Ask.call s c, Frame.requesting k)
      ∈ (Activity.settle [] (⟨stage, lines, next⟩ : Turn κ)).1.levels := by
    rw [hsettle, hlevels]
    exact List.mem_singleton_self _
  obtain rfl : next = .ask (.call s c) (.requesting k) := Activity.mem_levels_settle.mp hmem
  cases hsettle
  obtain ⟨hquiet, hdeed⟩ := hdoes
  generalize hspilt : Turn.spilt _ = spilt at hdeed
  cases hdeed with
  | turns hr h => exact (h.ne_requesting rfl).elim
  | @asks _ _ kind _ _ hk hc hsome =>
      refine ⟨rfl, by cases c <;> cases hc <;> rfl, fun trace ht => ?_⟩
      rcases List.mem_append.mp ht with ht | ht
      · have hremarks := List.all_eq_true.mp hquiet trace ht
        cases trace with
        | log line => exact .inl ⟨line, rfl⟩
        | unhandled f =>
            have hmem : f ∈ Turn.spilt (κ := κ) ⟨_, lines, _⟩ :=
              List.mem_filterMap.mpr ⟨_, ht, rfl⟩
            rw [hspilt] at hmem
            cases hmem
        | ask _ | gone _ | panic _ => cases hremarks
      · cases List.mem_singleton.mp ht
        exact .inr ⟨_, rfl⟩

/-- **An operation for which a session was called in vain** is over at once, and the stage is as it
was before. -/
lemma step_of_refused {a : Activity κ} (hoff : a.stage.entered = false) {op : Operation κ}
    (hfree : ∀ p ∈ a.stage.awaitingAck, p.1 ≠ op.id) (s : SessionId) (c : SessionCall)
    (f : Failure) :
    (calling a op s c).step (.answered (.error f))
      = some (⟨a.stage, [(.chain (.complete (op.fail f)), .last)]⟩,
        [.log (.warn (a.stage.about op s!"failed to start: {f.display}")),
          .ask (.chain (.complete (op.fail f)))]) := by
  have hkeep : a.stage.awaitingAck.filter (·.1 ≠ op.id) = a.stage.awaitingAck :=
    List.filter_eq_self.mpr fun p hp => decide_eq_true (hfree p hp)
  obtain ⟨stage, levels⟩ := a
  obtain ⟨name, args, credential, session, connect, disconnect, awaiting, entered⟩ := stage
  cases (hoff : entered = false)
  have hwaits : (awaiting ++ [(op.id, op)]).lookup op.id = some op := by
    have hnone : awaiting.lookup op.id = none :=
      List.lookup_eq_none_iff.mpr fun p hp => by simpa using Ne.symm (hfree p hp)
    rw [List.lookup_append, hnone]
    simp
  have hback : (awaiting ++ [(op.id, op)]).filter (·.1 ≠ op.id) = awaiting := by
    rw [List.filter_append, hkeep]
    simp
  simp only [calling, Stage.await, Stage.forget, hkeep, Activity.step, Stage.answered,
    Stage.awaiting?, hwaits, Option.map_some, hback]
  rfl

/-! ## While a session is called for it -/

/-- A session is called for an operation only in the course of one call. -/
lemma tasks_requesting (hsound : l.Sound) (hgone : ¬ l.Waits id) (ht : Tasks Transports.model l l')
    (hsound' : l'.Sound) {s : SessionId} {c : SessionCall}
    (hlevels : l'.activity.levels = [(.call s c, .requesting id)]) :
    ∃ reports world, l.activity = l'.activity ∧
      Transports.model.step l.world s c = (none, reports, world) ∧
        l' = { l with world, inbox := l.inbox.put (reports.map Job.report) } := by
  have hid : c.ackId? = some id :=
    hsound'.single.orderly.fits _ (Activity.mem_of_levels hlevels)
  have hasked := Activity.asked?_of_levels hlevels
  have hnobody : ∀ {m : Move κ} {a : Activity κ} {traces : List (Trace κ)},
      l.activity.Driven m → l.activity.step m = some (a, traces) → a.asked? = some (.call s c) →
      (∀ op ∈ m.brings, op ∈ l.queued) → False := by
    intro m a traces hm hs hasked hbrings
    obtain ⟨op, hop, he⟩ := hsound.single.ackId?_step hm hs hasked hid
    exact hgone ⟨op, hbrings op hop, he⟩
  cases ht with
  | chain hl hstep log sink | release hl hstep log sink =>
      exact (hnobody (m := .proceed) (.inl trivial) hstep hasked (List.forall_mem_nil _)).elim
  | create hl hstep log sink =>
      exact (hnobody (m := .created _) (.inl trivial) hstep hasked (List.forall_mem_nil _)).elim
  | answer hl hcall hstep log sink =>
      refine (hnobody (byWorker_ended _ hl).driven hstep hasked ?_).elim
      rw [brings_ended]
      exact List.forall_mem_nil _
  | job hl hphase hqueue hstep log sink =>
      refine (hnobody (driven_start hl _) hstep hasked fun op hop => ?_).elim
      rw [queued_of_job hqueue]
      exact List.mem_append_left _ hop
  | @call session call frame reports world hl hcall =>
      cases hl.symm.trans hlevels
      exact ⟨reports, world, rfl, hcall, rfl⟩
  | leave hl hleaves log => cases hl.symm.trans hlevels

/-- The shape is kept by any run. -/
lemma shape_attend {γ : Type}
    (note : Incident κ Stirring → Link κ Transports → Link κ Transports → γ → γ) (g : γ)
    (hsound : l.Sound) (hwired : l.Wired) (incidents : List (Incident κ Stirring)) :
    (attend Transports.world note (l, g) incidents).1.Sound ∧
      (attend Transports.world note (l, g) incidents).1.Wired := by
  refine runWith_induction (fun (l : Link κ Transports) (_ : γ) => l.Sound ∧ l.Wired) ?_
    ⟨hsound, hwired⟩
  exact fun _ _ _ _ _ h hn => ⟨h.1.does hn, h.2.does h.1 hn⟩

/-- Whatever others do is nothing to the stage, and to a number that nobody knows. -/
lemma others_attend (hstrange : l.world.Strange id) (htold : id ∉ g.told)
    {incidents : List (Incident κ Stirring)} (hothers : ∀ i ∈ incidents, i.byOthers) :
    let p := attend Transports.world Endings.note (l, g) incidents
    p.1.activity = l.activity ∧ p.1.world.underway = l.world.underway ∧ p.1.world.Strange id ∧
      id ∉ p.2.told ∧ p.2.completed = g.completed := by
  refine runWith_induction (fun (m : Link κ Transports) (h : Endings κ) =>
    m.activity = l.activity ∧ m.world.underway = l.world.underway ∧ m.world.Strange id ∧
      id ∉ h.told ∧ h.completed = g.completed) ?_ ⟨rfl, rfl, hstrange, htold, rfl⟩
  rintro i hi m h next ⟨ha, hu, hs, ht, hc⟩ hn
  obtain ⟨ha', hu'⟩ := others_keep (hothers i hi) hn
  obtain ⟨hs', ht', hc'⟩ := others_does (hothers i hi) hn hs ht
  exact ⟨ha'.trans ha, hu'.trans hu, hs', ht', hc'.trans hc⟩

/-- A step of the worker that reports nothing and completes nobody is not recorded. -/
lemma note_work (hreports : Endings.reportsOf l = []) (hover : Endings.over? l' = none) :
    Endings.note (.happening .work) l l' g = g := by
  rw [Endings.note, hreports, hover, Endings.hear_nil, Endings.complete_none]

lemma queue_of_turn {job : Job κ} {rest : Mailbox (Job κ)} (hjob : l.inbox.turn = .job job rest) :
    ∃ left, l.inbox.queue = .run job :: left ∧ rest = { l.inbox with queue := left } := by
  rcases l.inbox.turn_cases with
    hturn | ⟨other, left, -, hqueue, hturn⟩ | ⟨left, hturn | ⟨_, hturn⟩⟩ <;>
    cases hturn.symm.trans hjob
  exact ⟨left, hqueue, rfl⟩

/-- An operation that the worker takes waits no longer. -/
lemma not_waits_of_taken (hsound : l.Sound) (hfree : l.activity.levels = []) {op : Operation κ}
    {rest : Mailbox (Job κ)} (hjob : l.inbox.turn = .job (.run op) rest)
    (hs : l.does Transports.world (.happening .work) = some l') :
    op.id < l'.nextId ∧ ¬ l'.Waits op.id := by
  obtain ⟨left, hqueue, rfl⟩ := queue_of_turn hjob
  have hqueued := queued_of_job hqueue
  have hknown : op.id < l.nextId := hsound.known op (by
    rw [hqueued]
    exact List.mem_append_left _ (List.mem_append_left _ (List.mem_singleton_self op)))
  refine ⟨hknown.trans_le (waits_does hsound hs).2, ?_⟩
  cases hsound.tasks hs with
  | job hl hphase hqueue' hstep log sink =>
      cases hqueue.symm.trans hqueue'
      rintro ⟨other, hother, hid⟩
      have hdistinct : (l.queued.map Operation.id).Nodup :=
        ((List.sublist_append_left _ _).map _).nodup hsound.distinct
      rw [hqueued, List.map_append] at hdistinct
      exact (List.nodup_append.mp hdistinct).2.2 op.id (List.mem_singleton_self _) other.id
        (List.mem_map_of_mem hother) hid.symm
  | leave hl hleaves log =>
      rcases hleaves with hturn | ⟨_, hturn⟩ <;> cases hturn.symm.trans hjob
  | chain hl | create hl | call hl | answer hl | release hl => cases hfree.symm.trans hl

/-- A job that waits first is taken. -/
lemma exists_taken (hfree : l.activity.levels = []) {job : Job κ} {rest : Mailbox (Job κ)}
    (hjob : l.inbox.turn = .job job rest) :
    ∃ next, l.does Transports.world (.happening .work) = some next := by
  refine ⟨move Transports.model { l with inbox := rest } (start job), ?_⟩
  simp only [does, happens, pipelineStep, Activity.asked?_of_nil hfree, hjob]
  rfl

/-- An operation that the worker has taken never waits again. -/
lemma not_waits_attend {γ : Type}
    (note : Incident κ Stirring → Link κ Transports → Link κ Transports → γ → γ) (g : γ)
    (hsound : l.Sound) (hfree : l.activity.levels = []) {op : Operation κ}
    {rest : Mailbox (Job κ)} (hjob : l.inbox.turn = .job (.run op) rest)
    (incidents : List (Incident κ Stirring)) :
    let p := attend Transports.world note (l, g) (.happening .work :: incidents)
    op.id < p.1.nextId ∧ ¬ p.1.Waits op.id := by
  obtain ⟨next, hnext⟩ := exists_taken hfree hjob
  obtain ⟨hold, hgone⟩ := not_waits_of_taken hsound hfree hjob hnext
  rw [attend, runWith_cons_of_some hnext]
  refine (runWith_induction_of_kept (S := Sound) ?_ (fun l _ => op.id < l.nextId ∧ ¬ l.Waits op.id)
    ?_ (hsound.does hnext) ⟨hold, hgone⟩ incidents).2
  · exact fun _ _ _ hl hn => hl.does hn
  · exact fun _ _ _ _ hl hg hn => not_waits_does hl hn hg.1 hg.2

/-- The worker takes an operation, and calls a session for it: nothing else of the link changes. -/
lemma taken_does (hsound : l.Sound) (hwired : l.Wired) (hfree : l.activity.levels = [])
    {op : Operation κ} {rest : Mailbox (Job κ)} (hjob : l.inbox.turn = .job (.run op) rest)
    (hs : l.does Transports.world (.happening .work) = some l') {s : SessionId} {c : SessionCall}
    (hlevels : l'.activity.levels = [(.call s c, .requesting op.id)]) :
    c.ackId? = some op.id ∧ ∃ log,
      l' = aside { l with inbox := rest } (calling l.activity op s c) none log := by
  obtain ⟨left, hqueue, -⟩ := queue_of_turn hjob
  obtain ⟨⟨a, traces⟩, ha⟩ : ∃ r, l.activity.step (start (.run op)) = some r := ⟨_, rfl⟩
  have hnext : l' = move Transports.model { l with inbox := rest } (start (.run op)) := by
    have hstep : l.pipelineStep Transports.model = some l' := hs
    rw [pipelineStep, Activity.asked?_of_nil hfree] at hstep
    simp only [hjob] at hstep
    exact (Option.some.inj hstep).symm
  obtain ⟨_, _, hmove⟩ := exists_move_eq Transports.model (l := { l with inbox := rest })
    hsound.single (driven_start hfree (.run op)) (hsound.fresh_start hqueue) ha
  rw [hnext, hmove] at hlevels
  obtain ⟨rfl, hid, hlines⟩ := step_of_asking hfree ha hlevels
  obtain ⟨log, hlog⟩ := exists_notice_lines Transports.model hlines
    { l with inbox := rest, activity := calling l.activity op s c }
  have hidle : ({ l.world with underway := none } : Transports) = l.world := by
    rw [← hwired.idle_of_nil hfree]
  refine ⟨hid, log, ?_⟩
  rw [hnext, move]
  simp only [ha]
  rw [hlog, aside, hidle]

/-- **While a session is called for an operation**, nothing but the stage, and what is due, is other
than it would be without the operation; and the record is the same. -/
theorem tried_attend (hsound : l.Sound) (hwired : l.Wired) (hfree : l.activity.levels = [])
    {op : Operation κ} {rest : Mailbox (Job κ)} (hjob : l.inbox.turn = .job (.run op) rest)
    (during : List (Incident κ Stirring)) {s : SessionId} {c : SessionCall}
    (hlevels : (attend Transports.world Endings.note (l, g)
      (.happening .work :: during)).1.activity.levels = [(.call s c, .requesting op.id)]) :
    let without := attend Transports.world Endings.note ({ l with inbox := rest }, g)
      (during.filter Incident.byOthers)
    c.ackId? = some op.id ∧
      ∃ u log, Transports.Requesting u ∧
        attend Transports.world Endings.note (l, g) (.happening .work :: during)
          = (without.1.aside (calling l.activity op s c) u log, without.2) := by
  induction during using List.reverseRecOn with
  | nil =>
      obtain ⟨l₁, hl₁⟩ := exists_taken hfree hjob
      rw [attend_one hl₁] at hlevels ⊢
      obtain ⟨hid, log, heq⟩ := taken_does hsound hwired hfree hjob hl₁ hlevels
      refine ⟨hid, none, log, by rintro p ⟨⟩, Prod.ext heq (note_work ?_ ?_)⟩
      · rw [Endings.reportsOf, Activity.asked?_of_nil hfree]
      · have hasked : l₁.activity.asked? = _ := Activity.asked?_of_levels hlevels
        rw [Endings.over?, hasked]
  | append_singleton during i ih =>
      rw [← List.cons_append, attend_append] at hlevels ⊢
      rw [List.filter_append, attend_append]
      obtain ⟨hsoundₚ, hwiredₚ⟩ := shape_attend Endings.note g hsound hwired
        (.happening .work :: during)
      obtain ⟨-, hgoneₚ⟩ := not_waits_attend Endings.note g hsound hfree hjob during
      generalize attend Transports.world Endings.note (l, g) (.happening .work :: during) = p at *
      generalize attend Transports.world Endings.note ({ l with inbox := rest }, g)
        (during.filter Incident.byOthers) = q at *
      obtain ⟨m, h⟩ := p
      obtain ⟨m', h'⟩ := q
      cases hothers : i.byOthers with
      | true =>
          rw [List.filter_cons_of_pos hothers, List.filter_nil]
          cases hn : m.does Transports.world i with
          | none =>
              rw [attend_none hn] at hlevels ⊢
              obtain ⟨hid, u, log, hu, heq⟩ := ih hlevels
              cases heq
              obtain ⟨log', hdoes⟩ := does_aside hothers m' (calling l.activity op s c) u log
              rw [hn] at hdoes
              rw [attend_none (Option.map_eq_none_iff.mp hdoes.symm)]
              exact ⟨hid, u, log, hu, rfl⟩
          | some next =>
              rw [attend_one hn] at hlevels ⊢
              obtain ⟨hid, u, log, hu, heq⟩ := ih ((others_keep hothers hn).1 ▸ hlevels)
              cases heq
              obtain ⟨log', hdoes⟩ := does_aside hothers m' (calling l.activity op s c) u log
              rw [hn] at hdoes
              obtain ⟨next', hnext', rfl⟩ := Option.map_eq_some_iff.mp hdoes.symm
              rw [attend_one hnext']
              exact ⟨hid, u, log', hu, Prod.ext rfl (note_aside hothers m' next' _ u log log' h')⟩
      | false =>
          obtain rfl : i = .happening .work := by
            rcases i with (_ | _ | _ | _ | _) | _ <;> cases hothers
            rfl
          rw [List.filter_cons_of_neg (by simp [hothers]), List.filter_nil]
          cases hn : m.does Transports.world (.happening .work) with
          | none =>
              rw [attend_none hn] at hlevels ⊢
              exact ih hlevels
          | some next =>
              rw [attend_one hn] at hlevels ⊢
              obtain ⟨reports, w, ha, hcall, rfl⟩ :=
                tasks_requesting hsoundₚ hgoneₚ (hsoundₚ.tasks hn) (hsoundₚ.does hn) hlevels
              obtain ⟨hid, u, log, hu, heq⟩ := ih hlevels
              cases heq
              obtain ⟨rfl, ⟨u', rfl, hu'⟩, -⟩ := Transports.refused_steps
                (hwiredₚ.due hlevels) hu (Option.isSome_of_eq_some hid)
                (Transports.steps_of_step hcall) (by rintro ⟨⟩)
              have hasked := Activity.asked?_of_levels hlevels
              refine ⟨hid, u', log, hu', Prod.ext ?_ (note_work ?_ ?_)⟩
              · rw [List.map_nil, Mailbox.put_nil]
                rfl
              · rw [Endings.reportsOf, hasked]
                exact congrArg (·.2.1) hcall
              · rw [Endings.over?]
                exact hasked ▸ rfl

/-! ## After the refusal -/

/-- The session refuses the request: the operation is over at once, and the stage is as it was. -/
lemma refused_does {a : Activity κ} {op : Operation κ} {s : SessionId} {c : SessionCall}
    (ha : l.activity = calling a op s c) (hoff : a.stage.entered = false)
    (hfree : ∀ p ∈ a.stage.awaitingAck, p.1 ≠ op.id) {f : Failure} {w : Transports}
    (hcall : Transports.model.step l.world s c = (some (.returned (.error f)), [], w)) :
    ∃ log, l.does Transports.world (.happening .work) = some { l with
      activity := ⟨a.stage, [(.chain (.complete (op.fail f)), .last)]⟩, world := w, log } := by
  have hlines : ∀ trace ∈ [.log (.warn (a.stage.about op s!"failed to start: {f.display}")),
      .ask (.chain (.complete (op.fail f)))],
      (∃ line, trace = Trace.log line) ∨ ∃ ask, trace = .ask ask := by
    intro trace ht
    rcases List.mem_cons.mp ht with rfl | ht
    · exact .inl ⟨_, rfl⟩
    · exact .inr ⟨_, List.mem_singleton.mp ht⟩
  obtain ⟨log, hlog⟩ := exists_notice_lines Transports.model hlines
    { l with activity := ⟨a.stage, [(.chain (.complete (op.fail f)), .last)]⟩, world := w }
  refine ⟨log, ?_⟩
  rw [← hlog]
  have hasked : l.activity.asked? = some (.call s c) := by rw [ha]; rfl
  simp only [does, happens, pipelineStep, hasked, answer, hcall, happen, Transports.world,
    List.foldl_nil, Option.map_some]
  rw [move]
  simp only [ended, ha, step_of_refused hoff hfree s c f]

/-- **An operation that was refused** is completed, once; it waits nowhere, and nobody knows it, but
for the chain that it is handed to. -/
structure Parted (l : Link κ Transports) (g : Endings κ) (op : Operation κ) : Prop where
  old : op.id < l.nextId
  gone : ¬ l.Waits op.id
  once : g.ofId op.id = [op]
  place : l.Unmet g op.id ∨
    l.activity.levels = [(.chain (.complete op), .last)] ∧
      (∀ other ∈ l.activity.stage.pending, other.id ≠ op.id) ∧ l.world.Strange op.id ∧
        op.id ∉ g.told

lemma Parted.strange {op : Operation κ} (h : l.Parted g op) :
    l.world.Strange op.id ∧ op.id ∉ g.told := by
  rcases h.place with hunmet | ⟨-, -, hstrange, htold⟩
  · exact ⟨hunmet.strange, hunmet.told⟩
  · exact ⟨hstrange, htold⟩

/-- **Everything that happens** leaves an operation that was refused as it is. -/
theorem Parted.does {op : Operation κ} (h : l.Parted g op) (hsound : l.Sound)
    {incident : Incident κ Stirring} (hs : l.does Transports.world incident = some l') :
    l'.Parted (Endings.note incident l l' g) op := by
  obtain ⟨hold, hgone⟩ := not_waits_does hsound hs h.old h.gone
  rcases h.place with hunmet | ⟨hlevels, hpending, hstrange, htold⟩
  · obtain ⟨hunmet', hsame⟩ := hunmet.does hsound hs fun hw => (h.gone hw).elim
    exact ⟨hold, hgone, hsame.trans h.once, .inl hunmet'⟩
  · cases hothers : incident.byOthers with
    | true =>
        obtain ⟨ha, -⟩ := others_keep hothers hs
        obtain ⟨hstrange', htold', hcompleted⟩ := others_does hothers hs hstrange htold
        refine ⟨hold, hgone, ?_, .inr ⟨ha ▸ hlevels, ha ▸ hpending, hstrange', htold'⟩⟩
        rw [Endings.ofId, hcompleted]
        exact h.once
    | false =>
        rcases incident with (_ | _ | _ | _ | _) | _ <;> cases hothers
        cases hsound.tasks hs with
        | @chain call frame a traces hl hstep log sink =>
            cases hlevels.symm.trans hl
            -- the chain takes what is over, and the stage is done
            obtain rfl : a = ⟨l.activity.stage, []⟩ := by
              rw [Activity.step, hlevels] at hstep
              cases hstep
              rfl
            have hnote : ∀ next : Link κ Transports, next.activity.levels = [] →
                Endings.note (.happening .work) l next g = g := by
              intro next hnext
              refine note_work ?_ ?_
              · rw [Endings.reportsOf, Activity.asked?_of_levels hlevels]
              · rw [Endings.over?, Activity.asked?_of_nil hnext]
            rw [hnote _ rfl]
            refine ⟨hold, hgone, h.once, .inl ⟨hpending, ?_, hstrange, htold⟩⟩
            rintro s c ⟨⟩
        | create hl | call hl | answer hl | release hl | job hl | leave hl =>
            cases hlevels.symm.trans hl

lemma parted_attend {op : Operation κ} (hsound : l.Sound) (h : l.Parted g op)
    (incidents : List (Incident κ Stirring)) :
    let last := attend Transports.world Endings.note (l, g) incidents
    last.2.ofId op.id = [op] ∧ op.id ∉ last.2.told ∧ last.1.world.Strange op.id := by
  have hlast : (attend Transports.world Endings.note (l, g) incidents).1.Parted
      (attend Transports.world Endings.note (l, g) incidents).2 op :=
    (runWith_induction_of_kept (fun _ _ _ hl hn => hl.does hn) (fun l g => l.Parted g op)
      (fun _ _ _ _ hl hg hn => hg.does hl hn) hsound h incidents).2
  exact ⟨hlast.once, hlast.strange.2, hlast.strange.1⟩

/-- **The session refuses the request**, and nothing but the end of the operation is left of it. -/
theorem parted_of_refused {op : Operation κ} (horderly : l.activity.Orderly)
    (hfree : l.activity.levels = []) (hunmet : l.Unmet g op.id) (hnone : g.ofId op.id = [])
    (hidle : l.world.underway = none) {s : SessionId} {c : SessionCall}
    {u : Option (Transport.Phase Nat)} {log : List LogRecord}
    (hthere : l' = l.aside (calling l.activity op s c) u log) (hsound : l'.Sound)
    (hwired : l'.Wired) (hgone : op.id < l'.nextId ∧ ¬ l'.Waits op.id)
    (hid : c.ackId? = some op.id) (hrequesting : Transports.Requesting u) {answer : Answer}
    {reports : List Report} {w : Transports}
    (hanswer : Transports.model.step l'.world s c = (some answer, reports, w))
    (hrefused : answer ≠ .returned (.ok ())) :
    ∃ f, (f = Failure.ofTransport .notConnected ∨ f = Failure.ofTransport (.request .full)) ∧
      answer = .returned (.error f) ∧ reports = [] ∧ w = l.world ∧
      ∃ next log, l'.does Transports.world (.happening .work) = some next ∧
        next = { l with
          activity := ⟨l.activity.stage, [(.chain (.complete (op.fail f)), .last)]⟩, log } ∧
        next.Sound ∧ next.Parted (Endings.note (.happening .work) l' next g) (op.fail f) := by
  have hpending : ∀ other ∈ l.activity.stage.pending, other.id ≠ op.id :=
    fun other hother => hunmet.held other (List.mem_append_right _ hother)
  have hunfiled : ∀ p ∈ l.activity.stage.awaitingAck, p.1 ≠ op.id := by
    intro p hp he
    refine hpending p.2 (List.mem_append_right _ (List.mem_map_of_mem hp)) ?_
    exact (horderly.filed.own p hp).symm.trans he
  have hoff : l.activity.stage.entered = false := by
    rw [horderly.cell, hfree]
    rfl
  have hlevels : l'.activity.levels = [(.call s c, .requesting op.id)] := by rw [hthere]; rfl
  -- the last phase of the call changes nothing
  obtain ⟨rfl, ⟨u', hw, -⟩, hended⟩ := Transports.refused_steps (hwired.due hlevels)
    (by rw [hthere]; exact hrequesting) (Option.isSome_of_eq_some hid)
    (Transports.steps_of_step hanswer) fun he => hrefused (Option.some.inj he)
  obtain ⟨hnothing, fault, hfault, rfl⟩ := hended answer rfl
  obtain rfl : w = l.world := by
    cases hw
    cases (hnothing : u' = none)
    rw [hthere, aside, ← hidle]
  have hsame : l'.activity = calling l.activity op s c := by rw [hthere]; rfl
  obtain ⟨log', hdoes⟩ := refused_does hsame hoff hunfiled hanswer
  obtain ⟨hold, hgone⟩ := not_waits_does hsound hdoes hgone.1 hgone.2
  have hnext := hsound.does hdoes
  generalize hn : ({ l' with
    activity := ⟨l.activity.stage, [(.chain (.complete (op.fail (.ofTransport fault))), .last)]⟩
    world := l.world, log := log' } : Link κ Transports) = next at *
  have hnote : Endings.note (.happening .work) l' next g
      = g.complete (some (op.fail (.ofTransport fault))) := by
    have hreports : Endings.reportsOf l' = [] := by
      rw [Endings.reportsOf, Activity.asked?_of_levels hlevels]
      exact congrArg (·.2.1) hanswer
    rw [Endings.note, hreports, Endings.hear_nil, ← hn]
    rfl
  refine ⟨.ofTransport fault, hfault.imp (congrArg _) (congrArg _), rfl, rfl, rfl, next, log',
    hdoes, ?_, hnext, hold, hgone, ?_, .inr ⟨by rw [← hn], by rw [← hn]; exact hpending, ?_, ?_⟩⟩
  · rw [← hn, hthere]
    rfl
  · rw [hnote, Endings.ofId_complete_self]
    exact congrArg (· ++ _) hnone
  · rw [← hn]
    exact hunmet.strange
  · rw [hnote]
    exact hunmet.told

/-- **A request that is refused leaves no trace.**  Wherever a run of a link is, and whatever others
do while the session is called for it: the reason is that there is no connection or that the client
has no room, and the link, with the record of what was completed and reported, is as it would be had
the operation not been there, but for the operation, which is handed to the chain at once with that
error.  It is completed only then, and no session ever knows its number.  All requests that are
taken, before and after, are answered by their own packets. -/
theorem refused_leaves_nothing {config : PipelineConfig} {listens : Bool}
    {transport : TransportConfig} {files : Config.Files}
    (hbuild : Link.build config listens (some { config := transport, files }) = .ok l)
    (before during : List (Incident κ Stirring)) {here there : Link κ Transports × Endings κ}
    (hbefore : attend Transports.world Endings.note (l, {}) before = here)
    (hfree : here.1.activity.levels = []) {op : Operation κ} {rest : Mailbox (Job κ)}
    (hjob : here.1.inbox.turn = .job (.run op) rest)
    (hduring : attend Transports.world Endings.note here (.happening .work :: during) = there)
    {s : SessionId} {c : SessionCall}
    (hcalled : there.1.activity.levels = [(.call s c, .requesting op.id)])
    {answer : Answer} {reports : List Report} {w : Transports}
    (hanswer : Transports.model.step there.1.world s c = (some answer, reports, w))
    (hrefused : answer ≠ .returned (.ok ())) :
    let without := attend Transports.world Endings.note ({ here.1 with inbox := rest }, here.2)
      (during.filter Incident.byOthers)
    ∃ f, (f = Failure.ofTransport .notConnected ∨ f = Failure.ofTransport (.request .full)) ∧
      answer = .returned (.error f) ∧ reports = [] ∧ w = without.1.world ∧
      there.2 = without.2 ∧ without.1.activity = here.1.activity ∧
      (∃ log, there.1.does Transports.world (.happening .work) = some { without.1 with
        activity := ⟨here.1.activity.stage, [(.chain (.complete (op.fail f)), .last)]⟩, log }) ∧
      ∀ after,
        (let last := attend Transports.world Endings.note there (.happening .work :: after)
         last.2.ofId op.id = [op.fail f] ∧ op.id ∉ last.2.told ∧
           last.1.world.Strange op.id) ∧
        let p := attend Transports.world Ledgers.note (l, fun _ => [])
          (before ++ .happening .work :: during ++ .happening .work :: after)
        (∀ maker, Ledger.Fair (p.2 maker)) → Ledgers.Sole p.2 ∧
          ∀ id outcome, .report (.acknowledged id outcome) ∈ Mailbox.jobs p.1.inbox.queue →
            Founded p.2 id outcome := by
  intro without
  obtain ⟨hsound, hwired, hpatient⟩ := patient_attend hbuild before
  rw [hbefore] at hsound hwired hpatient
  -- until the worker takes it, nobody has met the operation
  obtain ⟨left, hqueue, -⟩ := queue_of_turn hjob
  obtain ⟨hunmet, hnone⟩ := hpatient op.id (.inl ⟨op, by
    rw [queued_of_job hqueue]
    exact List.mem_append_left _ (List.mem_singleton_self op), rfl⟩)
  obtain ⟨ha, hu, hstrange, htold, hcompleted⟩ : without.1.activity = here.1.activity ∧
      without.1.world.underway = here.1.world.underway ∧ without.1.world.Strange op.id ∧
      op.id ∉ without.2.told ∧ without.2.completed = here.2.completed :=
    others_attend (l := { here.1 with inbox := rest }) hunmet.strange hunmet.told
      fun i hi => (List.mem_filter.mp hi).2
  -- the call has changed nothing so far
  obtain ⟨hid, u, log, hrequesting, heq⟩ :=
    tried_attend hsound hwired hfree hjob during (hduring ▸ hcalled)
  obtain ⟨hsound', hwired'⟩ := shape_attend Endings.note here.2 hsound hwired
    (.happening .work :: during)
  have hgone := not_waits_attend Endings.note here.2 hsound hfree hjob during
  rw [Prod.eta, hduring] at hsound' hwired' hgone heq
  have hthere : there.1 = without.1.aside (calling without.1.activity op s c) u log := by
    rw [heq, ha]
  obtain ⟨f, hf, hreturned, hreports, hw, next, log', hdoes, hnext, hsoundₙ, hparted⟩ :=
    parted_of_refused (ha ▸ hsound.single.orderly) (ha ▸ hfree)
      ⟨ha ▸ hunmet.held, ha ▸ hunmet.called, hstrange, htold⟩
      (by rw [Endings.ofId, hcompleted]; exact hnone) (hu.trans (hwired.idle_of_nil hfree)) hthere
      hsound' hwired' hgone hid hrequesting hanswer hrefused
  have hrecord : there.2 = without.2 := by rw [heq]
  refine ⟨f, hf, hreturned, hreports, hw, hrecord, ha, ⟨log', ?_⟩,
    fun after => ⟨?_, fun hfair => ?_⟩⟩
  · rw [hdoes, hnext, ha]
  · have hlast : attend Transports.world Endings.note there (.happening .work :: after)
        = attend Transports.world Endings.note
            (next, Endings.note (.happening .work) there.1 next without.2) after := by
      rw [← hrecord, show there = (there.1, there.2) from rfl, attend,
        runWith_cons_of_some hdoes]
      rfl
    rw [hlast]
    exact parted_attend hsoundₙ hparted after
  · obtain ⟨-, hcorrelated⟩ := correlated_attend hbuild _ hfair
    exact ⟨hcorrelated.sole, hcorrelated.reported⟩

/-- An operation to publish waits for its acknowledgement, the client has no room left, and another
one is submitted. -/
def crowded : List (Incident Nat Stirring) :=
  outstanding.map .happening ++
    [.happening (.stir (.room ⟨0, 0⟩ false)), .happening (.submit none (.publish "u" []) 40)]

/-- While the session is called for it, the client sends the first request. -/
def sending : List (Incident Nat Stirring) :=
  [.happening (.stir (.drive ⟨0, 0⟩ (.wake (.event (.left (.request .publish 1)))))),
    .happening .work, .happening (.stir (.drive ⟨0, 0⟩ .advance)), .happening .work]

/-- The session is called for the second operation, and the client has no room. -/
lemma crowded_ends {l : Link Nat Transports}
    (h : Link.build {} false (some .unsecured) = .ok l) :
    let here := attend Transports.world Endings.note (l, {}) crowded
    let there := attend Transports.world Endings.note here (.happening .work :: sending)
    here.1.activity.levels = [] ∧
      here.1.inbox.turn = .job (.run ⟨4, .publish "u" [], none, some 40⟩) {} ∧
      there.1.activity.levels = [(.call 0 (.publish 4 "u" []), .requesting 4)] ∧
      (Transports.model.step there.1.world 0 (.publish 4 "u" [])).1
        = some (.returned (.error (.ofTransport (.request .full)))) := by
  cases h
  exact ⟨rfl, rfl, rfl, rfl⟩

/-- The second operation has failed, and has left nothing; the first one still waits, and what the
client has sent is its own. -/
theorem refused_of_crowded :
    ∃ l : Link Nat Transports, Link.build {} false (some .unsecured) = .ok l ∧
      let here := attend Transports.world Endings.note (l, {}) crowded
      let there := attend Transports.world Endings.note here (.happening .work :: sending)
      let without := attend Transports.world Endings.note ({ here.1 with inbox := {} }, here.2)
        (sending.filter Incident.byOthers)
      let op : Operation Nat := ⟨4, .publish "u" [], none, some 40⟩
      let f := Failure.ofTransport (.request .full)
      here.1.activity.levels = [] ∧ here.1.inbox.turn = .job (.run op) {} ∧
        there.1.activity.levels = [(.call 0 (.publish 4 "u" []), .requesting op.id)] ∧
        (Transports.model.step there.1.world 0 (.publish 4 "u" [])).1
          = some (.returned (.error f)) ∧
        there.2 = without.2 ∧ here.1.activity.stage.awaitingAck.map (·.1) = [3] ∧
        (∃ log, there.1.does Transports.world (.happening .work) = some { without.1 with
          activity := ⟨here.1.activity.stage, [(.chain (.complete (op.fail f)), .last)]⟩, log }) ∧
        (let last := attend Transports.world Endings.note there [.happening .work]
         last.2.ofId op.id = [op.fail f] ∧ op.id ∉ last.2.told ∧ last.1.world.Strange op.id) ∧
        let p := attend Transports.world Ledgers.note (l, fun _ => [])
          (crowded ++ .happening .work :: sending ++ [.happening .work])
        (∀ maker, Ledger.Fair (p.2 maker)) ∧ Ledgers.Sole p.2 := by
  obtain ⟨l, hl⟩ : ∃ l : Link Nat Transports, Link.build {} false (some .unsecured) = .ok l :=
    ⟨_, rfl⟩
  obtain ⟨hfree, hjob, hcalled, hanswer⟩ := crowded_ends hl
  obtain ⟨f, -, hreturned, -, -, hrecord, -, hdoes, hafter⟩ :=
    refused_leaves_nothing hl crowded sending rfl hfree hjob rfl hcalled (Prod.ext hanswer rfl)
      (by rintro ⟨⟩)
  cases hreturned
  obtain ⟨hlast, hledgers⟩ := hafter []
  have hfair : ∀ maker, Ledger.Fair ((attend Transports.world Ledgers.note (l, fun _ => [])
      (crowded ++ .happening .work :: sending ++ [.happening .work])).2 maker) := by
    cases hl
    rintro ⟨_ | s, _ | n⟩
    · decide
    · exact (Ledger.fair_nil : Ledger.Fair ([] : Ledger Nat))
    · exact (Ledger.fair_nil : Ledger.Fair ([] : Ledger Nat))
    · exact (Ledger.fair_nil : Ledger.Fair ([] : Ledger Nat))
  refine ⟨l, hl, hfree, hjob, hcalled, hanswer, hrecord, ?_, hdoes, hlast, hfair,
    (hledgers hfair).1⟩
  cases hl
  rfl

end Link

end DeviceLink
