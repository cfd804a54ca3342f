import DeviceLink.Proofs.Link.Attribution
import DeviceLink.Proofs.Link.Settlement
import DeviceLink.Proofs.Link.Strangers
import DeviceLink.Proofs.Stage.Occupant
import DeviceLink.Proofs.Transport.Preconditions

/-!
# An operation that a panic leaves behind

When a session panics while it starts a connection, the worker unwinds and goes on, but the
operation is in the connect slot already, and nothing that the session has started will ever report
on it.  So it waits until something else makes the stage look at that slot.

* `Sound.moves` — the worker leaves the stage alone, or makes a move.
* `Lodged`, **`Lodged.does`**, **`stays_until_disturbed`** — whoever is in the connect slot stays
  until the worker takes a job that makes the stage look there.
* `furnished_attend` — every session has the settings that the link was built with.
* `stranded`, **`work_of_panicked`** — what a panic leaves.
* **`stuck_iff_unnamed`** — when an operation is left behind.
-/

namespace DeviceLink

open Transport Dispatch

variable {κ : Type}

/-- The job makes the stage look at the connect slot. -/
def Job.disturbs (job : Job κ) : Bool := (Link.start job).disturbs

namespace Link

variable {l l' : Link κ Transports}

/-! ## Moves of the worker -/

/-- **The worker leaves the stage alone, or makes a move**; if nothing is handed over, it makes it
for the job that it takes. -/
lemma Sound.moves (h : l.Sound) (hs : l.pipelineStep Transports.model = some l') :
    l'.activity = l.activity ∨ ∃ m traces, l.activity.Driven m ∧
      (∀ op ∈ m.brings, l.activity.stage.awaiting? op.id = none) ∧
      l.activity.step m = some (l'.activity, traces) ∧
      (l.activity.levels = [] →
        ∃ job, l.takes? (.work : Happening κ Stirring) = some job ∧ m = start job) := by
  have hbusy : ∀ {ask : Ask κ} {frame : Frame κ} {P : Prop},
      l.activity.levels = [(ask, frame)] → l.activity.levels = [] → P := by
    intro ask frame P hlevels hnil
    cases hnil.symm.trans hlevels
  cases h.tasks hs with
  | chain hlevels hstep log sink =>
      exact .inr ⟨.proceed, _, .inl trivial, List.forall_mem_nil _, hstep, hbusy hlevels⟩
  | create hlevels hstep log sink =>
      exact .inr ⟨.created _, _, .inl trivial, List.forall_mem_nil _, hstep, hbusy hlevels⟩
  | call hlevels hcall => exact .inl rfl
  | @answer session c frame answer reports world a traces hlevels hcall hstep log sink =>
      exact .inr ⟨ended answer, _, (byWorker_ended answer hlevels).driven,
        by rw [brings_ended]; exact List.forall_mem_nil _, hstep, hbusy hlevels⟩
  | release hlevels hstep log sink =>
      exact .inr ⟨.proceed, _, .inl trivial, List.forall_mem_nil _, hstep, hbusy hlevels⟩
  | @job job rest a traces hlevels hphase hqueue hstep log sink =>
      refine .inr ⟨start job, _, driven_start hlevels job, h.fresh_start hqueue, hstep,
        fun _ => ⟨job, ?_, rfl⟩⟩
      have hturn : l.inbox.turn = .job job { l.inbox with queue := rest } := by
        simp only [Mailbox.turn, hphase, hqueue]
      rw [takes?, Activity.asked?_of_nil hlevels, hturn]
  | leave hlevels hleaves log => exact .inl rfl

/-! ## Whoever is in the connect slot -/

/-- The jobs that the worker takes. -/
def noteTaken : Incident κ Stirring → Link κ Transports → Link κ Transports → List (Job κ) →
    List (Job κ)
  | .happening h, before, _, g => g ++ (before.takes? h).toList
  | .shutdown _ _, _, _, g => g

/-- **An operation is in the connect slot**, and nothing is left to do that looks there, or the
worker has taken a job that has made the stage look. -/
def Lodged (op : Operation κ) (l : Link κ Transports) (g : List (Job κ)) : Prop :=
  (∃ job ∈ g, job.disturbs) ∨
    l.activity.stage.activeConnect = some op ∧ ∀ level ∈ l.activity.levels, level.2.disturbs = false

/-- **Whatever happens** leaves an operation in the connect slot, unless the worker takes a job that
makes the stage look there. -/
theorem Lodged.does {op : Operation κ} {g : List (Job κ)} (h : Lodged op l g) (hsound : l.Sound)
    {i : Incident κ Stirring} (hs : l.does Transports.world i = some l') :
    Lodged op l' (noteTaken i l l' g) := by
  rcases h with ⟨job, hmem, hjob⟩ | ⟨hop, hlevels⟩
  · refine .inl ⟨job, ?_, hjob⟩
    cases i with
    | happening happening => exact List.mem_append_left _ hmem
    | shutdown worker s => exact hmem
  · cases hothers : i.byOthers with
    | true =>
        obtain ⟨ha, -⟩ := others_keep hothers hs
        rw [Lodged, ha]
        exact .inr ⟨hop, hlevels⟩
    | false =>
        rcases i with (_ | _ | _ | _ | _ | _) | _ <;> cases hothers
        rcases hsound.moves hs with ha | ⟨m, traces, hm, -, hstep, hjob⟩
        · rw [Lodged, ha]
          exact .inr ⟨hop, hlevels⟩
        · cases hquiet : m.disturbs with
          | false =>
              obtain ⟨hsame, hnext⟩ := hsound.single.occupant_step hm hstep hquiet hlevels
              exact .inr ⟨hsame.trans hop, hnext⟩
          | true =>
              -- only a job makes the worker do that, and it is on the record
              have hnil : l.activity.levels = [] := by
                rcases hm with hm | ⟨-, hnil⟩
                · cases m with
                  | enter o op => exact hm.2
                  | deliver r => exact hm
                  | abandon o => exact hm.elim
                  | proceed | created _ | answered _ | panic _ => cases hquiet
                · exact hnil
              obtain ⟨job, htaken, rfl⟩ := hjob hnil
              refine .inl ⟨job, List.mem_append_right _ ?_, hquiet⟩
              rw [htaken]
              exact List.mem_singleton_self job

/-- **Whoever is in the connect slot stays there** until the worker takes an operation on the
connection, a report that one is up or could not be made, or an order to give everything up. -/
theorem stays_until_disturbed (hsound : l.Sound) (hfree : l.activity.levels = [])
    {op : Operation κ} (hop : l.activity.stage.activeConnect = some op)
    (incidents : List (Incident κ Stirring)) :
    let p := attend Transports.world noteTaken (l, []) incidents
    p.1.activity.stage.activeConnect = some op ∨ ∃ job ∈ p.2, job.disturbs := by
  have hstart : Lodged op l [] := .inr ⟨hop, by rw [hfree]; exact List.forall_mem_nil _⟩
  have hlodged : Lodged op (attend Transports.world noteTaken (l, []) incidents).1
      (attend Transports.world noteTaken (l, []) incidents).2 := by
    refine (runWith_induction_of_kept (S := Sound) ?_ (Lodged op) ?_ hsound hstart incidents).2
    · exact fun _ _ _ hl hn => hl.does hn
    · exact fun _ _ _ _ hl hg hn => hg.does hl hn
  exact hlodged.symm.imp_left And.left

/-! ## Runs -/

/-- The stage is in shape, and **every session has the settings** that the link was built with. -/
structure Supplied (config : TransportConfig) (files : Config.Files) (l : Link κ Transports) :
    Prop where
  composed : l.activity.Composed
  furnished : l.world.Furnished config files

variable {config : TransportConfig} {files : Config.Files}

lemma furnished_does (h : l.world.Furnished config files) (hsound : l.Sound)
    {i : Incident κ Stirring} (hs : l.does Transports.world i = some l') :
    l'.world.Furnished config files := by
  cases i with
  | happening happening =>
      cases happening with
      | submit caller request callback =>
          cases hs
          obtain ⟨log, heq⟩ := l.exists_submit_eq_offer caller request callback
          rw [heq]
          exact h
      | stir e =>
          obtain ⟨⟨reports, w⟩, hw, rfl⟩ := Option.map_eq_some_iff.mp hs
          rw [happen_eq_offer]
          exact h.stir hw
      | work =>
          cases hsound.tasks hs with
          | chain hlevels hstep log sink => exact h
          | create hlevels hstep log sink => exact h.create _
          | call hlevels hcall | answer hlevels hcall hstep log sink =>
              exact h.step (Transports.steps_of_step hcall)
          | release hlevels hstep log sink => exact h.release _
          | job hlevels hphase hqueue hstep log sink => exact h
          | leave hlevels hleaves log => exact h
      | beginUser =>
          obtain ⟨-, -, hw, -⟩ := beginUser_core hs
          exact hw ▸ h
      | endUser panic =>
          obtain ⟨log, sink, rfl⟩ := exists_eq_of_endUser hs
          exact h
      | handle kept =>
          cases hs
          exact h
  | shutdown worker s =>
      obtain ⟨⟨next, s'⟩, hstep, rfl⟩ := Option.map_eq_some_iff.mp hs
      obtain ⟨inbox, outbox, log, rfl, -⟩ := exists_shutdownStep_eq hstep
      exact h

lemma composed_does (h : l.activity.Composed) (hsound : l.Sound) {i : Incident κ Stirring}
    (hs : l.does Transports.world i = some l') : l'.activity.Composed := by
  cases hothers : i.byOthers with
  | true =>
      obtain ⟨ha, -⟩ := others_keep hothers hs
      exact ha ▸ h
  | false =>
      rcases i with (_ | _ | _ | _ | _ | _) | _ <;> cases hothers
      rcases hsound.moves hs with ha | ⟨m, traces, hm, fresh, hstep, -⟩
      · exact ha ▸ h
      · exact (h.step hm fresh hstep).1

/-- **In every run** the stage is in shape, and every session has the settings that the link was
built with. -/
lemma supplied_attend {c : PipelineConfig} {listens : Bool}
    (hbuild : Link.build c listens (some { config, files }) = .ok l) {γ : Type}
    (note : Incident κ Stirring → Link κ Transports → Link κ Transports → γ → γ) (g : γ)
    (incidents : List (Incident κ Stirring)) :
    let here := (attend Transports.world note (l, g) incidents).1
    here.Sound ∧ here.Wired ∧ here.Supplied config files := by
  have hstart : l.Sound ∧ l.Wired ∧ l.Supplied config files := by
    have hsteady := steady_build hbuild
    cases hbuild
    exact ⟨hsteady.sound, wired_of_underway rfl, Activity.composed_new _,
      ⟨rfl, rfl, List.forall_mem_nil _⟩⟩
  refine runWith_induction (fun (l : Link κ Transports) (_ : γ) =>
    l.Sound ∧ l.Wired ∧ l.Supplied config files) ?_ hstart
  exact fun i _ l _ next hl hn => ⟨hl.1.does hn, hl.2.1.does hl.1 hn,
    composed_does hl.2.2.composed hl.1 hn, furnished_does hl.2.2.furnished hl.1 hn⟩

/-! ## A session panics -/

/-- **What a panic leaves**: nobody is inside the cell, nothing is handed over and nothing is due;
but whoever is in a slot is there still.  A line is written of it, unless the handle of the job is
dropped later. -/
def stranded (l : Link κ Transports) (message : String) : Link κ Transports :=
  { l with
    activity := ⟨{ l.activity.stage with entered := false }, []⟩
    world := { l.world with underway := none }
    log :=
      if l.handleKept then l.log
      else l.log ++ [⟨.dispatch, some .pipeline, .error (Unhandled.lineOf message)⟩] }

/-- **A session panics**, and the worker goes on. -/
theorem work_of_panicked (hsound : l.Sound) {s : SessionId} {c : SessionCall} {frame : Frame κ}
    (hlevels : l.activity.levels = [(.call s c, frame)]) {message : String}
    (hcall : Transports.model.step l.world s c
      = (some (.panicked message), [], { l.world with underway := none })) :
    l.does Transports.world (.happening .work) = some (l.stranded message) := by
  have hfits := hsound.single.orderly.fits _ (Activity.mem_of_levels hlevels)
  have hholds : frame.holdsCell = true ∧ frame.session? = none := by
    cases frame <;> first | exact ⟨rfl, rfl⟩ | exact hfits.elim
  have hstep : l.activity.step (.panic message)
      = some (⟨{ l.activity.stage with entered := false }, []⟩, [.panic message]) := by
    rw [Activity.step, Activity.unwind, hlevels]
    simp [hholds.1, hholds.2]
  have hhappen : ∀ world, l.happen [] world = { l with world } := fun world => rfl
  simp only [does, happens, pipelineStep, Activity.asked?_of_levels hlevels, answer,
    Transports.world, hcall, hhappen, Option.map_some, ended, move, hstep]
  simp only [List.foldl_cons, List.foldl_nil, notice, stranded]
  split <;> rfl

/-- **When an operation is left behind.**  Settings that keep the rules let one setter of the client
refuse, and building one panics just when it has no name and is asked for a session that lasts; and
so does a whole call that starts a connection, whatever the transport is like.  So wherever a run of
a link is, and whatever others do between the phases: a call that ends there panics just when it is
to start a connection like that, and otherwise it returns.  When it panics, nothing is reported and
nothing is completed; the operation stays in the connect slot, in every run from there on, until the
worker takes another operation on the connection, a report on a connection of before, or an order to
give everything up. -/
theorem stuck_iff_unnamed {c : PipelineConfig} {listens : Bool}
    (hbuild : Link.build c listens (some { config, files }) = .ok l) {γ : Type}
    {note : Incident κ Stirring → Link κ Transports → Link κ Transports → γ → γ} {g : γ}
    (incidents : List (Incident κ Stirring)) {here : Link κ Transports}
    (hrun : (attend Transports.world note (l, g) incidents).1 = here)
    {s : SessionId} {call : SessionCall} {frame : Frame κ}
    (hlevels : here.activity.levels = [(.call s call, frame)])
    {answer : Answer} {reports : List Report} {w : Transports}
    (hanswer : Transports.model.step here.world s call = (some answer, reports, w)) :
    (config.problems files = [] → ∀ args,
      (∀ setter : Setter, setter.Refuses config args → setter = .cleanSession) ∧
      (∀ password auth, (∃ message, ClientOptions.build config files args password auth
        = .error (.panic message)) ↔ Unnamed config args) ∧
      ∀ (t : Transport Nat) (attempt : Transport.Call Nat), t.config = config → t.args = args →
        attempt.password?.isSome →
          ((∃ message, (t.finish files attempt).2.2 = .error (.panic message)) ↔
            Unnamed config args)) ∧
    ((∃ message, answer = .panicked message) ↔
      call.starts ∧ config.problems files = [] ∧
        ∃ t, here.world.sessions[s]? = some t ∧ Unnamed config t.args) ∧
    ∀ message, answer = .panicked message →
      (∃ t, here.world.sessions[s]? = some t ∧
        ClientOptions.panic? config t.args = some message) ∧
      reports = [] ∧ here.does Transports.world (.happening .work) = some (here.stranded message) ∧
        ∃ op, here.activity.stage.activeConnect = some op ∧ ∀ after,
          let p := attend Transports.world noteTaken (here.stranded message, []) after
          p.1.activity.stage.activeConnect = some op ∨ ∃ job ∈ p.2, job.disturbs := by
  obtain ⟨hsound, hwired, hsupplied⟩ := supplied_attend hbuild note g incidents
  rw [hrun] at hsound hwired hsupplied
  have hsteps := Transports.steps_of_step hanswer
  have hpanics := Transports.panics_iff (hwired.due hlevels) hsteps rfl
  have hiff : (∃ message, answer = .panicked message) ↔
      call.starts ∧ config.problems files = [] ∧
        ∃ t, here.world.sessions[s]? = some t ∧ Unnamed config t.args := by
    rw [hpanics, hsupplied.furnished.files_eq]
    refine and_congr_right fun _ => ⟨?_, ?_⟩
    · rintro ⟨t, ht, hrules, hunnamed⟩
      rw [hsupplied.furnished.sessions t (List.mem_of_getElem? ht)] at hrules hunnamed
      exact ⟨hrules, t, ht, hunnamed⟩
    · rintro ⟨hrules, t, ht, hunnamed⟩
      rw [← hsupplied.furnished.sessions t (List.mem_of_getElem? ht)] at hrules hunnamed
      exact ⟨t, ht, hrules, hunnamed⟩
  refine ⟨fun hrules args => ⟨fun setter => eq_cleanSession_of_refuses hrules,
    fun password auth => ClientOptions.build_panics_iff_unnamed hrules, ?_⟩, hiff, ?_⟩
  · rintro t attempt rfl rfl hstarts
    obtain ⟨password, hpassword⟩ := Option.isSome_iff_exists.mp hstarts
    rw [t.finish_panics_iff files hpassword]
    exact and_iff_right hrules
  rintro message rfl
  obtain ⟨⟨t, ht, hmessage⟩, rfl, rfl⟩ := Transports.panicked_step hsteps rfl
  rw [hsupplied.furnished.sessions t (List.mem_of_getElem? ht)] at hmessage
  have hwork := work_of_panicked hsound hlevels hanswer
  obtain ⟨hstarts, -⟩ := hiff.mp ⟨message, rfl⟩
  -- the call was made for whoever is in the connect slot
  have hmem := Activity.mem_of_levels hlevels
  obtain rfl := frame_of_starts (hsound.single.orderly.fits _ hmem) hstarts
  obtain ⟨-, hthere⟩ := (hsupplied.composed.poised _ hmem).still (by rintro ⟨⟩) (by rintro _ _ ⟨⟩)
  obtain ⟨op, hop⟩ := Option.isSome_iff_exists.mp hthere
  exact ⟨⟨t, ht, hmessage⟩, rfl, hwork, op, hop, stays_until_disturbed (hsound.does hwork) rfl hop⟩

/-- A device without a name sets its arguments and connects. -/
def nameless : List (Incident Nat Stirring) :=
  [.happening (.submit none (.setConnectionArgs ⟨"hub", "device", "", none⟩) 10),
    .happening .work, .happening .work, .happening .work,
    .happening (.submit none .connect 20), .happening .work, .happening .work]

/-- It publishes, and everybody does what there is to do. -/
def goingOn : List (Incident Nat Stirring) :=
  [.happening (.submit none (.publish "t" []) 30), .happening .work, .happening .work,
    .happening .work, .happening .work, .happening .beginUser, .happening (.endUser none),
    .happening .beginUser, .happening (.endUser none)]

def lasting : String := "Cannot unset clean session when client id is empty"

/-- The session is about to start a connection. -/
lemma nameless_ends {l : Link Nat Transports}
    (h : Link.build {} false (some .unsecured) = .ok l) :
    let here := (attend Transports.world noteTaken (l, []) nameless).1
    let last := (attend Transports.world noteTaken (here.stranded lasting, []) goingOn)
    here.activity.levels = [(.call 0 (.connect none none), .starting .connect)] ∧
      Transports.model.step here.world 0 (.connect none none)
        = (some (.panicked lasting), [], { here.world with underway := none }) ∧
      here.activity.stage.activeConnect.map (·.id) = some 2 ∧
      last.1.activity.levels = [] ∧ last.1.inbox.queue = [] ∧ last.1.outbox.queue = [] ∧
      (∀ job ∈ last.2, job.disturbs = false) := by
  cases h
  refine ⟨rfl, rfl, rfl, rfl, rfl, rfl, ?_⟩
  decide

/-- The operation is stuck: everything is done that there is to do, and it is still in the slot. -/
theorem stuck_of_nameless :
    ∃ l : Link Nat Transports, Link.build {} false (some .unsecured) = .ok l ∧
      let here := (attend Transports.world noteTaken (l, []) nameless).1
      let last := attend Transports.world noteTaken (here.stranded lasting, []) goingOn
      Transports.unsecured.config.problems Transports.unsecured.files = [] ∧
        here.activity.levels = [(.call 0 (.connect none none), .starting .connect)] ∧
        Transports.model.step here.world 0 (.connect none none)
          = (some (.panicked lasting), [], { here.world with underway := none }) ∧
        (∃ t, here.world.sessions[0]? = some t ∧ Unnamed Transports.unsecured.config t.args) ∧
        here.does Transports.world (.happening .work) = some (here.stranded lasting) ∧
        last.1.activity.levels = [] ∧ last.1.inbox.queue = [] ∧ last.1.outbox.queue = [] ∧
        last.1.activity.stage.activeConnect.map (·.id) = some 2 := by
  obtain ⟨l, hl⟩ : ∃ l : Link Nat Transports, Link.build {} false (some .unsecured) = .ok l :=
    ⟨_, rfl⟩
  obtain ⟨hlevels, hanswer, hslot, hdone, hinbox, houtbox, hquiet⟩ := nameless_ends hl
  obtain ⟨-, hiff, hstuck⟩ := stuck_iff_unnamed hl nameless rfl hlevels hanswer
  obtain ⟨-, hrules, hunnamed⟩ := hiff.mp ⟨lasting, rfl⟩
  obtain ⟨-, -, hwork, op, hop, hstays⟩ := hstuck lasting rfl
  refine ⟨l, hl, hrules, hlevels, hanswer, hunnamed, hwork, hdone, hinbox, houtbox, ?_⟩
  rw [(hstays goingOn).resolve_right, ← hslot, hop]
  rintro ⟨job, hjob, hdisturbs⟩
  cases (hquiet job hjob).symm.trans hdisturbs

end Link

end DeviceLink
