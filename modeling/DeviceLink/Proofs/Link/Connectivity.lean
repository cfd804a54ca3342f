import DeviceLink.Proofs.Link.Wiring
import DeviceLink.Proofs.Transport.Honesty

/-!
# Connectivity, as it is published and as it is

The root publishes what drivers say, in the order in which they have said it.  A session looks at
its current connection.  When everything has come to rest the root stands by the last word that any
driver has said, and the session by the last word of the current connection's driver, as long as
that one runs.  A connection that is replaced ends without a word, so the two need not agree.

* `hear`, `lastOf` — the record of a run: what drivers have said, and what one has said last.
* `Link.forecast` — what will be published when the words under way have been taken.
* `Heard` — the forecast is the last word, and the flag of each connection goes with its own.
* **`Heard.happens`** — everything that happens keeps that.
* **`state_iff_isConnected`** — what is published, and what the session says, in a link at rest.
* **`stays_connected`** — the two do not always agree.
-/

namespace DeviceLink

open Transport Dispatch

/-! ## The record of a run -/

variable {κ : Type}

/-- What the observer writes down: what drivers say, with the connections they say it of. -/
def hear : Happening κ Stirring → Link κ Transports → Link κ Transports →
    List (Maker × ConnectionState) → List (Maker × ConnectionState)
  | .stir (.drive maker turn), before, _, said =>
    match before.world.drive maker.session maker.number turn with
    | some (reports, _) => said ++ (wordsOf reports).map (maker, ·)
    | none => said
  | .stir (.room _ _), _, _, said | .submit _ _ _, _, _, said | .work, _, _, said
  | .beginUser, _, _, said | .endUser _, _, _, said | .handle _, _, _, said => said

/-- What the driver of a connection has said last. -/
def lastOf (said : List (Maker × ConnectionState)) (maker : Maker) : Option ConnectionState :=
  ((said.filter (·.1 = maker)).getLast?).map Prod.snd

lemma lastOf_append_self (said : List (Maker × ConnectionState)) (maker : Maker)
    (words : List ConnectionState) :
    lastOf (said ++ words.map (maker, ·)) maker = words.getLast?.or (lastOf said maker) := by
  have hall : (words.map (maker, ·)).filter (·.1 = maker) = words.map (maker, ·) := by
    rw [List.filter_eq_self]
    intro word hword
    obtain ⟨state, -, rfl⟩ := List.mem_map.mp hword
    exact decide_eq_true rfl
  rw [lastOf, List.filter_append, hall, List.getLast?_append, List.getLast?_map, lastOf]
  cases words.getLast? <;> rfl

lemma lastOf_append_of_ne (said : List (Maker × ConnectionState)) {maker other : Maker}
    (h : other ≠ maker) (words : List ConnectionState) :
    lastOf (said ++ words.map (maker, ·)) other = lastOf said other := by
  have hnone : (words.map (maker, ·)).filter (·.1 = other) = [] := by
    rw [List.filter_eq_nil_iff]
    intro word hword
    obtain ⟨state, -, rfl⟩ := List.mem_map.mp hword
    exact fun he => h (of_decide_eq_true he).symm
  rw [lastOf, List.filter_append, hnone, List.append_nil, lastOf]

lemma lastOf_of_getLast? {said : List (Maker × ConnectionState)} {maker : Maker}
    {word : ConnectionState} (h : said.getLast? = some (maker, word)) :
    lastOf said maker = some word := by
  obtain ⟨before, rfl⟩ := List.getLast?_eq_some_iff.mp h
  exact lastOf_append_self before maker [word]

lemma ne_nil_of_lastOf {said : List (Maker × ConnectionState)} {maker : Maker}
    {word : ConnectionState} (h : lastOf said maker = some word) : said ≠ [] := by
  rintro rfl
  cases h

/-! ## What will be published -/

def Job.word? : Job κ → Option ConnectionState
  | report r => r.word?
  | run _ | abandon => none

namespace Link

/-- What has been said of the connection and the root has not yet taken, the oldest first. -/
def pendingWords {ω : Type} (l : Link κ ω) : List ConnectionState :=
  l.activity.words ++ (Mailbox.jobs l.inbox.queue).filterMap Job.word?

/-- What will be published when the root has taken everything that has been said. -/
def forecast {ω : Type} (l : Link κ ω) : ConnectionState :=
  l.pendingWords.getLast?.getD l.root.state

variable {l l' : Link κ Transports} {said : List (Maker × ConnectionState)}

lemma words_put_reports (m : Mailbox (Job κ)) (reports : List Report) :
    (Mailbox.jobs (m.put (reports.map Job.report)).queue).filterMap Job.word?
      = (Mailbox.jobs m.queue).filterMap Job.word? ++ wordsOf reports := by
  rw [Mailbox.jobs_put, List.filterMap_append, List.filterMap_map]
  rfl

/-- A word that is taken is published, unless there is another after it. -/
lemma getLast?_toList_append (o : Option ConnectionState) (words : List ConnectionState)
    (state : ConnectionState) :
    (o.toList ++ words).getLast?.getD state = words.getLast?.getD (o.getD state) := by
  rw [List.getLast?_append]
  cases words.getLast? with
  | none => cases o <;> rfl
  | some word => rfl

/-- **What the pipeline's worker does** changes nothing of what will be published. -/
lemma forecast_of_works (hsteady : l.Steady) (hwired : l.Wired)
    (hw : Works Transports.model l l') : l'.forecast = l.forecast := by
  cases hw with
  | @chain c frame a traces hlevels hstep log sink =>
      have hwords := hsteady.lone.words_step (m := .proceed) trivial hstep
      rw [forecast, forecast, pendingWords, pendingWords, hwords, Activity.words_of_levels hlevels,
        getLast?_toList_append, getLast?_toList_append, Root.state_handle]
      rfl
  | @create args frame a traces hlevels hstep log sink =>
      have hwords := hsteady.lone.words_step (m := .created _) trivial hstep
      rw [forecast, forecast, pendingWords, pendingWords, hwords, Activity.words_of_levels hlevels]
      rfl
  | @call session c frame reports world hlevels hcall =>
      obtain ⟨⟨told, rfl⟩, -⟩ := Transports.stepped (hwired.due hlevels) hcall
      rw [forecast, forecast, pendingWords, pendingWords, words_put_reports,
        wordsOf_acknowledgements, List.append_nil]
  | @answer session c frame answer reports world a traces hlevels hcall hstep log sink =>
      obtain ⟨⟨told, rfl⟩, -⟩ := Transports.stepped (hwired.due hlevels) hcall
      have hnone : (ended answer : Move κ).word? = none := by cases answer <;> rfl
      have hwords := hsteady.lone.words_step (byWorker_ended answer hlevels) hstep
      rw [forecast, forecast, pendingWords, pendingWords, hwords, hnone, words_put_reports,
        wordsOf_acknowledgements, List.append_nil, Activity.words_of_levels hlevels]
      rfl
  | @job job rest a traces hlevels hqueue hstep log sink =>
      have hwords := hsteady.lone.words_step (hsteady.byWorker_start hlevels hqueue) hstep
      have hword : (start job).word?.toList ++ (Mailbox.jobs rest).filterMap Job.word?
          = (Mailbox.jobs l.inbox.queue).filterMap Job.word? := by
        rw [hqueue]
        cases job with
        | run op | abandon => rfl
        | report r =>
            change r.word?.toList ++ (Mailbox.jobs rest).filterMap Job.word?
              = (.report r :: Mailbox.jobs rest).filterMap Job.word?
            rw [List.filterMap_cons, Job.word?]
            cases r.word? <;> rfl
      rw [forecast, forecast, pendingWords, pendingWords, hwords, hword,
        Activity.words_of_nil hlevels, List.nil_append]

/-! ## What has been said -/

/-- **What has been said is what will be published**, and the flag of each connection goes with what
its driver has said last. -/
structure Heard (l : Link κ Transports) (said : List (Maker × ConnectionState)) : Prop where
  forecast : l.forecast = (said.getLast?.map Prod.snd).getD .disconnected
  honest : ∀ maker driver up, l.world.face? maker = some (driver, up) →
    driver.Honest up (lastOf said maker)
  /-- Nobody speaks for a connection that was never started. -/
  unsaid : ∀ maker, l.world.face? maker = none → lastOf said maker = none

lemma Heard.of_sameFaces (h : l.Heard said) (hf : l'.forecast = l.forecast)
    (hfaces : Transports.SameFaces l.world l'.world) : l'.Heard said where
  forecast := hf.trans h.forecast
  honest := by
    intro maker driver up hface
    rw [hfaces.face?] at hface
    exact h.honest maker driver up hface
  unsaid := by
    intro maker hface
    rw [hfaces.face?] at hface
    exact h.unsaid maker hface

lemma Heard.of_starts (h : l.Heard said) (hf : l'.forecast = l.forecast) {maker : Maker}
    (hstart : Transports.Starts l.world l'.world maker) : l'.Heard said where
  forecast := hf.trans h.forecast
  honest := by
    intro other driver up hface
    by_cases ho : other = maker
    · subst ho
      rw [hstart.after] at hface
      cases hface
      rw [h.unsaid other hstart.before]
      constructor <;> rintro ⟨⟩
    · rw [hstart.others other ho] at hface
      exact h.honest other driver up hface
  unsaid := by
    intro other hface
    by_cases ho : other = maker
    · subst ho
      exact h.unsaid other hstart.before
    · rw [hstart.others other ho] at hface
      exact h.unsaid other hface

lemma Heard.works (h : l.Heard said) (hsteady : l.Steady) (hwired : l.Wired)
    (hw : Works Transports.model l l') : l'.Heard said := by
  have hf := forecast_of_works hsteady hwired hw
  cases hw with
  | chain hlevels hstep log sink => exact h.of_sameFaces hf (Transports.sameFaces_refl _)
  | @create args frame a traces hlevels hstep log sink =>
      exact h.of_sameFaces hf (Transports.sameFaces_create l.world args)
  | call hlevels hcall =>
      obtain ⟨-, hstepped⟩ := Transports.stepped (hwired.due hlevels) hcall
      cases hstepped with
      | more hfaces hdue => exact h.of_sameFaces hf hfaces
  | answer hlevels hcall hstep log sink =>
      obtain ⟨-, hstepped⟩ := Transports.stepped (hwired.due hlevels) hcall
      cases hstepped with
      | finished hfaces hnone => exact h.of_sameFaces hf hfaces
      | started hstarts hstart hnone => exact h.of_starts hf hstart
  | job hlevels hqueue hstep log sink => exact h.of_sameFaces hf (Transports.sameFaces_refl _)

/-- **A driver's turn**: what it says is queued, and its connection's flag goes with it. -/
lemma Heard.drive (h : l.Heard said) {maker : Maker} {turn : DriverTurn} {reports : List Report}
    {w : Transports} (hw : l.world.drive maker.session maker.number turn = some (reports, w)) :
    Heard { l with world := w, inbox := l.inbox.put (reports.map Job.report) }
      (said ++ (wordsOf reports).map (maker, ·)) := by
  obtain ⟨c, c', effects, hdrive, rfl, hbefore, hafter, hothers, -, -, -⟩ :=
    Transports.drive_face hw
  refine ⟨?_, ?_, ?_⟩
  · -- what the turn has said stands last in the queue, and last in the record
    have hold := h.forecast
    rw [Link.forecast, pendingWords] at hold ⊢
    rw [words_put_reports, ← List.append_assoc, List.getLast?_append, Option.getD_or, hold,
      List.getLast?_append, List.getLast?_map]
    cases (wordsOf (effects.map Effect.report)).getLast? <;> rfl
  · intro other driver up hface
    by_cases ho : other = maker
    · subst ho
      cases hafter.symm.trans hface
      rw [lastOf_append_self]
      exact Connection.honest_drive hdrive (h.honest other c.driver c.up hbefore)
    · rw [lastOf_append_of_ne said ho]
      exact h.honest other driver up ((hothers other ho).symm.trans hface)
  · intro other hface
    by_cases ho : other = maker
    · subst ho
      cases hafter.symm.trans hface
    · rw [lastOf_append_of_ne said ho]
      exact h.unsaid other ((hothers other ho).symm.trans hface)

/-- **Everything that happens keeps what has been said.** -/
theorem Heard.happens (h : l.Heard said) (hsteady : l.Steady) (hwired : l.Wired)
    {happening : Happening κ Stirring} (hs : l.happens Transports.world happening = some l') :
    l'.Heard (hear happening l l' said) := by
  cases happening with
  | submit caller request callback =>
      cases hs
      obtain ⟨log, heq⟩ := exists_submit_eq hsteady.inbox caller request callback
      rw [heq]
      refine h.of_sameFaces ?_ (Transports.sameFaces_refl _)
      rw [Link.forecast, Link.forecast, pendingWords, pendingWords, Mailbox.jobs_put,
        List.filterMap_append]
      exact congrArg (fun words => (l.activity.words ++ words).getLast?.getD l.root.state)
        (List.append_nil _)
  | stir e =>
      obtain ⟨⟨reports, w⟩, hw, rfl⟩ := Option.map_eq_some_iff.mp hs
      rw [happen_eq hsteady.inbox]
      cases e with
      | drive maker turn =>
          have hdrive : l.world.drive maker.session maker.number turn = some (reports, w) := hw
          rw [hear, hdrive]
          exact h.drive hdrive
      | room maker room =>
          obtain ⟨rfl, hfaces, -, -⟩ := Transports.stir_room hw
          refine h.of_sameFaces ?_ hfaces
          rw [List.map_nil, Mailbox.put_nil]
          rfl
  | work => exact h.works hsteady hwired (hsteady.works hs)
  | beginUser =>
      obtain ⟨c, rest, -, hqueue, rfl⟩ := hsteady.beginUser_cases hs
      exact h.of_sameFaces rfl (Transports.sameFaces_refl _)
  | endUser panic =>
      obtain ⟨log, sink, rfl⟩ := exists_eq_of_endUser hs
      exact h.of_sameFaces rfl (Transports.sameFaces_refl _)
  | handle kept =>
      cases hs
      exact h.of_sameFaces rfl (Transports.sameFaces_refl _)

lemma heard_follow {c : PipelineConfig} {listens : Bool} {config : TransportConfig}
    {files : Config.Files} (h : Link.build c listens (some { config, files }) = .ok l)
    (happenings : List (Happening κ Stirring)) :
    (follow Transports.world hear (l, []) happenings).1.Heard
      (follow Transports.world hear (l, []) happenings).2 := by
  refine (wired_follow_induction Heard ?_ h ?_ happenings).2
  · exact fun happening l said next hsteady hwired hl hn => hl.happens hsteady hwired hn
  · cases h
    refine ⟨rfl, ?_, fun _ _ => rfl⟩
    rintro maker driver up ⟨⟩

/-! ## A link at rest -/

/-- **Nothing is queued or under way** at either worker, and every driver waits for the network or
has ended. -/
structure Quiet (l : Link κ Transports) : Prop where
  inbox : l.inbox.queue = []
  idle : l.activity.levels = []
  outbox : l.outbox.queue = []
  user : l.user = none
  drivers : ∀ t ∈ l.world.sessions, ∀ c ∈ t.connections,
    c.driver = .waiting ∨ c.driver = .returned

/-- The current connection of the session that the stage has. -/
def current? (l : Link κ Transports) : Option Maker :=
  l.activity.stage.session.bind fun s =>
    (l.world.sessions[s]?).bind fun t => t.current.map fun n => ⟨s, n⟩

/-- The session that the stage has says that it is connected. -/
def isConnected (l : Link κ Transports) : Bool :=
  l.activity.stage.session.any fun s => (l.world.sessions[s]?).any (·.isConnected)

lemma isConnected_iff :
    l.isConnected ↔
      ∃ maker driver, l.current? = some maker ∧ l.world.face? maker = some (driver, true) := by
  rw [isConnected, current?]
  cases l.activity.stage.session with
  | none => simp
  | some s =>
      cases hs : l.world.sessions[s]? with
      | none => simp [hs]
      | some t =>
          cases hn : t.current with
          | none => simp [hs, hn, Transport.isConnected, Transport.connection?]
          | some n =>
              cases hc : t.connections[n]? <;>
                simp [hs, hn, hc, Transport.isConnected, Transport.connection?, Transports.face?,
                  Transport.face?, Connection.face]

lemma Quiet.driver (h : l.Quiet) {maker : Maker} {driver : Driver} {up : Bool}
    (hface : l.world.face? maker = some (driver, up)) :
    driver = .waiting ∨ driver = .returned := by
  obtain ⟨t, ht, hface⟩ := Option.bind_eq_some_iff.mp hface
  obtain ⟨c, hc, hface⟩ := Option.map_eq_some_iff.mp hface
  cases hface
  exact h.drivers t (List.mem_of_getElem? ht) c (List.mem_of_getElem? hc)

lemma Quiet.forecast_eq (h : l.Quiet) : l.forecast = l.root.state := by
  rw [forecast, pendingWords, Activity.words_of_nil h.idle, h.inbox]
  rfl

/-- **What is published, and what the session says, in a link at rest.**  The published state is the
last word that any driver has said.  The session is connected just when the driver of its current
connection runs and has said so last.  So the two agree if nobody has said anything, or whoever has
said the last word still speaks for the session: it is the current connection's driver, and runs if
that word was that it is connected. -/
theorem state_iff_isConnected {c : PipelineConfig} {listens : Bool} {config : TransportConfig}
    {files : Config.Files} (hbuild : Link.build c listens (some { config, files }) = .ok l)
    (happenings : List (Happening κ Stirring))
    (hrun : follow Transports.world hear (l, []) happenings = (l', said)) (hquiet : l'.Quiet) :
    (l'.root.state = .connected ↔ ∃ maker, said.getLast? = some (maker, .connected)) ∧
      (l'.isConnected ↔
        ∃ maker, l'.current? = some maker ∧ l'.world.Live maker ∧
          lastOf said maker = some .connected) ∧
      ((∀ maker word, said.getLast? = some (maker, word) →
          l'.current? = some maker ∧ (word = .connected → l'.world.Live maker)) →
        (l'.root.state = .connected ↔ l'.isConnected)) := by
  have h := heard_follow hbuild happenings
  rw [hrun] at h
  have hstate : l'.root.state = .connected ↔ ∃ maker, said.getLast? = some (maker, .connected) := by
    rw [← hquiet.forecast_eq, h.forecast]
    rcases said.getLast? with _ | ⟨maker, word⟩
    · constructor
      · rintro ⟨⟩
      · rintro ⟨maker, ⟨⟩⟩
    · constructor
      · rintro (rfl : word = .connected)
        exact ⟨maker, rfl⟩
      · rintro ⟨other, hother⟩
        cases hother
        rfl
  have hsession : l'.isConnected ↔ ∃ maker, l'.current? = some maker ∧ l'.world.Live maker ∧
      lastOf said maker = some .connected := by
    rw [isConnected_iff]
    constructor
    · rintro ⟨maker, driver, hcurrent, hface⟩
      obtain ⟨rfl, hlast⟩ :=
        ((h.honest maker driver true hface).up_iff (hquiet.driver hface)).mp rfl
      exact ⟨maker, hcurrent, ⟨.waiting, true, hface, by rintro ⟨⟩⟩, hlast⟩
    · rintro ⟨maker, hcurrent, ⟨driver, up, hface, hlive⟩, hlast⟩
      have hwaiting : driver = .waiting := (hquiet.driver hface).resolve_right hlive
      have hup : up = true :=
        ((h.honest maker driver up hface).up_iff (hquiet.driver hface)).mpr ⟨hwaiting, hlast⟩
      exact ⟨maker, driver, hcurrent, hup ▸ hface⟩
  refine ⟨hstate, hsession, fun hspeaks => ?_⟩
  rw [hstate, hsession]
  constructor
  · rintro ⟨maker, hlast⟩
    obtain ⟨hcurrent, hlive⟩ := hspeaks maker .connected hlast
    exact ⟨maker, hcurrent, hlive rfl, lastOf_of_getLast? hlast⟩
  · rintro ⟨maker, hcurrent, -, hlast⟩
    rcases hsaid : said.getLast? with _ | ⟨other, word⟩
    · exact (ne_nil_of_lastOf hlast (List.getLast?_eq_none_iff.mp hsaid)).elim
    · cases hcurrent.symm.trans (hspeaks other word hsaid).1
      cases hlast.symm.trans (lastOf_of_getLast? hsaid)
      exact ⟨maker, rfl⟩

/-- A connection comes up, and everybody has been told. -/
def comingUp : List (Happening Nat Stirring) :=
  [.submit none (.setConnectionArgs ⟨"hub", "device", "id", none⟩) 10, .work, .work, .work,
    .submit none .connect 20, .work, .work, .work,
    .stir (.drive ⟨0, 0⟩ (.wake (.event (.arrived (.connAck .success))))),
    .stir (.drive ⟨0, 0⟩ .advance), .stir (.drive ⟨0, 0⟩ .advance), .work, .work, .work,
    .beginUser, .endUser none, .beginUser, .endUser none]

lemma comingUp_ends {l : Link Nat Transports}
    (h : Link.build {} false (some .unsecured) = .ok l) :
    let p := follow Transports.world hear (l, []) comingUp
    p.1.Quiet ∧ p.1.root.state = .connected ∧ p.2 = [(⟨0, 0⟩, .connected)] ∧
      p.1.current? = some ⟨0, 0⟩ ∧ p.1.world.face? ⟨0, 0⟩ = some (.waiting, true) := by
  cases h
  exact ⟨⟨by decide, by decide, by decide, by decide, by decide⟩, by decide, by decide, by decide,
    by decide⟩

/-- The session is connected then, and so it is published. -/
theorem isConnected_of_comingUp :
    ∃ l : Link Nat Transports, Link.build {} false (some .unsecured) = .ok l ∧
      let p := follow Transports.world hear (l, []) comingUp
      p.1.Quiet ∧ p.1.root.state = .connected ∧ p.1.isConnected := by
  obtain ⟨l, hl⟩ : ∃ l : Link Nat Transports, Link.build {} false (some .unsecured) = .ok l :=
    ⟨_, rfl⟩
  obtain ⟨hquiet, hstate, hsaid, hcurrent, hface⟩ := comingUp_ends hl
  obtain ⟨-, hsession, -⟩ := state_iff_isConnected hl comingUp (Prod.eta _).symm hquiet
  refine ⟨l, hl, hquiet, hstate, hsession.mpr ⟨⟨0, 0⟩, hcurrent, ?_, ?_⟩⟩
  · exact ⟨.waiting, true, hface, by rintro ⟨⟩⟩
  · rw [hsaid]
    rfl

/-- Then the connection is replaced by one that is refused. -/
def refusedAgain : List (Happening Nat Stirring) :=
  comingUp ++
    [.submit none .reconnect 30, .work, .work, .work, .work, .work, .work,
      .stir (.drive ⟨0, 0⟩ (.wake .cancellation)),
      .stir (.drive ⟨0, 0⟩ .advance), .stir (.drive ⟨0, 0⟩ .advance),
      .stir (.drive ⟨0, 0⟩ .advance), .stir (.drive ⟨0, 0⟩ .advance),
      .stir (.drive ⟨0, 0⟩ .advance),
      .stir (.drive ⟨0, 1⟩ (.wake (.event (.failed (.refused .notAuthorized))))),
      .stir (.drive ⟨0, 1⟩ .advance), .stir (.drive ⟨0, 1⟩ .advance),
      .stir (.drive ⟨0, 1⟩ .advance), .stir (.drive ⟨0, 1⟩ .advance),
      .stir (.drive ⟨0, 1⟩ .advance), .stir (.drive ⟨0, 1⟩ .advance),
      .work, .work, .beginUser, .endUser none]

/-- **The published state and the session do not always agree.**  A connection that has come up is
replaced, and its end is never reported. -/
theorem stays_connected :
    ¬ ∀ (l l' : Link Nat Transports) (happenings : List (Happening Nat Stirring))
        (said : List (Maker × ConnectionState)),
      Link.build {} false (some .unsecured) = .ok l →
      follow Transports.world hear (l, []) happenings = (l', said) → l'.Quiet →
      (l'.root.state = .connected ↔ l'.isConnected) := by
  intro h
  obtain ⟨l, hl⟩ : ∃ l : Link Nat Transports, Link.build {} false (some .unsecured) = .ok l :=
    ⟨_, rfl⟩
  have hends : let p := follow Transports.world hear (l, []) refusedAgain
      p.1.Quiet ∧ p.1.root.state = .connected ∧ p.1.isConnected = false := by
    cases hl
    exact ⟨⟨by decide, by decide, by decide, by decide, by decide⟩, by decide, by decide⟩
  obtain ⟨hquiet, hstate, hsession⟩ := hends
  have hiff := h l _ refusedAgain _ hl (Prod.eta _).symm hquiet
  rw [hsession] at hiff
  cases hiff.mp hstate

end Link

end DeviceLink
