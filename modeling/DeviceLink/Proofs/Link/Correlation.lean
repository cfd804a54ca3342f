import DeviceLink.Proofs.Link.Verdict

/-!
# What completes an operation that is acknowledged

An operation that publishes, subscribes or unsubscribes passes through two places that tell it
from others: the stage, where it waits under its number, and the tracker of a connection, where its
number waits for its turn and then for an acknowledgement.  What both of them hold is what the
ledgers of all connections say, whatever happens to the link.

* `Correlated` — what waits, what is called and what is reported are what the ledgers say.
* **`Correlated.does`** — everything that happens keeps that.
* **`verdict_of_completed`** — every operation that is completed ends for a reason of its own, or is
  cancelled when the link is shut down.
-/

namespace DeviceLink

open Transport Dispatch Ledger

variable {κ : Type} {g g' : Ledgers}

/-- The operation is cancelled, since everything is given up. -/
def Operation.GivenUp (op : Operation κ) (frame : Frame κ) : Prop :=
  op.error = some Stage.cancelled ∧ ∃ left session, frame = .abandoning left session

/-! ## What a link keeps -/

namespace Link

variable {l l' : Link κ Transports}

/-- A report of an acknowledgement is what a ledger says. -/
def Founded (g : Ledgers) (id : Nat) (outcome : Outcome) : Prop :=
  ∃ maker told, .acknowledged id outcome = acknowledgement told ∧ Justifies (g maker) told

lemma Founded.mono {id : Nat} {outcome : Outcome} (h : Founded g id outcome)
    (hgrows : Ledgers.Grows g g') : Founded g' id outcome := by
  obtain ⟨maker, told, he, hj⟩ := h
  obtain ⟨more, hmore⟩ := hgrows maker
  exact ⟨maker, told, he, hmore ▸ hj.append more⟩

/-- **What waits in a link is what the ledgers say:** an operation that waits for the pipeline's
worker is not known to any client, an operation that waits for an acknowledgement is known under its
own kind, and what is reported of one is founded. -/
structure Kept (l : Link κ Transports) (g : Ledgers) : Prop where
  sorted : l.activity.Sorted
  clean : ∀ op ∈ l.queued, op.error = none
  queued : ∀ op ∈ l.queued, ¬ Ledgers.Claimed g op.id
  waiting : ∀ p ∈ l.activity.stage.awaitingAck, ∀ maker kind, (kind, p.1) ∈ takings (g maker) →
    p.2.request.kind? = some kind
  reported : ∀ id outcome, .report (.acknowledged id outcome) ∈ Mailbox.jobs l.inbox.queue →
    Founded g id outcome
  known : ∀ id, Ledgers.Claimed g id → id < l.nextId
  sole : Ledgers.Sole g

/-- The session that is called. -/
def callee? (l : Link κ Transports) : Option SessionId :=
  match l.activity.asked? with
  | some (.call s _) => some s
  | some (.chain _) | some (.create _) | some (.release _) | none => none

/-- **What waits, what is called and what is over** is what the ledgers say. -/
structure Correlated (l : Link κ Transports) (g : Ledgers) : Prop extends Kept l g where
  booked : l.world.Booked l.callee? g
  carries : ∀ s c, l.activity.asked? = some (.call s c) → l.world.Carries c
  /-- While a session is called for a request, no client has taken it. -/
  calling : ∀ s c id, l.activity.levels = [(.call s c, .requesting id)] →
    ¬ Ledgers.Claimed g id ∧ ∃ op kind, (id, op) ∈ l.activity.stage.awaitingAck ∧
      op.request.kind? = some kind ∧ c.tracked? = some (kind, id)
  ends : ∀ op frame kind, l.activity.levels = [(.chain (.complete op), frame)] →
    op.request.kind? = some kind → Verdict g kind op ∨ op.GivenUp frame

lemma callee?_of_levels {s : SessionId} {c : SessionCall} {frame : Frame κ}
    (h : l.activity.levels = [(.call s c, frame)]) : l.callee? = some s := by
  rw [callee?, Activity.asked?_of_levels h]

/-! ### What is sent to the pipeline -/

/-- A job that brings no operation, and reports nothing of a request but what a ledger says. -/
structure Harmless (g : Ledgers) (job : Job κ) : Prop where
  brings : job.operation? = none
  founded : ∀ id outcome, job = .report (.acknowledged id outcome) → Founded g id outcome

lemma harmless_abandon : Harmless g (.abandon : Job κ) := ⟨rfl, by rintro id outcome ⟨⟩⟩

lemma harmless_reports {reports : List Report}
    (h : ∀ id outcome, .acknowledged id outcome ∈ reports → Founded g id outcome) :
    ∀ job ∈ reports.map Job.report, Harmless g (job : Job κ) := by
  intro job hjob
  obtain ⟨r, hr, rfl⟩ := List.mem_map.mp hjob
  refine ⟨rfl, ?_⟩
  rintro id outcome ⟨⟩
  exact h id outcome hr

lemma mem_queued {op : Operation κ} : op ∈ l.queued ↔ .run op ∈ Mailbox.jobs l.inbox.queue := by
  rw [Link.queued, List.mem_filterMap]
  constructor
  · rintro ⟨job, hjob, he⟩
    cases job <;> cases he
    exact hjob
  · exact fun hjob => ⟨_, hjob, rfl⟩

/-- The jobs that wait have waited before, or are harmless. -/
def Trusted (l l' : Link κ Transports) (g : Ledgers) : Prop :=
  ∀ job ∈ Mailbox.jobs l'.inbox.queue, job ∈ Mailbox.jobs l.inbox.queue ∨ Harmless g job

lemma trusted_of_offer {jobs : List (Job κ)} (hi : l'.inbox = l.inbox.offer jobs)
    (h : ∀ job ∈ jobs, Harmless g job) : Trusted l l' g := by
  intro job hjob
  rw [hi] at hjob
  exact (Mailbox.mem_jobs_offer hjob).imp_right (h job)

lemma trusted_of_put {jobs : List (Job κ)} (hi : l'.inbox = l.inbox.put jobs)
    (h : ∀ job ∈ jobs, Harmless g job) : Trusted l l' g := by
  intro job hjob
  rw [hi, Mailbox.jobs_put, List.mem_append] at hjob
  exact hjob.imp_right (h job)

lemma trusted_of_subset (h : Mailbox.jobs l'.inbox.queue ⊆ Mailbox.jobs l.inbox.queue) :
    Trusted l l' g := fun _ hjob => .inl (h hjob)

lemma Trusted.queued (h : Trusted l l' g) {op : Operation κ} (hop : op ∈ l'.queued) :
    op ∈ l.queued := by
  rcases h _ (mem_queued.mp hop) with hold | hnew
  · exact mem_queued.mpr hold
  · cases hnew.brings

/-- What is reported is what the ledgers say. -/
lemma Kept.reported_of_trusted (h : l.Kept g) (hgrows : Ledgers.Grows g g')
    (hjobs : Trusted l l' g') :
    ∀ id outcome, .report (.acknowledged id outcome) ∈ Mailbox.jobs l'.inbox.queue →
      Founded g' id outcome := by
  intro id outcome hmem
  rcases hjobs _ hmem with hold | hnew
  · exact (h.reported id outcome hold).mono hgrows
  · exact hnew.founded id outcome rfl

/-- No client takes a request, and nothing but harmless jobs is sent. -/
lemma Kept.of_same (h : l.Kept g) (hgrows : Ledgers.Grows g g')
    (hsame : Ledgers.SameTakings g g') (hjobs : Trusted l l' g') (ha : l'.activity = l.activity)
    (hn : l'.nextId = l.nextId) : l'.Kept g' where
  sorted := ha ▸ h.sorted
  clean op hop := h.clean op (hjobs.queued hop)
  queued op hop := mt hsame.claimed (h.queued op (hjobs.queued hop))
  waiting p hp maker kind hmem := h.waiting p (ha ▸ hp) maker kind (hsame maker ▸ hmem)
  reported := h.reported_of_trusted hgrows hjobs
  known id hclaimed := hn ▸ h.known id (hsame.claimed hclaimed)
  sole := hsame.sole h.sole

/-- A client takes the request of an operation that waits. -/
lemma Kept.of_adds (h : l.Kept g) (hsound : l.Sound) (hgrows : Ledgers.Grows g g')
    {kind : AckKind} {id : Nat} (hadds : Ledgers.Adds g g' kind id)
    (hfree : ¬ Ledgers.Claimed g id) {op : Operation κ}
    (hwaits : (id, op) ∈ l.activity.stage.awaitingAck) (hkind : op.request.kind? = some kind)
    (hjobs : Trusted l l' g') (ha : l'.activity = l.activity) (hn : l'.nextId = l.nextId) :
    l'.Kept g' := by
  have hfiled := hsound.single.orderly.filed
  have hown : op.id = id := (hfiled.own _ hwaits).symm
  have hhand : op ∈ l.activity.inHand :=
    List.mem_append_right _ (List.mem_append_right _ (List.mem_map_of_mem hwaits))
  refine
    { sorted := ha ▸ h.sorted
      clean := fun op hop => h.clean op (hjobs.queued hop)
      queued := ?_
      waiting := ?_
      reported := h.reported_of_trusted hgrows hjobs
      known := ?_
      sole := hadds.sole hfree h.sole }
  · intro other hother hclaimed
    have hother := hjobs.queued hother
    rcases hadds.claimed hclaimed with hclaimed | he
    · exact h.queued other hother hclaimed
    · have hd := hsound.distinct
      rw [List.map_append, List.nodup_append] at hd
      exact hd.2.2 other.id (List.mem_map_of_mem hother) op.id (List.mem_map_of_mem hhand)
        (he.trans hown.symm)
  · intro p hp maker other hmem
    rw [ha] at hp
    rcases hadds.mem hmem with hmem | ⟨rfl, he⟩
    · exact h.waiting p hp maker other hmem
    · -- nobody else waits under that number
      obtain ⟨k, held⟩ := p
      cases (he : k = id)
      have hp' := hfiled.awaiting?_of_mem hp
      have hwaits' := hfiled.awaiting?_of_mem hwaits
      cases hp'.symm.trans hwaits'
      exact hkind
  · intro k hclaimed
    rw [hn]
    rcases hadds.claimed hclaimed with hclaimed | rfl
    · exact h.known k hclaimed
    · exact hown ▸ hsound.known op (List.mem_append_right _ hhand)

/-- The stage stays as it is, and no client takes a request. -/
lemma Correlated.of_same (h : l.Correlated g) (hgrows : Ledgers.Grows g g')
    (hsame : Ledgers.SameTakings g g') (hkept : l'.Kept g') (ha : l'.activity = l.activity)
    (hbooked : l'.world.Booked l.callee? g') (hu : l'.world.underway = l.world.underway) :
    l'.Correlated g' := by
  refine ⟨hkept, ?_, ?_, ?_, ?_⟩
  · rw [callee?, ha]
    exact hbooked
  · rw [ha]
    exact fun s c hasked p hp => h.carries s c hasked p (hu ▸ hp)
  · rw [ha]
    intro s c id hlevels
    obtain ⟨hfree, hwaits⟩ := h.calling s c id hlevels
    exact ⟨mt hsame.claimed hfree, hwaits⟩
  · rw [ha]
    intro op frame kind hlevels hkind
    exact (h.ends op frame kind hlevels hkind).imp_left fun hv => hv.mono hgrows hsame

/-! ### Moves of the stage -/

/-- **The stage makes a move**, and the ledgers stay as they are. -/
lemma Kept.move {m : Move κ} {traces : List (Trace κ)} (h : l.Kept g)
    (hsingle : l.activity.Single) (hm : l.activity.Driven m)
    (hs : l.activity.step m = some (l'.activity, traces))
    (hbrings : ∀ op ∈ m.brings, op ∈ l.queued)
    (hjobs : Mailbox.jobs l'.inbox.queue ⊆ Mailbox.jobs l.inbox.queue)
    (hid : l'.nextId = l.nextId) (hidle : l'.world.underway = none)
    (hbooked : l'.world.Booked none g)
    (hends : ∀ op frame kind, l.activity.Ends m op frame → op.request.kind? = some kind →
      Verdict g kind op ∨ op.GivenUp frame) : l'.Correlated g := by
  have hclean : ∀ op ∈ m.brings, op.error = none := fun op hop => h.clean op (hbrings op hop)
  have htrusted : Trusted l l' g := trusted_of_subset hjobs
  refine
    { sorted := hsingle.sorted_step hm h.sorted hclean hs
      clean := fun op hop => h.clean op (htrusted.queued hop)
      queued := fun op hop => h.queued op (htrusted.queued hop)
      waiting := ?_
      reported := fun id outcome hmem => h.reported id outcome (hjobs hmem)
      known := fun id hclaimed => hid ▸ h.known id hclaimed
      sole := h.sole
      booked := hbooked.idle hidle _
      carries := fun s c _ p hp => nomatch hidle.symm.trans hp
      calling := ?_
      ends := ?_ }
  · intro p hp maker kind hmem
    rcases hsingle.kept_step hm h.sorted hs p hp with hp | ⟨op, hop, rfl, -⟩
    · exact h.waiting p hp maker kind hmem
    · exact (h.queued op (hbrings op hop) ⟨maker, kind, hmem⟩).elim
  · intro s c id hlevels
    obtain ⟨op, hop, rfl, hwaits, kind, hkind, hc⟩ := hsingle.calls_step hm h.sorted hs hlevels
    exact ⟨h.queued op (hbrings op hop), op, kind, hwaits, hkind, hc⟩
  · intro op frame kind hlevels hkind
    refine hends op frame kind ?_ hkind
    exact hsingle.ends_step hm h.sorted hs hlevels (Option.isSome_of_eq_some hkind)

/-- Whatever ends when the surroundings return is given up. -/
lemma givenUp_of_proceed {a : Activity κ} {op : Operation κ} {frame : Frame κ}
    (h : a.Ends .proceed op frame) : op.GivenUp frame := by
  cases h
  exact ⟨rfl, _, _, rfl⟩

/-! ### Everything that happens -/

lemma grows_note (incident : Incident κ Stirring) (l l' : Link κ Transports) (g : Ledgers) :
    Ledgers.Grows g (Ledgers.note incident l l' g) := by
  cases incident with
  | shutdown worker s => exact .refl g
  | happening happening =>
      cases happening with
      | submit _ _ _ | beginUser | endUser _ | handle _ => exact .refl g
      | stir e =>
          cases e with
          | drive maker turn =>
              exact l.world.exists_record_eq maker.session (some (maker.number, .turn turn)) g
          | room _ _ => exact .refl g
      | work =>
          rw [Ledgers.note]
          cases l.activity.asked? with
          | none => exact .refl g
          | some ask =>
              cases ask with
              | call s c => exact l.world.exists_record_eq _ _ g
              | release s => exact l.world.exists_recordRelease_eq s g
              | chain _ | create _ => exact .refl g

/-- A call that hands over a request is made for it. -/
lemma frame_of_tracked? {s : SessionId} {c : SessionCall} {frame : Frame κ}
    (h : (Ask.call s c).Fits frame) {kind : AckKind} {id : Nat}
    (hc : c.tracked? = some (kind, id)) : frame = .requesting id := by
  cases frame with
  | requesting other =>
      have hid : c.ackId? = some other := h
      cases c with
      | publish _ _ _ | subscribe _ _ | unsubscribe _ _ =>
          cases hid
          cases hc
          rfl
      | connect _ _ | reconnect _ | disconnect => cases hc
  | starting slot =>
      cases slot with
      | connect =>
          rcases h with ⟨p, cert, rfl⟩ | ⟨p, rfl⟩ <;> cases hc
      | disconnect =>
          rw [show c = .disconnect from h] at hc
          cases hc
  | last | superseding _ _ _ | creating _ _ | replacing _ | announced | retired _
  | abandoning _ _ => exact h.elim

/-- **A call of a session makes a step**, and what waits is what the ledgers say then. -/
lemma Correlated.call (h : l.Correlated g) (hsound : l.Sound) {s : SessionId} {c : SessionCall}
    {frame : Frame κ} (hlevels : l.activity.levels = [(.call s c, frame)])
    {answer : Option Answer} {reports : List Report} {w : Transports}
    (hsteps : Transports.Steps l.world s c answer reports w)
    (hfair : ∀ maker, Fair (Ledgers.note (.happening .work) l l' g maker)) :
    Kept { l with world := w, inbox := l.inbox.put (reports.map Job.report) }
        (Ledgers.note (.happening .work) l l' g) ∧
      w.Booked (some s) (Ledgers.note (.happening .work) l l' g) ∧ w.Carries c ∧
      (answer ≠ some (.returned (.ok ())) →
        Ledgers.SameTakings g (Ledgers.note (.happening .work) l l' g)) := by
  have hasked := Activity.asked?_of_levels hlevels
  have hgrows := grows_note (.happening .work) l l' g
  have hnote : Ledgers.note (.happening .work) l l' g
      = l.world.record s ((l.world.phase? s c).bind Phase.stroke?) g := by
    rw [Ledgers.note, hasked]
  rw [hnote] at hfair hgrows ⊢
  have hcarries := h.carries s c hasked
  have hbooked := h.booked
  rw [callee?_of_levels hlevels] at hbooked
  obtain ⟨hbooked', hreported⟩ := hbooked.step hsteps hfair
  have hfounded : ∀ id outcome, .acknowledged id outcome ∈ reports →
      Founded (l.world.record s ((l.world.phase? s c).bind Phase.stroke?) g) id outcome := by
    intro id outcome hmem
    obtain ⟨told, maker, he, hj⟩ := hreported _ hmem
    exact ⟨maker, told, he, hj⟩
  have hjobs : Trusted l { l with world := w, inbox := l.inbox.put (reports.map Job.report) }
      (l.world.record s ((l.world.phase? s c).bind Phase.stroke?) g) :=
    trusted_of_put rfl (harmless_reports hfounded)
  refine ⟨?_, hbooked', hcarries.steps hsteps, fun hanswer => ?_⟩
  · rcases hcarries.takings hsteps g with hsame | ⟨-, kind, id, hc, hadds⟩
    · exact h.toKept.of_same hgrows hsame hjobs rfl rfl
    · have hfits : (Ask.call s c).Fits frame :=
        hsound.single.orderly.fits _ (Activity.mem_of_levels hlevels)
      rw [frame_of_tracked? hfits hc] at hlevels
      obtain ⟨hfree, op, kind', hwaits, hkind, hc'⟩ := h.calling s c id hlevels
      cases hc.symm.trans hc'
      exact h.toKept.of_adds hsound hgrows hadds hfree hwaits hkind hjobs rfl rfl
  · exact (hcarries.takings hsteps g).resolve_right fun htaken => hanswer htaken.1

/-- An operation whose call was not started has been refused. -/
lemma Correlated.verdict_of_answer (h : l.Correlated g) (hsound : l.Sound) {s : SessionId}
    {c : SessionCall} {frame : Frame κ} (hlevels : l.activity.levels = [(.call s c, frame)])
    {answer : Answer} {reports : List Report} {w : Transports}
    (hsteps : Transports.Steps l.world s c (some answer) reports w)
    (hsame : some answer ≠ some (.returned (.ok ())) → Ledgers.SameTakings g g')
    {op : Operation κ} {next : Frame κ} {kind : AckKind}
    (hends : l.activity.Ends (ended answer) op next) : Verdict g' kind op := by
  cases answer with
  | panicked message => cases hends
  | returned outcome =>
      cases hends with
      | @refused ask id f held here waits =>
          rw [hlevels] at here
          cases here
          obtain ⟨hfree, -, kind, -, -, hc⟩ := h.calling s c id hlevels
          have hown : held.id = id :=
            (hsound.single.orderly.filed.own _ (Stage.mem_of_awaiting? waits)).symm
          have hcarries := h.carries s c (Activity.asked?_of_levels hlevels)
          refine .refused rfl ?_ ?_
          · rcases hcarries.answered hsteps hc rfl with hok | ⟨fault, hfault, he⟩
            · cases hok
            · cases he
              rcases hfault with rfl | rfl <;> simp [Operation.refusals]
          · rw [Operation.id_fail, hown]
            exact mt (hsame (by rintro ⟨⟩)).claimed hfree

/-- An operation that the next job ends was refused, ends for what is reported of it, or is given
up. -/
lemma Kept.verdict_of_job (h : l.Kept g) (hsound : l.Sound) {job : Job κ}
    {rest : List (Command (Job κ))} (hqueue : l.inbox.queue = .run job :: rest) {op : Operation κ}
    {frame : Frame κ} {kind : AckKind} (hends : l.activity.Ends (start job) op frame)
    (hkind : op.request.kind? = some kind) : Verdict g kind op ∨ op.GivenUp frame := by
  have hfirst : job ∈ Mailbox.jobs l.inbox.queue := by
    rw [hqueue]
    exact List.mem_cons_self
  cases job with
  | run queued =>
      cases hends
      exact .inl (.refused rfl List.mem_cons_self (h.queued queued (mem_queued.mpr hfirst)))
  | abandon =>
      cases hends
      exact .inr ⟨rfl, _, _, rfl⟩
  | report r =>
      cases hends with
      | @reported id outcome held waits =>
          have hwaits := Stage.mem_of_awaiting? waits
          have hown : id = held.id := hsound.single.orderly.filed.own _ hwaits
          obtain ⟨maker, told, he, hj⟩ := h.reported id outcome hfirst
          cases he
          have hkind' : held.request.kind? = some kind := by
            cases hm : told.2.mapError Failure.ofTransport <;> rw [hm] at hkind <;> exact hkind
          have hclean := (h.sorted.stage.waiting _ hwaits).2
          refine .inl (verdict_of_justifies hj hown hclean fun other hother => ?_)
          rw [← hown] at hother
          have hsame := h.waiting _ hwaits maker other hother
          exact Option.some.inj (hsame.symm.trans hkind')

/-- **The pipeline's worker** leaves what waits, what is called and what is over with what the
ledgers say. -/
theorem Correlated.tasks (h : l.Correlated g) (hsound : l.Sound) (hwired : l.Wired)
    (hfair : ∀ maker, Fair (Ledgers.note (.happening .work) l l' g maker))
    (ht : Tasks Transports.model l l') :
    l'.Correlated (Ledgers.note (.happening .work) l l' g) := by
  cases ht with
  | @chain c frame a traces hlevels hstep log sink =>
      have hidle := hwired.idle hlevels (by rintro s c ⟨⟩)
      rw [Ledgers.note, Activity.asked?_of_levels hlevels]
      exact h.toKept.move hsound.single (m := .proceed) (.inl trivial) hstep
        (List.forall_mem_nil _) (List.Subset.refl _) rfl hidle (h.booked.idle hidle _)
        fun op next kind hends _ => .inr (givenUp_of_proceed hends)
  | @create args frame a traces hlevels hstep log sink =>
      have hidle := hwired.idle hlevels (by rintro s c ⟨⟩)
      rw [Ledgers.note, Activity.asked?_of_levels hlevels]
      refine h.toKept.move hsound.single (m := .created _) (.inl trivial) hstep
        (List.forall_mem_nil _) (List.Subset.refl _) rfl hidle
        ((h.booked.create hidle args).idle hidle _) ?_
      rintro op next kind ⟨⟩
  | @call s c frame reports world hlevels hcall =>
      obtain ⟨hkept, hbooked, hcarries, hsame⟩ :=
        h.call hsound hlevels (Transports.steps_of_step hcall) hfair
      have hsame := hsame (by rintro ⟨⟩)
      have hcallee : callee? { l with world, inbox := l.inbox.put (reports.map Job.report) }
          = some s := callee?_of_levels hlevels
      refine ⟨hkept, hcallee ▸ hbooked, ?_, ?_, ?_⟩
      · intro other call hasked
        cases (Activity.asked?_of_levels hlevels).symm.trans hasked
        exact hcarries
      · intro other call id hlevels'
        obtain ⟨hfree, hwaits⟩ := h.calling other call id hlevels'
        exact ⟨mt hsame.claimed hfree, hwaits⟩
      · intro op next kind hlevels'
        cases hlevels.symm.trans hlevels'
  | @answer s c frame answer reports world a traces hlevels hcall hstep log sink =>
      have hsteps := Transports.steps_of_step hcall
      obtain ⟨hkept, hbooked, hcarries, hsame⟩ := h.call hsound hlevels hsteps hfair
      have hidle : world.underway = none := by
        obtain ⟨-, hstepped⟩ := Transports.stepped (hwired.due hlevels) hcall
        cases hstepped with
        | finished _ hnone | started _ _ hnone => exact hnone
      refine hkept.move hsound.single (byWorker_ended answer hlevels).driven hstep ?_
        (List.Subset.refl _) rfl hidle (hbooked.idle hidle _) ?_
      · rw [brings_ended]
        exact List.forall_mem_nil _
      · exact fun op next kind hends _ =>
          .inl (h.verdict_of_answer hsound hlevels hsteps hsame hends)
  | @release s frame a traces hlevels hstep log sink =>
      have hidle := hwired.idle hlevels (by rintro s c ⟨⟩)
      rw [Ledgers.note, Activity.asked?_of_levels hlevels] at hfair ⊢
      obtain ⟨hbooked, hreported⟩ := (h.booked.idle hidle none).release hidle hfair
      have hkept : Kept { l with
          world := (l.world.release s).2
          inbox := l.inbox.put ((l.world.release s).1.map Job.report) }
          (l.world.recordRelease s g) := by
        refine h.toKept.of_same (l.world.exists_recordRelease_eq s g)
          (l.world.takings_recordRelease s g) (trusted_of_put rfl (harmless_reports ?_)) rfl rfl
        intro id outcome hmem
        obtain ⟨told, maker, he, hj⟩ := hreported _ hmem
        exact ⟨maker, told, he, hj⟩
      exact hkept.move hsound.single (m := .proceed) (.inl trivial) hstep
        (List.forall_mem_nil _) (List.Subset.refl _) rfl
        ((l.world.underway_release s).trans hidle) hbooked
        fun op next kind hends _ => .inr (givenUp_of_proceed hends)
  | @job job rest a traces hlevels hphase hqueue hstep log sink =>
      have hidle := hwired.idle_of_nil hlevels
      rw [Ledgers.note, Activity.asked?_of_nil hlevels]
      refine h.toKept.move hsound.single (driven_start hlevels job) hstep ?_ ?_ rfl hidle
        (h.booked.idle hidle _) ?_
      · intro op hop
        rw [queued_of_job hqueue]
        exact List.mem_append_left _ hop
      · rw [hqueue]
        exact List.subset_cons_self _ _
      · exact fun op next kind => h.toKept.verdict_of_job hsound hqueue
  | leave hlevels hleaves log =>
      rw [Ledgers.note, Activity.asked?_of_nil hlevels]
      exact h.of_same (.refl g) (fun _ => rfl)
        (h.toKept.of_same (.refl g) (fun _ => rfl)
          (trusted_of_subset hleaves.jobs_sublist.subset) rfl rfl) rfl
        h.booked rfl

/-- An operation is submitted. -/
lemma Correlated.submit (h : l.Correlated g) (caller : Option Context) (request : Request)
    (callback : κ) : (l.submit caller request callback).Correlated g := by
  obtain ⟨log, heq⟩ := l.exists_submit_eq_offer caller request callback
  have hqueued : ∀ op ∈ (l.submit caller request callback).queued,
      op ∈ l.queued ∨ op = l.fresh request callback := by
    intro op hop
    rw [heq] at hop
    rcases Mailbox.mem_jobs_offer (mem_queued.mp hop) with hold | hnew
    · exact .inl (mem_queued.mpr hold)
    · cases List.mem_singleton.mp hnew
      exact .inr rfl
  rw [heq] at hqueued ⊢
  refine ⟨⟨h.sorted, ?_, ?_, h.waiting, ?_, ?_, h.sole⟩, h.booked, h.carries, h.calling, h.ends⟩
  · intro op hop
    rcases hqueued op hop with hold | rfl
    · exact h.clean op hold
    · rfl
  · intro op hop
    rcases hqueued op hop with hold | rfl
    · exact h.queued op hold
    · exact fun hclaimed => Nat.lt_irrefl _ (h.known _ hclaimed)
  · intro id outcome hmem
    rcases Mailbox.mem_jobs_offer hmem with hold | hnew
    · exact h.reported id outcome hold
    · cases List.mem_singleton.mp hnew
  · exact fun id hclaimed => Nat.lt_succ_of_lt (h.known id hclaimed)

/-- A driver has its turn. -/
lemma Correlated.drive (h : l.Correlated g) {maker : Maker} {turn : DriverTurn}
    {reports : List Report} {w : Transports}
    (hdrive : l.world.drive maker.session maker.number turn = some (reports, w))
    (hu : w.underway = l.world.underway)
    (hfair : ∀ other,
      Fair (l.world.record maker.session (some (maker.number, .turn turn)) g other)) :
    Correlated { l with world := w, inbox := l.inbox.offer (reports.map Job.report) }
      (l.world.record maker.session (some (maker.number, .turn turn)) g) := by
  have hgrows : Ledgers.Grows g
      (l.world.record maker.session (some (maker.number, .turn turn)) g) :=
    l.world.exists_record_eq _ _ g
  have hsame : Ledgers.SameTakings g
      (l.world.record maker.session (some (maker.number, .turn turn)) g) := by
    refine (l.world.record_cases _ _ _ g).resolve_right ?_
    rintro ⟨d, kind, id, -, hx, -⟩
    cases turn with
    | wake wakeup => cases hx
    | advance =>
        simp only [Connection.entry?] at hx
        split at hx <;> cases hx
  obtain ⟨hbooked, hreported⟩ := h.booked.drive hdrive hfair
  refine h.of_same hgrows hsame (h.toKept.of_same hgrows hsame
    (trusted_of_offer rfl (harmless_reports ?_)) rfl rfl) rfl hbooked hu
  intro id outcome hmem
  obtain ⟨told, other, he, hj⟩ := hreported id outcome hmem
  exact ⟨other, told, he, hj⟩

/-- Nothing changes that the ledgers tell of. -/
lemma Correlated.of_trusted (h : l.Correlated g) (hjobs : Trusted l l' g)
    (ha : l'.activity = l.activity) (hw : l'.world = l.world) (hn : l'.nextId = l.nextId) :
    l'.Correlated g :=
  h.of_same (.refl g) (fun _ => rfl) (h.toKept.of_same (.refl g) (fun _ => rfl) hjobs ha hn) ha
    (hw ▸ h.booked) (hw ▸ rfl)

/-- **Everything that happens** leaves what waits, what is called and what is over with what the
ledgers say. -/
theorem Correlated.does (h : l.Correlated g) (hsound : l.Sound) (hwired : l.Wired)
    {incident : Incident κ Stirring} (hs : l.does Transports.world incident = some l')
    (hfair : ∀ maker, Fair (Ledgers.note incident l l' g maker)) :
    l'.Correlated (Ledgers.note incident l l' g) := by
  cases incident with
  | happening happening =>
      cases happening with
      | submit caller request callback =>
          cases hs
          exact h.submit caller request callback
      | stir e =>
          obtain ⟨⟨reports, w⟩, hw, rfl⟩ := Option.map_eq_some_iff.mp hs
          rw [happen_eq_offer]
          cases e with
          | drive maker turn =>
              obtain ⟨c, c', effects, -, -, -, -, -, -, hu, -⟩ := Transports.drive_face hw
              exact h.drive hw hu hfair
          | room maker room =>
              obtain ⟨t, ht, he⟩ := Option.map_eq_some_iff.mp hw
              cases he
              refine h.of_same (.refl g) (fun _ => rfl) (h.toKept.of_same (.refl g) (fun _ => rfl)
                (trusted_of_offer rfl (List.forall_mem_nil _)) rfl rfl) rfl
                (h.booked.room ht maker.number room hfair) rfl
      | work => exact h.tasks hsound hwired hfair (hsound.tasks hs)
      | beginUser =>
          obtain ⟨ha, hi, hw, hn⟩ := beginUser_core hs
          exact h.of_trusted (trusted_of_subset (hi ▸ List.Subset.refl _)) ha hw hn
      | endUser panic =>
          obtain ⟨log, sink, rfl⟩ := exists_eq_of_endUser hs
          exact h.of_trusted (trusted_of_subset (List.Subset.refl _)) rfl rfl rfl
      | handle kept =>
          cases hs
          exact h.of_trusted (trusted_of_subset (List.Subset.refl _)) rfl rfl rfl
  | shutdown worker s =>
      obtain ⟨⟨next, s'⟩, hstep, rfl⟩ := Option.map_eq_some_iff.mp hs
      obtain ⟨inbox, outbox, log, rfl, hinbox⟩ := exists_shutdownStep_eq hstep
      refine h.of_trusted ?_ rfl rfl rfl
      rcases hinbox with hoffer | ⟨hjobs, -⟩
      · exact trusted_of_offer hoffer (List.forall_mem_singleton.mpr harmless_abandon)
      · exact trusted_of_subset (hjobs ▸ List.Subset.refl _)

lemma correlated_attend {c : PipelineConfig} {listens : Bool} {config : TransportConfig}
    {files : Config.Files} (hbuild : Link.build c listens (some { config, files }) = .ok l)
    (incidents : List (Incident κ Stirring))
    (hfair : ∀ maker,
      Fair ((attend Transports.world Ledgers.note (l, fun _ => []) incidents).2 maker)) :
    (attend Transports.world Ledgers.note (l, fun _ => []) incidents).1.Sound ∧
      (attend Transports.world Ledgers.note (l, fun _ => []) incidents).1.Correlated
        (attend Transports.world Ledgers.note (l, fun _ => []) incidents).2 := by
  refine (wired_attend_induction (fun l g => (∀ maker, Fair (g maker)) → l.Correlated g) ?_ hbuild
    ?_ incidents).imp_right fun hcorrelated => hcorrelated hfair
  · exact fun incident l g next hsound hwired hl hn hfair =>
      (hl ((grows_note incident l next g).fair hfair)).does hsound hwired hn hfair
  · intro _
    cases hbuild
    refine ⟨⟨Activity.sorted_new _, List.forall_mem_nil _, List.forall_mem_nil _,
      List.forall_mem_nil _, ?_, ?_, ?_, ?_⟩, ⟨?_, fun _ _ _ => rfl⟩, ?_, ?_, ?_⟩
    · rintro id outcome ⟨⟩
    · rintro id ⟨maker, kind, hmem⟩
      cases hmem
    · exact fun _ => List.nodup_nil
    · rintro maker other kind kind' id ⟨⟩
    · rintro s t ⟨⟩
    · rintro s c ⟨⟩
    · rintro s c id ⟨⟩
    · rintro op frame kind ⟨⟩

/-- **An operation that is acknowledged and is completed** has come to its end for a reason of its
own, or the link has been shut down, and it is cancelled.  Nobody else has taken its request, and
what answers it answers nobody else. -/
theorem verdict_of_completed {c : PipelineConfig} {listens : Bool} {config : TransportConfig}
    {files : Config.Files} (hbuild : Link.build c listens (some { config, files }) = .ok l)
    (incidents : List (Incident κ Stirring))
    (hrun : attend Transports.world Ledgers.note (l, fun _ => []) incidents = (l', g))
    (hfair : ∀ maker, Fair (g maker)) {op : Operation κ} {kind : AckKind}
    (hkind : op.request.kind? = some kind)
    (hover : l'.activity.asked? = some (.chain (.complete op))) :
    (Verdict g kind op ∨
        op.error = some Stage.cancelled ∧ ∃ worker s, .shutdown worker s ∈ incidents) ∧
      Ledgers.Sole g ∧
      ∀ maker n outcome, Answered (g maker) n kind op.id outcome →
        ∀ kind' id outcome', Answered (g maker) n kind' id outcome' →
          kind' = kind ∧ id = op.id ∧ outcome' = outcome := by
  have hpair := correlated_attend hbuild incidents (by rwa [hrun])
  rw [hrun] at hpair
  obtain ⟨hsound, h⟩ := hpair
  obtain ⟨frame, hlevels⟩ := hsound.single.levels_of_asked? hover
  refine ⟨?_, h.sole, ?_⟩
  · refine (h.ends op frame kind hlevels hkind).imp_right ?_
    rintro ⟨herror, left, session, rfl⟩
    refine ⟨herror, by_contra fun hnobody => ?_⟩
    -- nothing is given up in a link that nobody shuts down
    have hsteady : l'.Steady := by
      have hattend : (attend Transports.world Ledgers.note (l, fun _ => []) incidents).1.Steady :=
        steady_attend (steady_build hbuild) fun worker s hmem => hnobody ⟨worker, s, hmem⟩
      rwa [hrun] at hattend
    exact hsteady.lone.still _ (Activity.mem_of_levels hlevels)
  · exact fun maker n outcome answer kind' id outcome' other =>
      Answered.unique (hfair maker) answer other

/-- A connection comes up. -/
def online : List (Happening Nat Stirring) :=
  [.submit none (.setConnectionArgs ⟨"hub", "device", "id", none⟩) 10, .work, .work, .work,
    .submit none .connect 20, .work, .work, .work,
    .stir (.drive ⟨0, 0⟩ (.wake (.event (.arrived (.connAck .success))))),
    .stir (.drive ⟨0, 0⟩ .advance), .stir (.drive ⟨0, 0⟩ .advance), .work, .work, .work]

/-- A request to publish and one to subscribe leave under the same id; the broker acknowledges the
subscription. -/
def sameIds : List (Happening Nat Stirring) :=
  online ++ [.submit none (.publish "t" []) 30, .work, .work, .work, .work,
    .submit none (.subscribe "t") 40, .work, .work, .work, .work,
    .stir (.drive ⟨0, 0⟩ (.wake (.event (.left (.request .subscribe 1))))),
    .stir (.drive ⟨0, 0⟩ .advance),
    .stir (.drive ⟨0, 0⟩ (.wake (.event (.left (.request .publish 1))))),
    .stir (.drive ⟨0, 0⟩ .advance),
    .stir (.drive ⟨0, 0⟩ (.wake (.event (.arrived (.subAck 1 [some .atMostOnce]))))),
    .stir (.drive ⟨0, 0⟩ .advance), .work]

/-- How that run ends: client and broker have kept to the order, and the subscription is being
completed. -/
lemma sameIds_ends {l : Link Nat Transports}
    (h : Link.build {} false (some .unsecured) = .ok l) :
    let p := attend Transports.world Ledgers.note (l, fun _ => []) (sameIds.map .happening)
    (∀ maker, Fair (p.2 maker)) ∧
      p.1.activity.asked? = some (.chain (.complete ⟨4, .subscribe "t", none, some 40⟩)) := by
  cases h
  refine ⟨?_, by decide⟩
  -- there is one connection, so all other ledgers are empty
  rintro ⟨_ | s, _ | n⟩
  · decide
  · exact (fair_nil : Fair ([] : Ledger Nat))
  · exact (fair_nil : Fair ([] : Ledger Nat))
  · exact (fair_nil : Fair ([] : Ledger Nat))

/-- The subscription is completed, since it left with the packet that is acknowledged; nobody else
has come to an end. -/
theorem verdict_of_sameIds :
    ∃ l : Link Nat Transports, Link.build {} false (some .unsecured) = .ok l ∧
      let p := attend Transports.world Ledgers.note (l, fun _ => []) (sameIds.map .happening)
      let op : Operation Nat := ⟨4, .subscribe "t", none, some 40⟩
      (∀ maker, Fair (p.2 maker)) ∧ op.request.kind? = some .subscribe ∧
        p.1.activity.asked? = some (.chain (.complete op)) ∧ Verdict p.2 .subscribe op ∧
        Ledgers.Sole p.2 ∧
          ∀ maker n outcome, Answered (p.2 maker) n .subscribe op.id outcome →
            ∀ kind' id outcome', Answered (p.2 maker) n kind' id outcome' →
              kind' = .subscribe ∧ id = op.id ∧ outcome' = outcome := by
  obtain ⟨l, hl⟩ : ∃ l : Link Nat Transports, Link.build {} false (some .unsecured) = .ok l :=
    ⟨_, rfl⟩
  obtain ⟨hfair, hover⟩ := sameIds_ends hl
  obtain ⟨hends, hrest⟩ :=
    verdict_of_completed hl (sameIds.map .happening) (Prod.eta _).symm hfair rfl hover
  refine ⟨l, hl, hfair, rfl, hover, ⟨hends.resolve_right ?_, hrest⟩⟩
  rintro ⟨⟨⟩, -⟩

/-- An operation to publish waits for its acknowledgement. -/
def outstanding : List (Happening Nat Stirring) :=
  online ++ [.submit none (.publish "t" []) 30, .work, .work, .work, .work]

/-- The link is shut down while an operation waits for its acknowledgement. -/
def closedEarly : List (Incident Nat Stirring) :=
  outstanding.map .happening ++ [.shutdown none .abandon, .happening .work]

/-- The operation is cancelled, although it was not rejected, and its connection has not come to its
end. -/
theorem cancelled_of_closedEarly :
    ∃ l : Link Nat Transports, Link.build {} false (some .unsecured) = .ok l ∧
      let p := attend Transports.world Ledgers.note (l, fun _ => []) closedEarly
      let op : Operation Nat := ⟨3, .publish "t" [], some Stage.cancelled, some 30⟩
      (∀ maker, Fair (p.2 maker)) ∧ op.request.kind? = some .publish ∧
        p.1.activity.asked? = some (.chain (.complete op)) ∧
        (∀ maker, .closed ∉ p.2 maker) ∧ ¬ Verdict p.2 .publish op := by
  refine ⟨_, rfl, ?_, rfl, by decide, ?_, ?_⟩
  · rintro ⟨_ | s, _ | n⟩
    · decide
    · exact (fair_nil : Fair ([] : Ledger Nat))
    · exact (fair_nil : Fair ([] : Ledger Nat))
    · exact (fair_nil : Fair ([] : Ledger Nat))
  · rintro ⟨_ | s, _ | n⟩
    · decide
    · exact (List.not_mem_nil : Entry.closed ∉ ([] : Ledger Nat))
    · exact (List.not_mem_nil : Entry.closed ∉ ([] : Ledger Nat))
    · exact (List.not_mem_nil : Entry.closed ∉ ([] : Ledger Nat))
  · intro hverdict
    cases hverdict with
    | answered fine answer => cases fine
    | turnedDown failed subscribes answer => cases failed
    | dropped failed dropped => cases failed
    | refused failed refusal never =>
        cases failed
        revert refusal
        decide

end Link

end DeviceLink
