import DeviceLink.Proofs.Link.Wiring
import DeviceLink.Proofs.Stage.Deeds
import DeviceLink.Proofs.Transport.Diary

/-!
# How incoming messages are delivered

A message crosses five places on its way: the driver that processes its packet, the queue of the
pipeline's worker, the stage, the root, and the queue of the callback worker.  Each of them takes
one thing after the other, so a message is never overtaken by another one, whatever else is on the
way.

* `Parcel` — a message as a driver has found it in a packet.
* **`events_stir`** — what happens in the world of transports reports just the message of the packet
  that a driver processes.
* **`Lone.events_step`** — the stage hands on just the message that it is brought.
* `Delivery` — the record of a run: what was processed, and what the handler was called with.
* `Link.inTransit` — the messages that are on their way, the oldest first.
* **`Delivered.happens`** — whatever was processed is on its way or has been handled.
* **`handled_once_in_order`** — the promise to the user's code.
-/

namespace DeviceLink

open Transport Dispatch

variable {κ : Type}

/-! ## What counts as a message -/

/-- The event that a report brings about, if it does. -/
def Report.event? : Report → Option Event
  | message topic payload => some (.incomingMessage topic payload)
  | connected | connectionFailed _ | disconnected _ | acknowledged _ _ => none

def Job.event? : Job κ → Option Event
  | report r => r.event?
  | run _ | abandon => none

def Move.event? : Move κ → Option Event
  | deliver r => r.event?
  | enter _ _ | abandon _ | proceed | created _ | answered _ | panic _ => none

def ChainCall.event? : ChainCall κ → Option Event
  | event e => some e
  | complete _ | pass _ | connected | disconnected => none

def Ask.event? : Ask κ → Option Event
  | chain c => c.event?
  | create _ | call _ _ | release _ => none

def Next.event? : Next κ → Option Event
  | ask a _ => a.event?
  | done | panic _ => none

def UserCall.event? : UserCall κ → Option Event
  | event e => some e
  | completion _ _ _ _ => none

/-! ## Drivers -/

/-- A message as the driver of a connection has found it in a packet. -/
structure Parcel where
  maker : Maker
  topic : String
  payload : List UInt8
  deriving DecidableEq

def Parcel.event (p : Parcel) : Event := .incomingMessage p.topic p.payload

/-- What the packet that a driver holds publishes, if it publishes anything. -/
def Transport.Driver.message? : Driver → Option (String × List UInt8)
  | holding (.arrived (.publish topic payload)) => some (topic, payload)
  | holding _ | waiting | announcing | cancelling | ending _ | lowering _ | draining _ _ | judging _
  | closing _ | returned => none

/-- Whatever the driver is going to say last is a last word. -/
def Transport.Driver.Concludes : Driver → Prop
  | closing last => ∀ n ∈ last, n.final
  | waiting | holding _ | announcing | cancelling | ending _ | lowering _ | draining _ _ | judging _
  | returned => True

namespace Transport

lemma Notice.event?_of_final {n : Notice} (h : n.final) : n.report.event? = none := by
  cases n with
  | connected | message topic payload => cases h
  | connectionFailed f | disconnected cause => rfl

lemma concludes_afterDraining (wasUp : Bool) (why : Ending) :
    (Connection.afterDraining wasUp why).Concludes := by
  have hsaid : ∀ cause, (Driver.closing (some (.disconnected cause))).Concludes := by
    rintro cause n ⟨⟩
    rfl
  cases why with
  | abandoned wanted =>
      cases wanted
      · rintro n ⟨⟩
      · exact hsaid none
  | left => exact hsaid none
  | failed f =>
      cases wasUp
      · trivial
      · exact hsaid _

/-- The messages among what others learn of a driver's turn. -/
def messagesOf (effects : List (Effect Nat)) : List Event :=
  (effects.map Effect.report).filterMap Report.event?

lemma messagesOf_told (told : List (Told Nat)) : messagesOf (told.map Effect.told) = [] := by
  rw [messagesOf, List.map_map, List.filterMap_map, List.filterMap_eq_nil_iff]
  exact fun _ _ => rfl

/-- **A turn of a driver** tells of the message of the packet that it holds, and of no other. -/
theorem Connection.messages_of_drive {c c' : Connection Nat} {turn : DriverTurn}
    {effects : List (Effect Nat)} (hc : c.driver.Concludes)
    (h : c.drive turn = some (c', effects)) :
    c'.driver.Concludes ∧
      messagesOf effects = match turn with
        | .advance => (c.driver.message?.map fun m => .incomingMessage m.1 m.2).toList
        | .wake _ => [] := by
  cases turns_of_drive h with
  | take e here => exact ⟨trivial, rfl⟩
  | stop here cancelled => exact ⟨trivial, rfl⟩
  | accept here => exact ⟨trivial, by rw [here]; rfl⟩
  | message here => exact ⟨trivial, by rw [here]; rfl⟩
  | @acknowledge e kind pkid outcome here ack =>
      refine ⟨trivial, (messagesOf_told _).trans ?_⟩
      rw [here]
      cases e with
      | arrived p => cases p <;> first | rfl | cases ack
      | left _ | failed _ => cases ack
  | depart here => exact ⟨trivial, (messagesOf_told _).trans (by rw [here]; rfl)⟩
  | @finish e why here ends =>
      refine ⟨trivial, ?_⟩
      rw [here]
      cases e with
      | arrived _ => cases ends
      | left _ | failed _ => rfl
  | @pass e here noNotice noAck noDeparture noEnd =>
      refine ⟨trivial, ?_⟩
      rw [here]
      cases e with
      | arrived p => cases p <;> first | rfl | cases noNotice
      | left _ | failed _ => rfl
  | announce here => exact ⟨trivial, by rw [here]; rfl⟩
  | abandon here | mark here | lower here => exact ⟨trivial, by rw [here]; rfl⟩
  | drain here => exact ⟨concludes_afterDraining _ _, (messagesOf_told _).trans (by rw [here]; rfl)⟩
  | judge here =>
      refine ⟨?_, by rw [here]; rfl⟩
      rintro n ⟨⟩
      rw [lastNotice]
      split <;> rfl
  | @close last here =>
      refine ⟨trivial, ?_⟩
      rw [here] at hc ⊢
      cases last with
      | none => rfl
      | some n =>
          have hnone := Notice.event?_of_final (hc n rfl)
          exact List.filterMap_cons_none hnone

end Transport

namespace Transports

variable {w w' : Transports} {reports : List Report}

/-- The message that a driver is about to report, if the packet that it processes publishes one. -/
def processes? (w : Transports) : Stirring → Option Parcel
  | .drive maker .advance =>
    (w.face? maker).bind fun face => face.1.message?.map fun m => ⟨maker, m.1, m.2⟩
  | .drive _ (.wake _) | .room _ _ => none

/-- Whatever any driver is going to say last is a last word. -/
def Conclude (w : Transports) : Prop :=
  ∀ maker driver up, w.face? maker = some (driver, up) → driver.Concludes

lemma Conclude.of_sameFaces (h : w.Conclude) (hfaces : SameFaces w w') : w'.Conclude :=
  fun maker driver up hface => h maker driver up (hfaces.face? maker ▸ hface)

lemma Conclude.of_starts (h : w.Conclude) {maker : Maker} (hstart : Starts w w' maker) :
    w'.Conclude := by
  intro other driver up hface
  by_cases ho : other = maker
  · subst ho
    cases hstart.after.symm.trans hface
    trivial
  · exact h other driver up ((hstart.others other ho).symm.trans hface)

lemma Conclude.of_stepped (h : w.Conclude) {s : SessionId} {c : SessionCall}
    {answer : Option Answer} (hstepped : Stepped w s c answer w') : w'.Conclude := by
  cases hstepped with
  | more hfaces hdue => exact h.of_sameFaces hfaces
  | finished hfaces hnone => exact h.of_sameFaces hfaces
  | started hstarts hstart hnone => exact h.of_starts hstart

lemma events_acknowledgements (told : List (Told Nat)) :
    (told.map acknowledgement).filterMap Report.event? = [] := by
  rw [List.filterMap_map, List.filterMap_eq_nil_iff]
  exact fun _ _ => rfl

/-- **What happens in the world by itself** reports the message of the packet that a driver
processes, and no other. -/
theorem events_stir (h : w.Conclude) {e : Stirring} (hs : w.stir e = some (reports, w')) :
    w'.Conclude ∧
      reports.filterMap Report.event? = (w.processes? e).toList.map Parcel.event := by
  cases e with
  | room maker room =>
      obtain ⟨rfl, hfaces, -, -⟩ := stir_room hs
      exact ⟨h.of_sameFaces hfaces, rfl⟩
  | drive maker turn =>
      obtain ⟨c, c', effects, hdrive, rfl, hbefore, hafter, hothers, -, -, -⟩ := drive_face hs
      obtain ⟨hlast, hmessages⟩ :=
        Connection.messages_of_drive (h maker c.driver c.up hbefore) hdrive
      refine ⟨?_, ?_⟩
      · intro other driver up hface
        by_cases ho : other = maker
        · subst ho
          cases hafter.symm.trans hface
          exact hlast
        · exact h other driver up ((hothers other ho).symm.trans hface)
      · rw [messagesOf] at hmessages
        rw [hmessages]
        cases turn with
        | wake _ => rfl
        | advance =>
            have hface : w.face? maker = some (c.driver, c.up) := hbefore
            rw [processes?, hface]
            cases hm : c.driver.message? <;> simp [hm, Parcel.event]

end Transports

/-! ## The stage and the root -/

lemma Stage.event?_of_deed {s t : Stage κ} {frame : Option (Frame κ)} {m : Move κ}
    {spilt : List Failure} {n : Next κ} (h : s.Deed frame m t spilt n) (hm : m.event? = none) :
    n.event? = none := by
  have hstarts : ∀ {s t : Stage κ} {aim op n}, s.Starts aim op t n → n.event? = none := by
    rintro s t aim op n (_ | _ | _) <;> rfl
  have hsupersedes : ∀ {s t : Stage κ} {aim op left n}, s.Supersedes aim op left t n →
      n.event? = none := by
    rintro s t aim op left n (h | _)
    · exact hstarts h
    · rfl
  have habandons : ∀ {session : Option SessionId} {left : List (Operation κ)} {n},
      Stage.Abandons session left n → n.event? = none := by
    rintro session left n (_ | _ | _) <;> rfl
  cases h with
  | hears => cases hm
  | turns hr h => exact hsupersedes h
  | supersedes here h => exact hsupersedes h
  | givesUp h => exact habandons h
  | abandons here h => exact habandons h
  | barred | rejects | wants | keeps | refuses | asks | passes | rises | falls | fails | failsAlone
  | acknowledges | acknowledgesNobody | ends | replaces | announces | announcesAlone | retires
  | retiresAlone | unmade | made | remade | accepts | unstarted | unstartedNobody | unasked
  | unaskedNobody => rfl

namespace Activity

variable {a a' : Activity κ} {m : Move κ} {traces : List (Trace κ)}

/-- **Every stretch of work hands on the event that the move has brought**, and no other. -/
theorem event?_turn {t : Turn κ} (ht : a.turn? m = some t) : t.next.event? = m.event? := by
  cases hm : m.event? with
  | none => exact Stage.event?_of_deed (does_turn ht).deed hm
  | some e =>
      cases m with
      | deliver r =>
          cases r with
          | message topic payload =>
              cases hm
              cases ht
              rfl
          | connected | connectionFailed _ | disconnected _ | acknowledged _ _ => cases hm
      | enter _ _ | abandon _ | proceed | created _ | answered _ | panic _ => cases hm

/-- The events that the stage has handed to the chain and the chain has not yet taken. -/
def events (a : Activity κ) : List Event := a.levels.filterMap (·.1.event?)

lemma events_of_levels {ask : Ask κ} {frame : Frame κ} (h : a.levels = [(ask, frame)]) :
    a.events = ask.event?.toList := by
  rw [events, h, List.filterMap_cons, List.filterMap_nil]
  cases ask.event? <;> rfl

lemma events_of_nil (h : a.levels = []) : a.events = [] := by rw [events, h, List.filterMap_nil]

/-- **After a move of the worker** the stage hands on the event that the move has brought. -/
theorem Lone.events_step (h : a.Lone) (hm : a.ByWorker m) (hs : a.step m = some (a', traces)) :
    a'.events = m.event?.toList := by
  rcases h.outcome hm hs with ⟨message, session, c, -, rfl, rfl, -⟩ | ⟨t, ht, rfl, -⟩
  · rfl
  · rw [← event?_turn ht, settle]
    cases t.next with
    | done | panic message => rfl
    | ask asked frame => exact events_of_levels rfl

end Activity

/-- A root with a handler of events calls it for the event that it is handed, and for no other. -/
lemma Root.events_handle {r : Root} (h : r.listens = true) (c : ChainCall κ) :
    (Link.calls (r.handle c).2).filterMap UserCall.event? = c.event?.toList := by
  have hcomplete : ∀ op : Operation κ,
      (Link.calls (Root.complete op)).filterMap UserCall.event? = [] := by
    intro op
    rw [Link.calls_complete]
    cases op.callback <;> rfl
  cases c with
  | complete op => exact hcomplete op
  | pass op => exact hcomplete _
  | event e =>
      rw [handle, event, if_pos h]
      rfl
  | connected | disconnected =>
      simp only [handle, publish, changeLines]
      split <;> rfl

lemma Root.listens_handle (r : Root) (c : ChainCall κ) : (r.handle c).1.listens = r.listens := by
  cases c <;> rfl

/-! ## The record of a run -/

/-- The record of a run. -/
structure Delivery where
  /-- The messages of the packets that drivers have processed. -/
  processed : List Parcel := []
  /-- The events that the handler was called with on the callback worker, each time that it was. -/
  handled : List Event := []

namespace Delivery

/-- What the observer writes down. -/
def note : Happening κ Stirring → Link κ Transports → Link κ Transports → Delivery → Delivery
  | .stir e, before, _, g =>
    { g with processed := g.processed ++ (before.world.processes? e).toList }
  | .beginUser, _, after, g =>
    { g with handled := g.handled ++ (after.user.bind UserCall.event?).toList }
  | .submit _ _ _, _, _, g | .work, _, _, g | .endUser _, _, _, g | .handle _, _, _, g => g

variable (g : Delivery)

/-- What the driver of a connection has processed, in its order. -/
def processedBy (maker : Maker) : List Event :=
  (g.processed.filter (·.maker = maker)).map Parcel.event

/-- The calls of the handler that are owed to a connection: each call is owed to the packet whose
turn it is. -/
def handledFor (maker : Maker) : List Event :=
  ((g.processed.zip g.handled).filter (·.1.maker = maker)).map Prod.snd

/-- The handler is never called for a connection but with what its driver has processed, in this
order, and with each message once. -/
lemma handledFor_prefix {waiting : List Event}
    (h : g.processed.map Parcel.event = g.handled ++ waiting) (maker : Maker) :
    g.handledFor maker <+: g.processedBy maker := by
  obtain ⟨processed, handled⟩ := g
  simp only [handledFor, processedBy]
  induction handled generalizing processed with
  | nil =>
      rw [List.zip_nil_right]
      exact List.nil_prefix
  | cons e rest ih =>
      cases processed with
      | nil => cases h
      | cons p more =>
          obtain ⟨hhead, htail⟩ := List.cons.inj h
          rw [List.zip_cons_cons, List.filter_cons, List.filter_cons]
          by_cases hp : p.maker = maker
          · simp only [hp, decide_true, if_true, List.map_cons]
            exact hhead ▸ List.cons_prefix_cons.mpr ⟨rfl, ih more htail⟩
          · simpa only [hp, decide_false, Bool.false_eq_true, if_false] using ih more htail

/-- Once everything processed is handled, so it is for each connection. -/
lemma handledFor_eq (h : g.processed.map Parcel.event = g.handled) (maker : Maker) :
    g.handledFor maker = g.processedBy maker := by
  simp only [handledFor, processedBy, ← h]
  generalize g.processed = processed
  induction processed with
  | nil => rfl
  | cons p more ih =>
      rw [List.map_cons, List.zip_cons_cons, List.filter_cons, List.filter_cons]
      by_cases hp : p.maker = maker
      · simp only [hp, decide_true, if_true, List.map_cons, ih]
      · simpa only [hp, decide_false, Bool.false_eq_true, if_false] using ih

end Delivery

namespace Link

variable {l l' : Link κ Transports} {g : Delivery}

/-! ## On the way -/

/-- **The messages that are on their way**, the oldest first. -/
def inTransit {ω : Type} (l : Link κ ω) : List Event :=
  (Mailbox.jobs l.outbox.queue).filterMap UserCall.event? ++ l.activity.events ++
    (Mailbox.jobs l.inbox.queue).filterMap Job.event?

/-- Both queues are empty, and the pipeline's worker has nothing under way. -/
structure Drained {ω : Type} (l : Link κ ω) : Prop where
  inbox : l.inbox.queue = []
  idle : l.activity.levels = []
  outbox : l.outbox.queue = []

lemma Drained.inTransit_eq (h : l.Drained) : l.inTransit = [] := by
  rw [inTransit, h.inbox, h.outbox, Activity.events_of_nil h.idle]
  rfl

/-- When both workers have nothing to do, everything is drained. -/
lemma Steady.drained (h : l.Steady) (hpipeline : l.pipelineStep Transports.model = none)
    (huser : l.user = none) (hcallback : l.beginUser = none) : l.Drained := by
  obtain ⟨hidle, hinbox⟩ := h.rests hpipeline
  refine ⟨hinbox, hidle, ?_⟩
  rcases h.outbox.turn_cases with ⟨-, hempty⟩ | ⟨c, rest, -, hturn, -⟩
  · exact hempty
  · rw [Link.beginUser, huser] at hcallback
    simp only [hturn] at hcallback
    cases hcallback

lemma events_put_reports (m : Mailbox (Job κ)) (reports : List Report) :
    (Mailbox.jobs (m.put (reports.map Job.report)).queue).filterMap Job.event?
      = (Mailbox.jobs m.queue).filterMap Job.event? ++ reports.filterMap Report.event? := by
  rw [Mailbox.jobs_put, List.filterMap_append, List.filterMap_map]
  rfl

/-- **Whatever was processed** was handled or is on its way, in this order. -/
structure Delivered (l : Link κ Transports) (g : Delivery) : Prop where
  listens : l.root.listens = true
  conclude : l.world.Conclude
  order : g.processed.map Parcel.event = g.handled ++ l.inTransit

lemma Delivered.of_eq (h : l.Delivered g) (hr : l'.root = l.root)
    (hw : Transports.SameFaces l.world l'.world) (ht : l'.inTransit = l.inTransit) :
    l'.Delivered g :=
  ⟨hr ▸ h.listens, h.conclude.of_sameFaces hw, ht ▸ h.order⟩

/-- What the pipeline's worker does keeps what is on its way. -/
lemma inTransit_of_works (hsteady : l.Steady) (hwired : l.Wired) (hlistens : l.root.listens = true)
    (hw : Works Transports.model l l') : l'.inTransit = l.inTransit := by
  cases hw with
  | @chain c frame a traces hlevels hstep log sink =>
      have hevents := hsteady.lone.events_step (m := .proceed) trivial hstep
      rw [inTransit, inTransit, hevents, Activity.events_of_levels hlevels, Mailbox.jobs_put,
        List.filterMap_append, Root.events_handle hlistens]
      exact congrArg (· ++ _) (List.append_nil _)
  | create hlevels hstep log sink =>
      have hevents := hsteady.lone.events_step (m := .created _) trivial hstep
      rw [inTransit, inTransit, hevents, Activity.events_of_levels hlevels]
      rfl
  | call hlevels hcall =>
      obtain ⟨⟨told, rfl⟩, -⟩ := Transports.stepped (hwired.due hlevels) hcall
      rw [inTransit, inTransit, events_put_reports, Transports.events_acknowledgements,
        List.append_nil]
  | @answer session c frame answer reports world a traces hlevels hcall hstep log sink =>
      obtain ⟨⟨told, rfl⟩, -⟩ := Transports.stepped (hwired.due hlevels) hcall
      have hevents := hsteady.lone.events_step (byWorker_ended answer hlevels) hstep
      have hnone : (ended answer : Move κ).event? = none := by cases answer <;> rfl
      rw [inTransit, inTransit, hevents, hnone, Activity.events_of_levels hlevels,
        events_put_reports, Transports.events_acknowledgements, List.append_nil]
      rfl
  | @job job rest a traces hlevels hqueue hstep log sink =>
      -- the job's message is now with the stage, ahead of those that the queue still has
      have hevents := hsteady.lone.events_step (hsteady.byWorker_start hlevels hqueue) hstep
      have hjob : (start job).event?.toList ++ (Mailbox.jobs rest).filterMap Job.event?
          = (Mailbox.jobs l.inbox.queue).filterMap Job.event? := by
        rw [hqueue]
        cases job with
        | run op | abandon => rfl
        | report r =>
            change r.event?.toList ++ (Mailbox.jobs rest).filterMap Job.event?
              = (.report r :: Mailbox.jobs rest).filterMap Job.event?
            rw [List.filterMap_cons, Job.event?]
            cases r.event? <;> rfl
      rw [inTransit, inTransit, hevents, Activity.events_of_nil hlevels, List.append_nil,
        List.append_assoc, hjob]

lemma Delivered.works (h : l.Delivered g) (hsteady : l.Steady) (hwired : l.Wired)
    (hw : Works Transports.model l l') : l'.Delivered g := by
  refine ⟨?_, ?_, inTransit_of_works hsteady hwired h.listens hw ▸ h.order⟩
  · cases hw with
    | @chain c _ _ _ _ _ _ _ => exact (l.root.listens_handle c).trans h.listens
    | create | call | answer | job => exact h.listens
  · cases hw with
    | chain | job => exact h.conclude
    | @create args _ _ _ _ _ _ _ =>
        exact h.conclude.of_sameFaces (Transports.sameFaces_create l.world args)
    | call hlevels hcall | answer hlevels hcall _ _ _ =>
        exact h.conclude.of_stepped (Transports.stepped (hwired.due hlevels) hcall).2

/-- **Everything that happens** leaves whatever was processed on its way, or handled. -/
theorem Delivered.happens (h : l.Delivered g) (hsteady : l.Steady) (hwired : l.Wired)
    {happening : Happening κ Stirring} (hs : l.happens Transports.world happening = some l') :
    l'.Delivered (Delivery.note happening l l' g) := by
  cases happening with
  | submit caller request callback =>
      cases hs
      obtain ⟨log, heq⟩ := exists_submit_eq hsteady.inbox caller request callback
      rw [heq]
      refine h.of_eq rfl (Transports.sameFaces_refl _) ?_
      rw [inTransit, inTransit, Mailbox.jobs_put, List.filterMap_append]
      exact congrArg (_ ++ ·) (List.append_nil _)
  | stir e =>
      obtain ⟨⟨reports, w⟩, hw, rfl⟩ := Option.map_eq_some_iff.mp hs
      rw [happen_eq hsteady.inbox]
      obtain ⟨hconclude, hevents⟩ := Transports.events_stir h.conclude hw
      refine ⟨h.listens, hconclude, ?_⟩
      rw [Delivery.note, List.map_append, h.order, ← hevents, inTransit, inTransit,
        events_put_reports]
      simp only [List.append_assoc]
  | work => exact h.works hsteady hwired (hsteady.works hs)
  | beginUser =>
      obtain ⟨c, rest, -, hqueue, rfl⟩ := hsteady.beginUser_cases hs
      refine ⟨h.listens, h.conclude, ?_⟩
      have hfirst : (Mailbox.jobs l.outbox.queue).filterMap UserCall.event?
          = c.event?.toList ++ (Mailbox.jobs rest).filterMap UserCall.event? := by
        rw [hqueue]
        cases c <;> rfl
      rw [Delivery.note, h.order, inTransit, inTransit, hfirst]
      simp only [List.append_assoc, Option.bind_some]
  | endUser panic =>
      obtain ⟨log, sink, rfl⟩ := exists_eq_of_endUser hs
      exact h.of_eq rfl (Transports.sameFaces_refl _) rfl
  | handle kept =>
      cases hs
      exact h.of_eq rfl (Transports.sameFaces_refl _) rfl

/-! ## The promise -/

/-- **Incoming messages are handled once and in order.**  Whatever else is under way, and whatever
code of the user panics: the handler has been called with what drivers have processed, in this
order, less what is on its way; for each connection, it was called with what its driver has
processed first; and once everything is drained, with exactly that. -/
theorem handled_once_in_order {c : PipelineConfig} {config : TransportConfig}
    {files : Config.Files} (hbuild : Link.build c true (some { config, files }) = .ok l)
    (happenings : List (Happening κ Stirring)) {g : Delivery}
    (hrun : follow Transports.world Delivery.note (l, {}) happenings = (l', g)) :
    g.processed.map Parcel.event = g.handled ++ l'.inTransit ∧
      (∀ maker, g.handledFor maker <+: g.processedBy maker) ∧
      (l'.Drained → g.handled = g.processed.map Parcel.event ∧
        ∀ maker, g.handledFor maker = g.processedBy maker) := by
  have hstart : l.Delivered {} := by
    cases hbuild
    refine ⟨rfl, ?_, rfl⟩
    rintro maker driver up ⟨⟩
  have h := (wired_follow_induction Delivered
    (fun _ _ _ _ hsteady hwired hl hn => hl.happens hsteady hwired hn) hbuild hstart
    happenings).2
  rw [hrun] at h
  refine ⟨h.order, g.handledFor_prefix h.order, fun hdrained => ?_⟩
  have horder := h.order
  rw [hdrained.inTransit_eq, List.append_nil] at horder
  exact ⟨horder.symm, g.handledFor_eq horder⟩

/-- A session connects, and two messages come in, with a subscription in between.  The user's code
panics when a callback runs, and again at the first message; everything is drained in the end. -/
def twoMessages : List (Happening Nat Stirring) :=
  let reads (p : Packet) : List (Happening Nat Stirring) :=
    [.stir (.drive ⟨0, 0⟩ (.wake (.event (.arrived p)))), .stir (.drive ⟨0, 0⟩ .advance)]
  [.submit none (.setConnectionArgs ⟨"hub", "device", "id", none⟩) 10, .work, .work, .work,
      .submit none .connect 20, .work, .work, .work]
    ++ reads (.connAck .success) ++ [.stir (.drive ⟨0, 0⟩ .advance)]
    ++ reads (.publish "news" [1]) ++ [.submit none (.subscribe "more") 30]
    ++ reads (.publish "news" [2])
    ++ [.beginUser, .endUser (some "out of paper")] ++ List.replicate 5 .work
    ++ [.beginUser, .endUser none, .beginUser, .endUser (some "out of ink")]
    ++ List.replicate 6 .work ++ [.beginUser, .endUser none]

lemma twoMessages_drained {l : Link Nat Transports}
    (h : Link.build {} true (some .unsecured) = .ok l) :
    let p := follow Transports.world Delivery.note (l, {}) twoMessages
    p.1.Drained ∧ p.2.processed = [⟨⟨0, 0⟩, "news", [1]⟩, ⟨⟨0, 0⟩, "news", [2]⟩] := by
  cases h
  exact ⟨⟨by decide, by decide, by decide⟩, by decide⟩

/-- Both messages were handled, each once. -/
theorem twoMessages_handled :
    ∃ l : Link Nat Transports, Link.build {} true (some .unsecured) = .ok l ∧
      let p := follow Transports.world Delivery.note (l, {}) twoMessages
      p.2.handled = [.incomingMessage "news" [1], .incomingMessage "news" [2]] ∧
        p.2.handledFor ⟨0, 0⟩ = p.2.processedBy ⟨0, 0⟩ := by
  obtain ⟨l, hl⟩ : ∃ l : Link Nat Transports, Link.build {} true (some .unsecured) = .ok l :=
    ⟨_, rfl⟩
  obtain ⟨hdrained, hprocessed⟩ := twoMessages_drained hl
  obtain ⟨-, -, hpromise⟩ := handled_once_in_order hl twoMessages (Prod.eta _).symm
  obtain ⟨hhandled, heach⟩ := hpromise hdrained
  refine ⟨l, hl, ?_, heach ⟨0, 0⟩⟩
  rw [hhandled, hprocessed]
  rfl

end Link

end DeviceLink
