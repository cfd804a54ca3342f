import DeviceLink.Proofs.Transport.Bookkeeping

/-!
# Handlers that are left behind

A driver that comes to its end tells every handler that waits, and nobody tells those who come
later.  Before a request is handed over the transport looks whether the connection is still up, but
it looks before it takes the lock under which handlers are registered.  So a driver may tell
everybody in between; the client, whose driver has not returned, takes the request all the same, and
its handler waits for a driver that does not look at the tracker again.

* `Roll` — the handlers of one connection: whose request was taken, who was told, who came late.
* **`Roll.Kept`** — whoever was taken was told or waits, and those who wait when the driver has told
  everybody are those who came late.
* `Rolls` — the record of the requests: made, accepted, refused, and caught on their way to the
  client when a driver tells everybody.
* **`Usage.told_of_accepted`** — all that a driver can leave behind is one handler, whose request
  was caught so.
* **`Usage.accepted_untold`** — that one is left behind.
-/

namespace DeviceLink.Transport

variable {η : Type}

/-! ## Requests -/

/-- A request that the client takes. -/
lemma submit_of_takes {c : Connection η} (h : c.takes) (r : Tracked η) :
    submit c r = (Connection.take { c with acks := c.acks.enqueue r.kind r.handler } r.request,
      .done (.ok ())) :=
  if_pos h

/-- One that it does not take. -/
lemma submit_of_busy {c : Connection η} (h : c.takes = false) (r : Tracked η) :
    submit c r = (c, refused (.request .full)) := by
  refine (if_neg (ne_true_of_eq_false h)).trans ?_
  rw [AckTracker.withdrawLast_enqueue]

/-! ## The handlers of one connection -/

def Effect.listener? : Effect η → Option η
  | told t => some t.1
  | notice _ => none

/-- The handlers that are told something, in order. -/
def listeners (effects : List (Effect η)) : List η := effects.filterMap Effect.listener?

lemma listeners_told (told : List (Told η)) :
    listeners (told.map Effect.told) = told.map Prod.fst := by
  rw [listeners, List.filterMap_map]
  exact congrFun List.filterMap_eq_map told

/-- The driver has marked its connection as down. -/
def Driver.lowered : Driver → Bool
  | draining _ _ | judging _ | closing _ | returned => true
  | waiting | holding _ | announcing | cancelling | ending _ | lowering _ => false

lemma Driver.lowered_of_drained {driver : Driver} (h : driver.drained) : driver.lowered := by
  cases driver with
  | judging _ | closing _ | returned => rfl
  | waiting | holding _ | announcing | cancelling | ending _ | lowering _ | draining _ _ => cases h

/-- **The roll of a connection.** -/
structure Roll (η : Type) where
  /-- The handlers of the requests that the client has taken, oldest first. -/
  taken : List η := []
  /-- The handlers that were told something. -/
  told : List η := []
  /-- Those whose request was taken since all that waited were told. -/
  late : List η := []

namespace Roll

/-- What an entry in the ledger of the connection makes of its roll. -/
def enter (r : Roll η) : Option (Entry η) → Roll η
  | some (.accepted _ h) => { r with taken := r.taken ++ [h], late := r.late ++ [h] }
  | some .closed => { r with late := [] }
  | some (.event _) | none => r

/-- Somebody who keeps the roll. -/
def observer : Observer η (Roll η) where
  start := {}
  note c s effects r := { r.enter (c.entry? s) with told := r.told ++ listeners effects }

variable {c c' : Connection η} {s : Stroke η} {effects : List (Effect η)} {r : Roll η}

/-- **Nobody is forgotten**: whoever was taken was told, or waits; and once the driver has told all
that waited, those who wait have come late. -/
structure Kept (c : Connection η) (r : Roll η) : Prop where
  keyed : c.acks.Keyed
  whole : (r.taken : Multiset η) = r.told + c.acks.handlers
  late : c.driver.drained → c.acks.handlers = r.late
  down : c.driver.lowered → c.up = false

lemma kept_new : Kept ({} : Connection η) {} where
  keyed := AckTracker.keyed_new
  whole := rfl
  late h := nomatch h
  down h := nomatch h

/-- A stroke that nobody is told of, and that leaves the tracker alone. -/
lemma Kept.of_acks_eq (h : Kept c r) (hentry : r.enter (c.entry? s) = r)
    (hquiet : listeners effects = []) (hacks : c'.acks = c.acks)
    (hdrained : c'.driver.drained → c.driver.drained) (hdown : c'.driver.lowered → c'.up = false) :
    Kept c' (observer.note c s effects r) := by
  have hsame : observer.note c s effects r = r := by
    simp only [observer, hentry, hquiet, List.append_nil]
  rw [hsame]
  exact ⟨hacks ▸ h.keyed, hacks ▸ h.whole, fun hd => hacks ▸ h.late (hdrained hd), hdown⟩

/-- Some of those who wait are told; the driver has not told all of them before. -/
lemma Kept.told (h : Kept c r) {x : AckTracker η × List (Told η)} {driver : Driver}
    (hentry : r.enter (c.entry? s) = r) (hkeyed : x.1.Keyed)
    (hwhole : ((x.2.map Prod.fst : List η) : Multiset η) + x.1.handlers = c.acks.handlers)
    (hrunning : driver.lowered = false) :
    Kept (c.withAcks x driver).1 (observer.note c s (c.withAcks x driver).2 r) := by
  refine ⟨hkeyed, ?_, fun hd => ?_, fun hl => ?_⟩
  · simp only [observer, hentry, Connection.withAcks, listeners_told]
    rw [← Multiset.coe_add, h.whole, ← hwhole, add_assoc]
  · cases hrunning.symm.trans (Driver.lowered_of_drained hd)
  · cases hrunning.symm.trans hl

/-- All that wait are told. -/
lemma Kept.closed (h : Kept c r) (hentry : c.entry? s = some .closed)
    (hacks : c'.acks = c.acks.failAll.1) (hdown : c'.driver.lowered → c'.up = false) :
    Kept c' (observer.note c s (c.acks.failAll.2.map Effect.told) r) := by
  refine ⟨?_, ?_, fun _ => ?_, hdown⟩
  · rw [hacks]
    exact AckTracker.keyed_new
  · simp only [observer, hentry, enter, listeners_told, hacks, AckTracker.handlers_failAll]
    rw [← Multiset.coe_add, AckTracker.told_failAll, add_zero, h.whole]
  · simp only [observer, hentry, enter, hacks, AckTracker.handlers_failAll]
    rfl

lemma Kept.touch (h : Kept c r) (u : Touch η) :
    Kept (c.touch u).1 (observer.note c (.touch u) ((c.touch u).2.map Effect.told) r) := by
  cases u with
  | want b | cancel | room b => exact h.of_acks_eq rfl rfl rfl id h.down
  | leave =>
      rw [Connection.touch]
      split <;> exact h.of_acks_eq rfl rfl rfl id h.down
  | drain => exact h.closed rfl rfl h.down
  | submit q =>
      cases htakes : c.takes with
      | true =>
          have hentry : c.entry? (.touch (.submit q)) = some (.accepted q.kind q.handler) := by
            rw [Connection.entry?, htakes, if_pos rfl]
          have hone : ((([q.handler] : List η)) : Multiset η) = {q.handler} := rfl
          rw [Connection.touch, submit_of_takes htakes]
          refine ⟨h.keyed, ?_, fun hd => ?_, h.down⟩
          · simp only [observer, hentry, enter, Connection.take, AckTracker.handlers_enqueue,
              listeners, List.map_nil, List.filterMap_nil, List.append_nil]
            rw [← Multiset.coe_add, h.whole, hone, add_assoc]
          · simp only [observer, hentry, enter, Connection.take, AckTracker.handlers_enqueue]
            rw [← Multiset.coe_add, h.late hd, hone]
      | false =>
          rw [Connection.touch, submit_of_busy htakes]
          refine h.of_acks_eq ?_ rfl rfl id h.down
          rw [Connection.entry?, htakes]
          rfl

lemma Kept.turn {t : DriverTurn} (h : Kept c r) (ht : c.Turns t c' effects) :
    Kept c' (observer.note c (.turn t) effects r) := by
  have hentry : ∀ {e : ClientEvent}, c.driver = .holding e →
      r.enter (c.entry? (.turn .advance)) = r := by
    intro e here
    simp only [Connection.entry?, here, enter]
  have hdown := h.down
  cases ht with
  | take e here | stop here cancelled =>
      exact h.of_acks_eq rfl rfl rfl (by rintro ⟨⟩) (by rintro ⟨⟩)
  | accept here | message here | pass here noNotice noAck noDeparture noEnd | finish here ends =>
      exact h.of_acks_eq (hentry here) rfl rfl (by rintro ⟨⟩) (by rintro ⟨⟩)
  | announce here | abandon here | mark here =>
      refine h.of_acks_eq ?_ rfl rfl (by rintro ⟨⟩) (by rintro ⟨⟩)
      simp only [Connection.entry?, here, enter]
  | lower here =>
      refine h.of_acks_eq ?_ rfl rfl (by rintro ⟨⟩) fun _ => rfl
      simp only [Connection.entry?, here, enter]
  | acknowledge here ack =>
      obtain ⟨hkeyed, hwhole⟩ := AckTracker.handlers_acknowledged h.keyed _ _ _
      exact h.told (hentry here) hkeyed hwhole rfl
  | depart here =>
      obtain ⟨hkeyed, hwhole⟩ := AckTracker.handlers_sent h.keyed _ _
      exact h.told (hentry here) hkeyed hwhole rfl
  | drain here =>
      rw [here] at hdown
      refine h.closed ?_ rfl fun _ => hdown rfl
      simp only [Connection.entry?, here]
  | judge here =>
      rw [here] at hdown
      refine h.of_acks_eq ?_ rfl rfl (fun _ => here ▸ rfl) fun _ => hdown rfl
      simp only [Connection.entry?, here, enter]
  | @close last here =>
      rw [here] at hdown
      refine h.of_acks_eq ?_ ?_ rfl (fun _ => here ▸ rfl) fun _ => hdown rfl
      · simp only [Connection.entry?, here, enter]
      · cases last <;> rfl

/-- **Whatever happens to a connection**, nobody is forgotten. -/
theorem keeps_kept : (observer (η := η)).Keeps Kept := by
  intro c r s c' effects h hs
  cases s with
  | turn t => exact h.turn (Connection.turns_of_drive hs)
  | touch u =>
      cases hs
      exact h.touch u

end Roll

/-! ## The record of the requests -/

/-- The handler of the request that a call hands over. -/
def Call.handler? : Call η → Option η
  | publish _ _ h | subscribe _ h | unsubscribe _ h => some h
  | connect _ _ | reconnect _ | disconnect | quit => none

/-- The connection to which a call that hands over a request turns, once it has looked at it. -/
def Phase.host? : Phase η → Option Nat
  | accepted n _ | request n _ => some n
  | replace _ | silence _ _ | cancel _ _ | drain _ _ | start _ | beforeDisconnect | want _
  | wanted _ | giveUp _ | disconnect _ | unwant _ | beforeRequest _ => none

/-- The handler of a request to a connection that has passed every check, and is not handed over
yet. -/
def Phase.crossing? (n : Nat) : Phase η → Option η
  | request m r => if m = n then some r.handler else none
  | replace _ | silence _ _ | cancel _ _ | drain _ _ | start _ | beforeDisconnect | want _
  | wanted _ | giveUp _ | disconnect _ | unwant _ | beforeRequest _ | accepted _ _ => none

/-- What a call has returned, once it is over. -/
def Progress.result? : Progress η → Option CallResult
  | more _ => none
  | done r => some r

namespace Usage

/-- The handler of the request whose call is under way. -/
def asking? (u : Usage η) : Option η := (u.underway.bind Phase.request?).map (·.handler)

/-- The request whose call comes to its end, if one does: by the connection and the handler, and
what the call returns. -/
def requested? (u : Usage η) : Act η → Option (Option Nat × η × CallResult)
  | .phase =>
    u.underway.bind fun p => p.request?.bind fun r =>
      (u.transport.step u.files p).2.2.result?.map fun result => (p.host?, r.handler, result)
  | .call _ | .drive _ _ | .room _ _ => none

/-- The connection whose driver tells everybody that waits. -/
def draining? (u : Usage η) : Act η → Option Nat
  | .drive n .advance =>
    if u.transport.connections[n]?.any (·.driver matches .draining _ _) then some n else none
  | .drive _ (.wake _) | .call _ | .phase | .room _ _ => none

end Usage

/-- **The record of the requests** of a transport in use. -/
structure Rolls (η : Type) where
  rolls : Nat → Roll η := fun _ => {}
  /-- The handlers of all calls that hand over a request. -/
  made : List η := []
  /-- Those whose call has returned without an error, with the connection. -/
  accepted : List (Nat × η) := []
  /-- Those whose call has returned an error. -/
  refused : List η := []
  /-- The handler, if there was one, whose request had passed every check when the driver of a
  connection told everybody. -/
  caught : Nat → Option η := fun _ => none

namespace Rolls

def note (u : Usage η) (a : Act η) (g : Rolls η) : Rolls η where
  rolls := u.observe Roll.observer a g.rolls
  made :=
    match a with
    | .call c => g.made ++ c.handler?.toList
    | .phase | .drive _ _ | .room _ _ => g.made
  accepted :=
    match u.requested? a with
    | some (host, h, .ok ()) => g.accepted ++ (host.map (·, h)).toList
    | _ => g.accepted
  refused :=
    match u.requested? a with
    | some (_, h, .error _) => g.refused ++ [h]
    | _ => g.refused
  caught :=
    match u.draining? a with
    | some n => Function.update g.caught n (u.underway.bind (Phase.crossing? n))
    | none => g.caught

/-- The handlers of the requests to a connection whose call has returned without an error. -/
def acceptedBy (g : Rolls η) (n : Nat) : List η :=
  (g.accepted.filter (·.1 = n)).map Prod.snd

end Rolls

namespace Usage

variable {u u' : Usage η} {a : Act η} {g : Rolls η} {n : Nat}

lemma asking?_begin (t : Transport η) (c : Call η) :
    ((t.begin c).2.request?).map (·.handler) = c.handler? := by
  cases c <;> rfl

/-- What a stroke makes of the records, when it happens. -/
lemma observe_of_stroke {γ : Type} (o : Observer η γ) {s : Stroke η} {c c' : Connection η}
    {effects : List (Effect η)} (g : Nat → γ) (hs : u.stroke? a = some (n, s))
    (hc : u.transport.connections[n]? = some c) (happens : c.stroke s = some (c', effects)) :
    u.observe o a g = Function.update g n (o.note c s effects (g n)) := by
  rw [observe, hs]
  simp only [Observer.log, hc, Option.bind_some, happens, Option.map_some]

/-- A call that returns without an error has handed its request over. -/
lemma request_done {t t' : Transport η} {files : Config.Files} {p : Phase η} {told : List (Told η)}
    {r : Tracked η} (hp : p.request? = some r) (h : t.step files p = (t', told, .done (.ok ()))) :
    ∃ m c, p = .request m r ∧ t.connections[m]? = some c ∧ c.takes := by
  cases p <;> grind [Transport.step, refused, submit, Phase.request?, Connection.takes]

/-- Whose call has come to its end, in a phase of a call that hands over a request. -/
lemma requested?_phase {p : Phase η} {r : Tracked η} {t' : Transport η} {told : List (Told η)}
    {progress : Progress η} (hp : u.underway = some p) (hr : p.request? = some r)
    (hs : u.transport.step u.files p = (t', told, progress)) :
    u.requested? .phase
      = progress.result?.map fun result => (p.host?, r.handler, result) := by
  rw [requested?, hp, Option.bind_some, hr, Option.bind_some, hs]

lemma requested?_of_request?_eq_none {p : Phase η} (hp : u.underway = some p)
    (hr : p.request? = none) : u.requested? .phase = none := by
  rw [requested?, hp, Option.bind_some, hr]
  rfl

/-- **Who can be left behind** by a driver that has told everybody. -/
structure Behind (u : Usage η) (g : Rolls η) (n : Nat) : Prop where
  /-- A request that is still on its way is the one that was caught, and nobody came late before
  it. -/
  crossing : ∀ h, u.underway.bind (Phase.crossing? n) = some h →
    g.caught n = some h ∧ (g.rolls n).late = []
  late : (g.rolls n).late.Sublist (g.caught n).toList

lemma Behind.of_eq {g' : Rolls η} (h : u.Behind g n) (hunderway : u'.underway = u.underway)
    (hcaught : g'.caught n = g.caught n) (hlate : (g'.rolls n).late = (g.rolls n).late) :
    u'.Behind g' n where
  crossing x hx := hcaught ▸ hlate ▸ h.crossing x (hunderway ▸ hx)
  late := hcaught ▸ hlate ▸ h.late

/-- **What the record says**: of every connection who was taken, told and left; whose call was
accepted, or refused, or is under way; and who was caught. -/
structure Enrolled (u : Usage η) (g : Rolls η) : Prop where
  orderly : u.Orderly
  kept : ∀ n, Roll.observer.Holds Roll.Kept u.transport.connections[n]? (g.rolls n)
  taken : ∀ n, (g.rolls n).taken = g.acceptedBy n
  made : (g.made : Multiset η)
    = (g.accepted.map Prod.snd : List η) + (g.refused : List η) + (u.asking?.toList : List η)
  behind : ∀ n c, u.transport.connections[n]? = some c → c.driver.drained → u.Behind g n

lemma enrolled_new (config : TransportConfig) (args : ConnectionArgs) (files : Config.Files) :
    (new config args files : Usage η).Enrolled {} where
  orderly := orderly_new config args files
  kept _ := rfl
  taken _ := rfl
  made := rfl
  behind _ _ hthere := nomatch hthere

/-! ### Calls -/

lemma Enrolled.made_act (h : u.Enrolled g) (ha : u.act a = some u') :
    ((g.note u a).made : Multiset η) = ((g.note u a).accepted.map Prod.snd : List η)
      + ((g.note u a).refused : List η) + (u'.asking?.toList : List η) := by
  have hmade := h.made
  cases a with
  | call c =>
      obtain ⟨hnone, rfl⟩ := call_cases ha
      have hbefore : u.asking? = none := by rw [asking?, hnone]; rfl
      have hafter : (u.transport.begin c).2.request?.map (·.handler) = c.handler? :=
        asking?_begin u.transport c
      rw [hbefore] at hmade
      simp only [Rolls.note, requested?, asking?, Option.bind_some, hafter]
      rw [← Multiset.coe_add, hmade, Option.toList_none, Multiset.coe_nil, add_zero]
  | drive m turn =>
      obtain ⟨r, -, rfl⟩ := Option.map_eq_some_iff.mp ha
      exact hmade
  | room m b =>
      cases ha
      exact hmade
  | phase =>
      obtain ⟨p, t', told, progress, hp, hs, rfl⟩ := phase_cases ha
      cases hr : p.request? with
      | none =>
          have hbefore : u.asking? = none := by rw [asking?, hp, Option.bind_some, hr]; rfl
          have hafter : (progress.phase?.bind Phase.request?).map (·.handler) = none := by
            cases progress with
            | more q => rw [Progress.phase?, Option.bind_some, request?_step hs rfl, hr]; rfl
            | done result => rfl
          rw [hbefore] at hmade
          simp only [Rolls.note, requested?_of_request?_eq_none hp hr, asking?, hafter]
          exact hmade
      | some r =>
          have hbefore : u.asking? = some r.handler := by
            rw [asking?, hp, Option.bind_some, hr]; rfl
          have hrequested := requested?_phase hp hr hs
          rw [hbefore] at hmade
          cases progress with
          | more q =>
              simp only [Rolls.note, hrequested, Progress.result?, Option.map_none, asking?,
                Progress.phase?, Option.bind_some, request?_step hs rfl, hr]
              exact hmade
          | done result =>
              cases result with
              | error fault =>
                  simp only [Rolls.note, hrequested, Progress.result?, Option.map_some, asking?,
                    Progress.phase?, Option.bind_none, Option.map_none, Option.toList_none]
                  rw [← Multiset.coe_add, hmade, Multiset.coe_nil, add_zero, add_assoc]
                  rfl
              | ok =>
                  obtain ⟨m, c, rfl, -, -⟩ := request_done hr hs
                  simp only [Rolls.note, hrequested, Progress.result?, Option.map_some,
                    Phase.host?, Option.toList_some, asking?, Progress.phase?, Option.bind_none,
                    Option.map_none, Option.toList_none, List.map_append]
                  rw [← Multiset.coe_add, hmade, Multiset.coe_nil, add_zero, add_right_comm]
                  rfl

/-! ### Requests that the client takes -/

lemma taken_note {s : Stroke η} (hs : ∀ r, s ≠ .touch (.submit r)) (c : Connection η)
    (effects : List (Effect η)) (roll : Roll η) :
    (Roll.observer.note c s effects roll).taken = roll.taken := by
  have hentry : ∀ kind h, c.entry? s ≠ some (.accepted kind h) := by
    intro kind h he
    cases s with
    | turn t =>
        cases t with
        | wake w => cases he
        | advance =>
            rw [Connection.entry?] at he
            split at he <;> cases he
    | touch touch =>
        cases touch with
        | submit r => exact hs r rfl
        | want _ | cancel | drain | leave | room _ => cases he
  simp only [Roll.observer]
  cases he : c.entry? s with
  | none => rfl
  | some x =>
      cases x with
      | accepted kind h => exact (hentry kind h he).elim
      | event _ | closed => rfl

/-- A request that is handed over: the client takes it just when its call returns without an
error. -/
lemma Enrolled.taken_request (h : u.Enrolled g) {m : Nat} {r : Tracked η}
    (hp : u.underway = some (.request m r)) (k : Nat) :
    ((g.note u .phase).rolls k).taken = (g.note u .phase).acceptedBy k := by
  have hsubmit : u.stroke? .phase = some (m, .touch (.submit r)) := by
    rw [stroke?, hp]
    rfl
  rcases hs : u.transport.step u.files (.request m r) with ⟨t', told, progress⟩
  have hrequested := requested?_phase hp rfl hs
  cases hc : u.transport.connections[m]? with
  | none =>
      simp only [Transport.step, hc] at hs
      cases hs
      simp only [Rolls.note, Rolls.acceptedBy, hrequested, observe, hsubmit, hc]
      exact h.taken k
  | some c =>
      have happens : c.stroke (.touch (.submit r)) = some ((submit c r).1, []) := rfl
      have hobserve := observe_of_stroke Roll.observer g.rolls hsubmit hc happens
      simp only [Transport.step, hc] at hs
      cases hbusy : c.takes with
      | true =>
          rw [submit_of_takes hbusy] at hs
          cases hs
          have haccepted : (g.note u .phase).accepted = g.accepted ++ [(m, r.handler)] := by
            simp only [Rolls.note, hrequested]
            rfl
          rw [Rolls.acceptedBy, haccepted, List.filter_append, List.map_append, ← Rolls.acceptedBy,
            ← h.taken k]
          change ((u.observe Roll.observer .phase g.rolls) k).taken = _
          rw [hobserve]
          by_cases hk : k = m
          · subst hk
            rw [Function.update_self]
            simp only [Roll.observer, Connection.entry?, hbusy, if_true, Roll.enter,
              List.filter_cons, decide_true, List.filter_nil, List.map_cons, List.map_nil]
          · rw [Function.update_of_ne hk,
              List.filter_cons_of_neg fun he => hk (of_decide_eq_true he).symm]
            exact (List.append_nil _).symm
      | false =>
          rw [submit_of_busy hbusy] at hs
          cases hs
          have haccepted : (g.note u .phase).accepted = g.accepted := by
            simp only [Rolls.note, hrequested]
            rfl
          rw [Rolls.acceptedBy, haccepted, ← Rolls.acceptedBy, ← h.taken k]
          change ((u.observe Roll.observer .phase g.rolls) k).taken = _
          rw [hobserve]
          by_cases hk : k = m
          · subst hk
            rw [Function.update_self]
            simp only [Roll.observer, Connection.entry?, hbusy]
            rfl
          · rw [Function.update_of_ne hk]

/-- Whatever else happens, no client takes a request, and no call that hands one over returns
without an error. -/
lemma Enrolled.taken_act (h : u.Enrolled g) (ha : u.act a = some u') (k : Nat) :
    ((g.note u a).rolls k).taken = (g.note u a).acceptedBy k := by
  have hquiet : (∀ m r, u.stroke? a ≠ some (m, .touch (.submit r))) →
      ((g.note u a).rolls k).taken = (g.rolls k).taken := by
    intro hne
    refine observe_cases Roll.observer u a g.rolls k (P := fun roll => roll.taken
      = (g.rolls k).taken) rfl fun c s effects hs => taken_note ?_ c effects _
    rintro r rfl
    exact hne k r hs
  cases a with
  | call c => exact (hquiet (by rintro m r ⟨⟩)).trans (h.taken k)
  | drive m turn => exact (hquiet (by rintro m r ⟨⟩)).trans (h.taken k)
  | room m b => exact (hquiet (by rintro m r ⟨⟩)).trans (h.taken k)
  | phase =>
      obtain ⟨p, t', told, progress, hp, hs, rfl⟩ := phase_cases ha
      by_cases hrequest : ∃ m r, p = .request m r
      · obtain ⟨m, r, rfl⟩ := hrequest
        exact h.taken_request hp k
      · have hno : ∀ host x, u.requested? .phase ≠ some (host, x, .ok ()) := by
          intro host x he
          cases hr : p.request? with
          | none => cases (requested?_of_request?_eq_none hp hr).symm.trans he
          | some r =>
              rw [requested?_phase hp hr hs] at he
              obtain ⟨result, hresult, hpair⟩ := Option.map_eq_some_iff.mp he
              cases hpair
              cases progress with
              | more q => cases hresult
              | done result =>
                  cases hresult
                  obtain ⟨m, c, rfl, -, -⟩ := request_done hr hs
                  exact hrequest ⟨_, _, rfl⟩
        have haccepted : (g.note u .phase).accepted = g.accepted := by
          simp only [Rolls.note]
        rw [Rolls.acceptedBy, haccepted, ← Rolls.acceptedBy, ← h.taken k]
        refine hquiet fun m r he => ?_
        rw [stroke?, hp, Option.bind_some] at he
        cases p <;> cases he
        exact hrequest ⟨_, _, rfl⟩

/-! ### Whom a driver leaves behind -/

/-- Only a request that finds the connection up crosses over to it. -/
lemma crossing_step {t t' : Transport η} {files : Config.Files} {p q : Phase η}
    {told : List (Told η)} {h : η} (hs : t.step files p = (t', told, .more q))
    (hq : q.crossing? n = some h) : t.connections[n]?.any (·.up) := by
  cases p <;> grind [Transport.step, start_of_progress, refused, submit, Phase.crossing?]

/-- A request on its way to a connection has been on it before, or finds the connection up. -/
lemma crossing_act (ha : u.act a = some u') {x : η}
    (hx : u'.underway.bind (Phase.crossing? n) = some x) :
    (u'.underway = u.underway ∧ ∀ r, u.stroke? a ≠ some (n, .touch (.submit r))) ∨
      u.transport.connections[n]?.any (·.up) := by
  cases a with
  | call c =>
      obtain ⟨-, rfl⟩ := call_cases ha
      cases c <;> cases hx
  | drive m turn =>
      obtain ⟨r, -, rfl⟩ := Option.map_eq_some_iff.mp ha
      exact .inl ⟨rfl, by rintro r ⟨⟩⟩
  | room m b =>
      cases ha
      exact .inl ⟨rfl, by rintro r ⟨⟩⟩
  | phase =>
      obtain ⟨p, t', told, progress, -, hs, rfl⟩ := phase_cases ha
      cases progress with
      | more q => exact .inr (crossing_step hs hx)
      | done result => cases hx

lemma underway_of_submit {r : Tracked η} (hs : u.stroke? a = some (n, .touch (.submit r))) :
    u.underway = some (.request n r) := by
  cases a with
  | call _ | drive _ _ | room _ _ => cases hs
  | phase =>
      obtain ⟨p, hp, hs⟩ := Option.bind_eq_some_iff.mp hs
      rw [hp]
      cases p <;> cases hs
      rfl

lemma caught_of_ne {turn : DriverTurn} {m : Nat} (hne : n ≠ m) :
    (g.note u (.drive m turn)).caught n = g.caught n := by
  cases turn with
  | wake w => rfl
  | advance =>
      simp only [Rolls.note, draining?]
      split
      · exact Function.update_of_ne hne _ _
      · rfl

/-- A driver has its turn. -/
lemma drive_cases {turn : DriverTurn} (ha : u.act (.drive n turn) = some u') :
    ∃ c c' effects, u.transport.connections[n]? = some c ∧
      c.stroke (.turn turn) = some (c', effects) ∧
      u'.transport.connections[n]? = some c' ∧ u'.underway = u.underway := by
  obtain ⟨r, hr, rfl⟩ := Option.map_eq_some_iff.mp ha
  rw [Transport.drive] at hr
  cases hc : u.transport.connections[n]? with
  | none =>
      rw [hc] at hr
      cases hr
  | some c =>
      rw [hc] at hr
      obtain ⟨⟨c', effects⟩, hdrive, rfl⟩ := Option.map_eq_some_iff.mp hr
      refine ⟨c, c', effects, rfl, hdrive, ?_, rfl⟩
      change (u.transport.connections.modify n fun _ => c')[n]? = some c'
      rw [List.getElem?_modify_eq, hc]
      rfl

/-- A driver has told everybody, and it is not that driver's turn: nobody comes late, or those who
have are told, or the client takes a request. -/
lemma late_cases (ha : u.act a = some u') (hturn : ∀ t, u.stroke? a ≠ some (n, .turn t))
    {c' : Connection η} (hthere : u'.transport.connections[n]? = some c')
    (hdrained : c'.driver.drained) :
    (∃ c, u.transport.connections[n]? = some c ∧ c.driver.drained) ∧
      (((g.note u a).rolls n).late = (g.rolls n).late ∨ ((g.note u a).rolls n).late = [] ∨
        ∃ r, u.stroke? a = some (n, .touch (.submit r)) ∧
          ((g.note u a).rolls n).late = (g.rolls n).late ++ [r.handler]) := by
  have hstep := step_act Roll.observer ha g.rolls n
  change _ ∧ (((u.observe Roll.observer a g.rolls) n).late = _ ∨
    ((u.observe Roll.observer a g.rolls) n).late = _ ∨
    ∃ r, _ ∧ ((u.observe Roll.observer a g.rolls) n).late = _)
  rw [hthere] at hstep
  generalize u.observe Roll.observer a g.rolls n = roll' at hstep
  generalize u.transport.connections[n]? = c at hstep
  generalize g.rolls n = roll at hstep
  cases hstep with
  | still => exact ⟨⟨c', rfl, hdrained⟩, .inl rfl⟩
  | start => cases hdrained
  | @stroke c _ s effects _ allowed happens =>
      cases s with
      | turn t => exact (hturn t allowed).elim
      | touch touch =>
          cases happens
          refine ⟨⟨c, rfl, (c.touch_eq touch).1 ▸ hdrained⟩, ?_⟩
          cases touch with
          | want _ | cancel | leave | room _ => exact .inl rfl
          | drain => exact .inr (.inl rfl)
          | submit r =>
              simp only [Roll.observer, Connection.entry?]
              cases c.takes with
              | true => exact .inr (.inr ⟨r, allowed, rfl⟩)
              | false => exact .inl rfl

/-- The driver's turn: it tells everybody, or has done so. -/
lemma Enrolled.behind_drive (h : u.Enrolled g) {turn : DriverTurn}
    (ha : u.act (.drive n turn) = some u') {c' : Connection η}
    (hthere : u'.transport.connections[n]? = some c') (hdrained : c'.driver.drained) :
    u'.Behind (g.note u (.drive n turn)) n := by
  obtain ⟨c, c'', effects, hc, happens, hc', hunderway⟩ := drive_cases ha
  cases hc'.symm.trans hthere
  have hobserve := observe_of_stroke (a := .drive n turn) Roll.observer g.rolls rfl hc happens
  have hroll : (g.note u (.drive n turn)).rolls n
      = Roll.observer.note c (.turn turn) effects (g.rolls n) := by
    change u.observe Roll.observer (.drive n turn) g.rolls n = _
    rw [hobserve, Function.update_self]
  -- a driver that has told everybody before does not do so again
  have hbefore : c.driver.drained → turn = .advance → c.entry? (.turn .advance) = none →
      (c.driver matches .draining _ _) = false → u'.Behind (g.note u (.drive n turn)) n := by
    rintro hd rfl hentry hno
    have hcaught : (g.note u (.drive n .advance)).caught = g.caught := by
      simp only [Rolls.note, draining?, hc, Option.any_some, hno]
      rfl
    have hlate : ((g.note u (.drive n .advance)).rolls n).late = (g.rolls n).late := by
      rw [hroll]
      simp only [Roll.observer, hentry, Roll.enter]
    exact (h.behind n c hc hd).of_eq hunderway (congrFun hcaught n) hlate
  have hturns := Connection.turns_of_drive happens
  cases hturns with
  | take e here | stop here _ | accept here | message here | acknowledge here _ | depart here
  | finish here _ | pass here _ _ _ _ | announce here | abandon here | mark here | lower here =>
      cases hdrained
  | judge here | close here =>
      refine hbefore (here ▸ rfl) rfl ?_ (here ▸ rfl)
      simp only [Connection.entry?, here]
  | drain here =>
      have hentry : c.entry? (.turn .advance) = some .closed := by
        simp only [Connection.entry?, here]
      have hlate : ((g.note u (.drive n .advance)).rolls n).late = [] := by
        rw [hroll]
        simp only [Roll.observer, hentry, Roll.enter]
      have hcaught : (g.note u (.drive n .advance)).caught n
          = u'.underway.bind (Phase.crossing? n) := by
        simp only [Rolls.note, draining?, hc, Option.any_some, here, if_true]
        rw [Function.update_self, hunderway]
      exact ⟨fun x hx => ⟨hcaught.trans hx, hlate⟩, hlate ▸ List.nil_sublist _⟩

/-- **Whom a driver leaves behind** when it has told everybody: whose request was caught. -/
lemma Enrolled.behind_act (h : u.Enrolled g) (ha : u.act a = some u') {c' : Connection η}
    (hthere : u'.transport.connections[n]? = some c') (hdrained : c'.driver.drained) :
    u'.Behind (g.note u a) n := by
  by_cases hturn : ∃ turn, a = .drive n turn
  · obtain ⟨turn, rfl⟩ := hturn
    exact h.behind_drive ha hthere hdrained
  have hother : (∀ t, u.stroke? a ≠ some (n, .turn t)) ∧ (g.note u a).caught n = g.caught n := by
    cases a with
    | call c => exact ⟨by rintro t ⟨⟩, rfl⟩
    | room m b => exact ⟨by rintro t ⟨⟩, rfl⟩
    | drive m turn =>
        have hne : n ≠ m := by
          rintro rfl
          exact hturn ⟨turn, rfl⟩
        refine ⟨?_, caught_of_ne hne⟩
        rintro t ⟨⟩
        exact hne rfl
    | phase =>
        refine ⟨fun t he => ?_, rfl⟩
        obtain ⟨p, -, hs⟩ := Option.bind_eq_some_iff.mp he
        obtain ⟨x, -, hx⟩ := Option.map_eq_some_iff.mp hs
        cases hx
  obtain ⟨hother, hcaught⟩ := hother
  obtain ⟨⟨c, hc, hd⟩, hlate⟩ := late_cases (g := g) ha hother hthere hdrained
  have hbehind := h.behind n c hc hd
  have hkept := h.kept n
  rw [hc] at hkept
  refine ⟨fun x hx => ?_, ?_⟩
  · rcases crossing_act ha hx with ⟨hsame, hno⟩ | hup
    · obtain ⟨hx, hnone⟩ := hbehind.crossing x (hsame ▸ hx)
      refine ⟨hcaught.trans hx, ?_⟩
      rcases hlate with hlate | hlate | ⟨r, hs, -⟩
      · exact hlate.trans hnone
      · exact hlate
      · exact (hno r hs).elim
    · rw [hc, Option.any_some, hkept.down (Driver.lowered_of_drained hd)] at hup
      cases hup
  · rw [hcaught]
    rcases hlate with hlate | hlate | ⟨r, hs, hlate⟩
    · exact hlate ▸ hbehind.late
    · exact hlate ▸ List.nil_sublist _
    · have hcrossing : u.underway.bind (Phase.crossing? n) = some r.handler := by
        rw [underway_of_submit hs]
        exact if_pos rfl
      obtain ⟨hr, hnone⟩ := hbehind.crossing _ hcrossing
      rw [hlate, hnone, hr]
      exact List.Sublist.refl _

/-! ### Every request -/

/-- **Everything that happens** is recorded. -/
theorem Enrolled.act (h : u.Enrolled g) (ha : u.act a = some u') : u'.Enrolled (g.note u a) where
  orderly := h.orderly.act ha
  kept n := Observer.Holds.step Roll.keeps_kept Roll.kept_new (h.kept n)
    (step_act Roll.observer ha g.rolls n)
  taken := h.taken_act ha
  made := h.made_act ha
  behind _ _ := h.behind_act ha

variable {config : TransportConfig} {args : ConnectionArgs} {files : Config.Files}
  {acts : List (Act η)}

lemma enrolled_run (hrun : run Rolls.note (new config args files, {}) acts = (u, g)) :
    u.Enrolled g :=
  runWith_induction_of_eq hrun Enrolled (enrolled_new config args files)
    fun _ _ _ _ hu ha => hu.act ha

/-- **Every request of a transport in use.**  Whoever was accepted by a connection was told, or
waits there, each as often as the other; if no two requests have the same handler, one that was
refused is never told.  When the driver has told everybody, those who wait are those who came late,
and that is one handler at most: whose request had passed every check just then. -/
theorem told_of_accepted (hrun : run Rolls.note (new config args files, {}) acts = (u, g))
    {c : Connection η} (hthere : u.transport.connections[n]? = some c) :
    (g.acceptedBy n : Multiset η) = ((g.rolls n).told : Multiset η) + c.acks.handlers ∧
      (g.made.Nodup → ∀ h ∈ g.refused, h ∉ (g.rolls n).told) ∧
      (c.driver.drained → c.acks.handlers = ((g.rolls n).late : Multiset η) ∧
        (g.rolls n).late.Sublist (g.caught n).toList) := by
  have henrolled := enrolled_run hrun
  have hkept := henrolled.kept n
  rw [hthere] at hkept
  have hwhole := hkept.whole
  rw [henrolled.taken n] at hwhole
  refine ⟨hwhole, fun hnodup h hrefused htold => ?_, fun hd =>
    ⟨hkept.late hd, (henrolled.behind n c hthere hd).late⟩⟩
  have haccepted : h ∈ (g.accepted.map Prod.snd : List η) := by
    have hmem : h ∈ (g.acceptedBy n : Multiset η) :=
      hwhole ▸ Multiset.mem_add.mpr (.inl (Multiset.mem_coe.mpr htold))
    obtain ⟨x, hx, rfl⟩ := List.mem_map.mp (Multiset.mem_coe.mp hmem)
    exact List.mem_map_of_mem (List.mem_filter.mp hx).1
  have hall := Multiset.coe_nodup.mpr hnodup
  rw [henrolled.made, Multiset.nodup_add, Multiset.nodup_add] at hall
  exact Multiset.disjoint_left.mp hall.1.2.2 (Multiset.mem_coe.mpr haccepted)
    (Multiset.mem_coe.mpr hrefused)

/-- A connection comes up; one request is acknowledged, and one is refused. -/
def busy : List (Act Nat) :=
  [.call (.connect none none), .phase, .phase,
    .drive 0 (.wake (.event .acceptance)), .drive 0 .advance, .drive 0 .advance,
    .call (.publish "t" [] 0), .phase, .phase, .phase,
    .drive 0 (.wake (.event (.left (.request .publish 1)))), .drive 0 .advance,
    .drive 0 (.wake (.event (.arrived (.pubAck 1)))), .drive 0 .advance,
    .room 0 false, .call (.publish "t" [] 1), .phase, .phase, .phase, .room 0 true]

/-- A request finds the connection up; the driver loses it and tells everybody; the request is
handed over, and the driver returns. -/
def overtaken : List (Act Nat) :=
  [.call (.publish "t" [] 2), .phase, .phase,
    .drive 0 (.wake (.event (.failed .networkTimeout))), .drive 0 .advance, .drive 0 .advance,
    .drive 0 .advance, .drive 0 .advance,
    .phase, .drive 0 .advance]

lemma overtaken_ends :
    let p := run Rolls.note (unsecured, {}) (busy ++ overtaken)
    p.1.transport.connections[0]?.map (·.driver) = some .returned ∧ p.1.underway = none ∧
      p.2.made = [0, 1, 2] ∧ p.2.accepted = [(0, 0), (0, 2)] ∧ p.2.refused = [1] ∧
      (p.2.rolls 0).told = [0] ∧ (p.2.rolls 0).late = [2] ∧ p.2.caught 0 = some 2 := by
  refine ⟨by decide, by decide, by decide, by decide, by decide, by decide, by decide, by decide⟩

/-- The request that was overtaken waits, and neither of the others does. -/
theorem told_of_overtaken :
    let p := run Rolls.note (unsecured, {}) (busy ++ overtaken)
    ∃ c, p.1.transport.connections[0]? = some c ∧ c.driver = .returned ∧
      (p.2.acceptedBy 0 : Multiset Nat) = ((p.2.rolls 0).told : Multiset Nat) + c.acks.handlers ∧
      c.acks.handlers = {2} ∧ 1 ∉ (p.2.rolls 0).told := by
  obtain ⟨hdriver, -, hmade, -, hrefused, -, hlate, -⟩ := overtaken_ends
  obtain ⟨c, hthere, hreturned⟩ := Option.map_eq_some_iff.mp hdriver
  obtain ⟨hwhole, hquiet, hleft⟩ := told_of_accepted (Prod.eta _).symm hthere
  refine ⟨c, hthere, hreturned, hwhole, ?_, hquiet ?_ 1 ?_⟩
  · exact (hleft (hreturned ▸ rfl)).1.trans (congrArg _ hlate)
  · have hnodup : [0, 1, 2].Nodup := by decide
    exact hmade ▸ hnodup
  · exact hrefused ▸ List.mem_cons_self

/-- **Not everybody who was accepted is told**, although the driver has told everybody and no call
is under way. -/
theorem accepted_untold :
    ¬ ∀ (acts : List (Act Nat)) (u : Usage Nat) (g : Rolls Nat) (n : Nat) (c : Connection Nat),
      run Rolls.note (unsecured, {}) acts = (u, g) → u.transport.connections[n]? = some c →
      c.driver.drained → u.underway = none →
      c.acks.handlers = 0 ∧ ∀ h, (n, h) ∈ g.accepted → (g.rolls n).told.count h = 1 := by
  intro h
  obtain ⟨hdriver, hidle, -, haccepted, -, htold, -, -⟩ := overtaken_ends
  obtain ⟨c, hthere, hreturned⟩ := Option.map_eq_some_iff.mp hdriver
  have hone := (h _ _ _ 0 c (Prod.eta _).symm hthere (hreturned ▸ rfl) hidle).2 2
    (haccepted ▸ List.mem_cons_of_mem _ List.mem_cons_self)
  rw [htold] at hone
  cases hone

end Usage

end DeviceLink.Transport
