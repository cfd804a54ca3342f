import DeviceLink.Proofs.Transport.Life
import DeviceLink.Proofs.Transport.Tracker

/-!
# Whose request an acknowledgement is about

A request gets its packet id when it leaves, and no event of the client says whose request it is
about.  What ties them together is an order: the requests of a kind leave in the order in which the
client has taken them.  The ledger of a connection says what the client has taken, which events the
driver has looked at, and when handlers were given up, so it tells whose request has left under
which id, and whose request is acknowledged.

* `Entry`, `Ledger`, `Ledger.observer` — the ledger of a connection.
* `Ledger.Fair` — client and broker keep to the order of requests, and to free packet ids.
* `Ledger.Left` — an entry says that a handler's request leaves.
* `Ledger.Answered`, `Ledger.Dropped` — how the ledger says that a request has come to its end.
* **`Answered.unique`** — an entry is an answer to one request at most.
* `Tracks` — the tracker of a connection holds what its ledger says.
* **`Tracks.stroke`** — that stays so, and whatever a handler is told is what the ledger says.
-/

namespace DeviceLink.Transport

variable {η : Type}

/-! ## Entries -/

/-- An entry in the ledger of a connection. -/
inductive Entry (η : Type) where
  /-- The client takes the request of a handler. -/
  | accepted (kind : AckKind) (handler : η)
  /-- The driver looks at an event. -/
  | event (e : ClientEvent)
  /-- All handlers that wait are told that the connection is closed. -/
  | closed
  deriving DecidableEq

namespace Entry

/-- A request leaves. -/
abbrev departure (kind : AckKind) (pkid : Nat) : Entry η := event (.left (.request kind pkid))

/-- The request that the client takes, by its kind and its handler. -/
def taken? : Entry η → Option (AckKind × η)
  | accepted kind handler => some (kind, handler)
  | event _ | closed => none

/-- The handler of a request of a kind that the client takes. -/
def accepts? (kind : AckKind) : Entry η → Option η
  | accepted other handler => if other = kind then some handler else none
  | event _ | closed => none

/-- The packet id of a request of a kind that leaves. -/
def departs? (kind : AckKind) : Entry η → Option Nat
  | event e => e.departure?.bind fun d => if d.1 = kind then some d.2 else none
  | accepted _ _ | closed => none

/-- A packet is acknowledged. -/
def acks (kind : AckKind) (pkid : Nat) : Entry η → Bool
  | event e => e.ack?.any fun a => a.1 = kind ∧ a.2.1 = pkid
  | accepted _ _ | closed => false

end Entry

/-- **The ledger of a connection**, oldest entry first. -/
abbrev Ledger (η : Type) := List (Entry η)

/-- What a stroke adds to the ledger. -/
def Connection.entry? (c : Connection η) : Stroke η → Option (Entry η)
  | .touch (.submit r) => if c.takes then some (.accepted r.kind r.handler) else none
  | .touch .drain => some .closed
  | .touch (.want _) | .touch .cancel | .touch .leave | .touch (.room _) => none
  | .turn .advance =>
    match c.driver with
    | .holding e => some (.event e)
    | .draining _ _ => some .closed
    | _ => none
  | .turn (.wake _) => none

namespace Ledger

def observer : Observer η (Ledger η) where
  start := []
  note c s _ led := led ++ (c.entry? s).toList

/-- The requests that the client has taken, by their kinds and handlers. -/
def takings (led : Ledger η) : List (AckKind × η) := led.filterMap Entry.taken?

/-- The handlers of the requests of a kind that the client has taken. -/
def acceptances (led : Ledger η) (kind : AckKind) : List η := led.filterMap (Entry.accepts? kind)

/-- The packet ids under which requests of a kind have left. -/
def departures (led : Ledger η) (kind : AckKind) : List Nat := led.filterMap (Entry.departs? kind)

/-- A packet has left under an id and is not acknowledged yet. -/
def aloft (led : Ledger η) (kind : AckKind) (pkid : Nat) : Bool :=
  led.foldl (fun up x =>
    if x.departs? kind = some pkid then true else if x.acks kind pkid then false else up) false

/-! ## What client and broker keep to -/

/-- An entry is in order after all others: a request leaves only after the client has taken it, and
not under an id other than 0 that is taken. -/
def InOrder (led : Ledger η) : Entry η → Prop
  | .event (.left (.request kind pkid)) =>
    (departures led kind).length < (acceptances led kind).length ∧
      (pkid ≠ 0 → aloft led kind pkid = false)
  | .event (.arrived _) | .event (.left .disconnect) | .event (.left .other) | .event (.failed _)
  | .accepted _ _ | .closed => True

/-- **Client and broker keep to the order** of the requests, and to free packet ids. -/
def Fair (led : Ledger η) : Prop := ∀ i (h : i < led.length), InOrder (led.take i) led[i]

instance (led : Ledger η) (x : Entry η) : Decidable (InOrder led x) :=
  match x with
  | .event (.left (.request _ _)) => inferInstanceAs (Decidable (_ ∧ _))
  | .event (.arrived _) | .event (.left .disconnect) | .event (.left .other) | .event (.failed _)
  | .accepted _ _ | .closed => .isTrue trivial

instance (led : Ledger η) : Decidable (Fair led) :=
  inferInstanceAs (Decidable (∀ i (h : i < led.length), InOrder (led.take i) led[i]))

variable {led : Ledger η} {x : Entry η} {kind : AckKind} {pkid i n : Nat} {h : η}

lemma acceptances_concat :
    acceptances (led ++ [x]) kind = acceptances led kind ++ (x.accepts? kind).toList := by
  rw [acceptances, List.filterMap_append]
  cases hx : x.accepts? kind <;> simp [acceptances, hx]

lemma departures_concat :
    departures (led ++ [x]) kind = departures led kind ++ (x.departs? kind).toList := by
  rw [departures, List.filterMap_append]
  cases hx : x.departs? kind <;> simp [departures, hx]

lemma takings_concat : takings (led ++ [x]) = takings led ++ x.taken?.toList := by
  rw [takings, List.filterMap_append]
  cases hx : x.taken? <;> simp [takings, hx]

lemma mem_takings : (kind, h) ∈ takings led ↔ Entry.accepted kind h ∈ led := by
  rw [takings, List.mem_filterMap]
  constructor
  · rintro ⟨x, hx, he⟩
    cases x with
    | accepted other handler =>
        cases he
        exact hx
    | event _ | closed => cases he
  · exact fun hmem => ⟨_, hmem, rfl⟩

/-- What was in order stays in order. -/
lemma Fair.of_append {more : Ledger η} (hfair : Fair (led ++ more)) : Fair led := by
  intro i hi
  have hlong : i < (led ++ more).length := by
    rw [List.length_append]
    exact Nat.lt_add_right _ hi
  have hthere := hfair i hlong
  rwa [List.getElem_append_left hi, List.take_append_of_le_length (Nat.le_of_lt hi)] at hthere

lemma fair_nil : Fair ([] : Ledger η) := fun i hi => absurd hi (Nat.not_lt_zero i)

lemma Fair.inOrder (hfair : Fair (led ++ [x])) : InOrder led x := by
  have hthere := hfair led.length (by simp)
  rwa [List.getElem_concat_length rfl, List.take_left] at hthere

lemma mem_of_acceptances (hh : h ∈ acceptances led kind) : .accepted kind h ∈ led := by
  obtain ⟨x, hx, ha⟩ := List.mem_filterMap.mp hh
  cases x with
  | accepted other handler =>
      simp only [Entry.accepts?] at ha
      split at ha <;> cases ha
      next he => exact he ▸ hx
  | event _ | closed => cases ha

/-! ## A request on its way -/

/-- **An entry says that a handler's request leaves:** as many requests of its kind have left before
it as the client had taken before that request. -/
structure Left (led : Ledger η) (i : Nat) (kind : AckKind) (pkid : Nat) (h : η) : Prop where
  departs : led[i]? = some (.departure kind pkid)
  request : (acceptances (led.take i) kind)[(departures (led.take i) kind).length]? = some h

lemma Left.lt (hleft : Left led i kind pkid h) : i < led.length :=
  (List.getElem?_eq_some_iff.mp hleft.departs).1

lemma Left.append (hleft : Left led i kind pkid h) (more : Ledger η) :
    Left (led ++ more) i kind pkid h where
  departs := by
    rw [List.getElem?_append_left hleft.lt]
    exact hleft.departs
  request := by
    rw [List.take_append_of_le_length (Nat.le_of_lt hleft.lt)]
    exact hleft.request

lemma Left.accepted (hleft : Left led i kind pkid h) : .accepted kind h ∈ led :=
  List.mem_of_mem_take (mem_of_acceptances (List.mem_of_getElem? hleft.request))

/-- Nothing after an entry acknowledges a packet. -/
def Unacked (led : Ledger η) (i : Nat) (kind : AckKind) (pkid : Nat) : Prop :=
  ∀ x ∈ led.drop (i + 1), x.acks kind pkid = false

lemma Unacked.concat (hun : Unacked led i kind pkid) (hx : x.acks kind pkid = false)
    (hi : i < led.length) : Unacked (led ++ [x]) i kind pkid := by
  intro y hy
  rw [List.drop_append_of_le_length hi, List.mem_append, List.mem_singleton] at hy
  rcases hy with hy | rfl
  · exact hun y hy
  · exact hx

/-- A packet that has left and is not acknowledged is in the air. -/
lemma aloft_of_unacked (hleft : led[i]? = some (.departure kind pkid))
    (hun : Unacked led i kind pkid) : aloft led kind pkid = true := by
  obtain ⟨hi, hx⟩ := List.getElem?_eq_some_iff.mp hleft
  have hsplit : led = led.take i ++ .departure kind pkid :: led.drop (i + 1) := by
    rw [← hx, List.getElem_cons_drop, List.take_append_drop]
  have hstays : ∀ rest : Ledger η, (∀ x ∈ rest, x.acks kind pkid = false) →
      rest.foldl (fun up x => if x.departs? kind = some pkid then true
        else if x.acks kind pkid then false else up) true = true := by
    intro rest
    induction rest with
    | nil => exact fun _ => rfl
    | cons y rest ih =>
        intro hrest
        rw [List.foldl_cons, hrest y List.mem_cons_self]
        simpa using ih fun x hx => hrest x (List.mem_cons_of_mem _ hx)
  rw [hsplit, aloft, List.foldl_append, List.foldl_cons]
  have hdeparts : (Entry.departure kind pkid : Entry η).departs? kind = some pkid := by
    simp [Entry.departs?, ClientEvent.departure?]
  rw [if_pos hdeparts]
  exact hstays _ hun

/-! ## How a request comes to its end -/

/-- **An entry answers a handler's request:** it left with the id 0, which nothing acknowledges, or
the entry is the first one to acknowledge the packet, by its kind and id, since the request has left
with it. -/
inductive Answered (led : Ledger η) (n : Nat) (kind : AckKind) (h : η) :
    Except Fault Unit → Prop where
  | departed (left : Left led n kind 0 h) : Answered led n kind h (.ok ())
  | acknowledged {i pkid : Nat} {e : ClientEvent} {outcome : Except Fault Unit}
      (left : Left led i kind pkid h) (nonzero : pkid ≠ 0) (later : i < n)
      (entry : led[n]? = some (.event e)) (ack : e.ack? = some (kind, pkid, outcome))
      (first : Unacked (led.take n) i kind pkid) : Answered led n kind h outcome

/-- A handler's request was taken, and later the handlers that waited were given up. -/
def Dropped (led : Ledger η) (kind : AckKind) (h : η) : Prop :=
  ∃ i j : Nat, i < j ∧ led[i]? = some (Entry.accepted kind h) ∧ led[j]? = some Entry.closed

variable {outcome : Except Fault Unit}

lemma getElem?_of_append {more : Ledger η} (hx : led[i]? = some x) :
    (led ++ more)[i]? = some x := by
  rw [List.getElem?_append_left (List.getElem?_eq_some_iff.mp hx).1]
  exact hx

lemma Answered.append (ha : Answered led n kind h outcome) (more : Ledger η) :
    Answered (led ++ more) n kind h outcome := by
  cases ha with
  | departed left => exact .departed (left.append more)
  | acknowledged left nonzero later entry ack first =>
      refine .acknowledged (left.append more) nonzero later (getElem?_of_append entry) ack ?_
      have hn := (List.getElem?_eq_some_iff.mp entry).1
      rwa [List.take_append_of_le_length (Nat.le_of_lt hn)]

lemma Dropped.append (hd : Dropped led kind h) (more : Ledger η) :
    Dropped (led ++ more) kind h := by
  obtain ⟨i, j, hij, hi, hj⟩ := hd
  exact ⟨i, j, hij, getElem?_of_append hi, getElem?_of_append hj⟩

lemma Answered.accepted (ha : Answered led n kind h outcome) : Entry.accepted kind h ∈ led := by
  cases ha with
  | departed left | acknowledged left _ _ _ _ _ => exact left.accepted

lemma Dropped.accepted (hd : Dropped led kind h) : Entry.accepted kind h ∈ led := by
  obtain ⟨i, j, -, hi, -⟩ := hd
  exact List.mem_of_getElem? hi

/-- A broker only turns down subscriptions. -/
theorem Answered.rejected {f : Fault} (ha : Answered led n kind h (.error f)) :
    kind = .subscribe ∧ ∃ text, f = .subscriptionRejected text := by
  cases ha with
  | @acknowledged i pkid e _ left nonzero later entry ack first =>
      cases e with
      | arrived p =>
          cases p with
          | subAck id levels =>
              simp only [ClientEvent.ack?, Connection.granted] at ack
              split at ack <;> cases ack
              exact ⟨rfl, _, rfl⟩
          | connAck _ | publish _ _ | pubAck _ | pubComp _ | unsubAck _ | disconnect
          | other => cases ack
      | left d | failed f => cases ack

/-- While a packet is in the air, no other leaves under its id. -/
lemma Fair.not_left_again (hfair : Fair led) {j : Nat} (hi : Left led i kind pkid h)
    (hj : led[j]? = some (.departure kind pkid)) (hij : i < j) (hzero : pkid ≠ 0) (hjn : j < n)
    (hun : Unacked (led.take n) i kind pkid) : False := by
  obtain ⟨hlt, hx⟩ := List.getElem?_eq_some_iff.mp hj
  have horder := hfair j hlt
  rw [hx] at horder
  have hthere : (led.take j)[i]? = some (.departure kind pkid) := by
    rw [List.getElem?_take_of_lt hij]
    exact hi.departs
  have hbetween : Unacked (led.take j) i kind pkid := by
    intro y hy
    refine hun y ?_
    have htake : led.take j = (led.take n).take j := by
      rw [List.take_take, Nat.min_eq_left (Nat.le_of_lt hjn)]
    rw [htake, List.drop_take] at hy
    exact List.mem_of_mem_take hy
  have haloft := aloft_of_unacked hthere hbetween
  rw [horder.2 hzero] at haloft
  cases haloft

/-- **An entry is an answer to one request at most**, as long as client and broker keep to the
order. -/
theorem Answered.unique (hfair : Fair led) {kind' : AckKind} {h' : η}
    {outcome' : Except Fault Unit} (ha : Answered led n kind h outcome)
    (hb : Answered led n kind' h' outcome') : kind' = kind ∧ h' = h ∧ outcome' = outcome := by
  cases ha with
  | departed left =>
      cases hb with
      | departed left' =>
          cases left.departs.symm.trans left'.departs
          cases left.request.symm.trans left'.request
          exact ⟨rfl, rfl, rfl⟩
      | acknowledged left' nonzero later entry ack first =>
          cases left.departs.symm.trans entry
          cases ack
  | @acknowledged i pkid e _ left nonzero later entry ack first =>
      cases hb with
      | departed left' =>
          cases entry.symm.trans left'.departs
          cases ack
      | @acknowledged i' _ _ _ left' _ later' entry' ack' first' =>
          cases entry.symm.trans entry'
          cases ack.symm.trans ack'
          rcases Nat.lt_trichotomy i i' with hlt | rfl | hgt
          · exact (hfair.not_left_again left left'.departs hlt nonzero later' first).elim
          · cases left.request.symm.trans left'.request
            exact ⟨rfl, rfl, rfl⟩
          · exact (hfair.not_left_again left' left.departs hgt nonzero later first').elim

/-- What a handler is told is what the ledger says: its request is answered, or was dropped. -/
def Justifies (led : Ledger η) (t : Told η) : Prop :=
  (∃ n kind, Answered led n kind t.1 t.2) ∨
    t.2 = .error .connectionClosed ∧ ∃ kind, Dropped led kind t.1

lemma Justifies.append {t : Told η} (hj : Justifies led t) (more : Ledger η) :
    Justifies (led ++ more) t := by
  rcases hj with ⟨n, kind, ha⟩ | ⟨hclosed, kind, hd⟩
  · exact .inl ⟨n, kind, ha.append more⟩
  · exact .inr ⟨hclosed, kind, hd.append more⟩

end Ledger

/-! ## The tracker and the ledger -/

open Ledger

/-- The driver has given up all handlers, and does not look at events any more. -/
def Driver.drained : Driver → Bool
  | judging _ | closing _ | returned => true
  | waiting | holding _ | announcing | cancelling | ending _ | lowering _ | draining _ _ => false

/-- A request has left under an id other than 0 and is not acknowledged. -/
def Ledger.Awaits (led : Ledger η) (key : AckKind × Nat) (h : η) : Prop :=
  key.2 ≠ 0 ∧ ∃ i, Left led i key.1 key.2 h ∧ Unacked led i key.1 key.2

/-- **The tracker of a connection holds what its ledger says.** -/
structure Tracks (c : Connection η) (led : Ledger η) : Prop where
  covered : ∀ kind, (departures led kind).length ≤ (acceptances led kind).length
  /-- The requests that have not left, oldest first. -/
  queued : .closed ∉ led →
    ∀ kind, c.acks.queued kind = (acceptances led kind).drop (departures led kind).length
  /-- Handlers that were given up do not stay in line. -/
  spent : .closed ∈ led → (∀ kind, c.acks.queued kind = []) ∨ c.driver.drained
  inflight : ∀ x ∈ c.acks.inflight, Awaits led x.1 x.2
  known : ∀ kind, ∀ h ∈ c.acks.queued kind, .accepted kind h ∈ led

lemma tracks_new : Tracks ({} : Connection η) [] where
  covered _ := Nat.le_refl _
  queued _ _ := rfl
  spent hclosed := nomatch hclosed
  inflight := List.forall_mem_nil _
  known _ := List.forall_mem_nil _

namespace Ledger

variable {led : Ledger η} {x : Entry η} {key : AckKind × Nat} {kind : AckKind} {h : η}

lemma Awaits.concat (ha : Awaits led key h) (hx : x.acks key.1 key.2 = false) :
    Awaits (led ++ [x]) key h := by
  obtain ⟨hzero, i, hleft, hun⟩ := ha
  exact ⟨hzero, i, hleft.append _, hun.concat hx hleft.lt⟩

/-- Whoever has been accepted is dropped when all handlers are given up. -/
lemma dropped_concat (hh : Entry.accepted kind h ∈ led) : Dropped (led ++ [.closed]) kind h := by
  obtain ⟨i, hi, hx⟩ := List.getElem_of_mem hh
  refine ⟨i, led.length, hi, ?_, List.getElem?_concat_length⟩
  rw [List.getElem?_append_left hi, List.getElem?_eq_getElem hi, hx]

end Ledger

namespace Tracks

variable {c c' : Connection η} {led : Ledger η} {x : Entry η} {kind : AckKind} {pkid : Nat} {h : η}

/-- Only the tracker matters, and whether the driver has given up all handlers. -/
lemma of_eq (ht : Tracks c led) (hacks : c'.acks = c.acks)
    (hdriver : c.driver.drained → c'.driver.drained) : Tracks c' led where
  covered := ht.covered
  queued := hacks ▸ ht.queued
  spent hclosed := (ht.spent hclosed).imp (fun hnone => hacks ▸ hnone) hdriver
  inflight := hacks ▸ ht.inflight
  known := hacks ▸ ht.known

lemma closed_concat (led : Ledger η) (hx : x ≠ .closed) : .closed ∈ led ++ [x] ↔ .closed ∈ led := by
  rw [List.mem_append, List.mem_singleton]
  exact or_iff_left (Ne.symm hx)

/-- Every handler that waits has been accepted. -/
lemma accepted_of_waiting (ht : Tracks c led) (hh : h ∈ c.acks.waiting) :
    ∃ kind, Entry.accepted kind h ∈ led := by
  simp only [AckTracker.waiting, List.mem_append, List.mem_map] at hh
  rcases hh with ((hh | hh) | hh) | ⟨x, hx, rfl⟩
  · exact ⟨_, ht.known _ h hh⟩
  · exact ⟨_, ht.known _ h hh⟩
  · exact ⟨_, ht.known _ h hh⟩
  · obtain ⟨-, i, hleft, -⟩ := ht.inflight x hx
    exact ⟨_, hleft.accepted⟩

/-- **An event that is about no departure**: the line stays as it is, and whoever is still in flight
is not acknowledged. -/
lemma event {e : ClientEvent} (ht : Tracks c led) (hdeparture : e.departure? = none)
    (hqueued : ∀ kind, c'.acks.queued kind = c.acks.queued kind)
    (hinflight : ∀ x ∈ c'.acks.inflight, x ∈ c.acks.inflight ∧
      (Entry.event e : Entry η).acks x.1.1 x.1.2 = false)
    (hdriver : c.driver.drained → c'.driver.drained) : Tracks c' (led ++ [.event e]) := by
  have haccepts : ∀ kind, acceptances (led ++ [.event e]) kind = acceptances led kind := by
    intro kind
    rw [acceptances_concat]
    exact List.append_nil _
  have hdeparts : ∀ kind, departures (led ++ [.event e]) kind = departures led kind := by
    intro kind
    rw [departures_concat, Entry.departs?, hdeparture]
    exact List.append_nil _
  have hclosed := closed_concat led (x := .event e) (by rintro ⟨⟩)
  refine ⟨?_, ?_, ?_, ?_, ?_⟩
  · intro kind
    rw [haccepts, hdeparts]
    exact ht.covered kind
  · intro hopen kind
    rw [haccepts, hdeparts, hqueued]
    exact ht.queued (mt hclosed.mpr hopen) kind
  · intro hthere
    refine (ht.spent (hclosed.mp hthere)).imp (fun hnone kind => ?_) hdriver
    rw [hqueued]
    exact hnone kind
  · intro x hx
    obtain ⟨hmem, hnot⟩ := hinflight x hx
    exact (ht.inflight x hmem).concat hnot
  · intro kind h hh
    rw [hqueued] at hh
    exact List.mem_append_left _ (ht.known kind h hh)

/-- **A packet is acknowledged**, and whoever is told of it is who has waited for it. -/
lemma acknowledge {e : ClientEvent} {outcome : Except Fault Unit} (ht : Tracks c led)
    (here : c.driver = .holding e) (ack : e.ack? = some (kind, pkid, outcome)) :
    Tracks (c.withAcks (c.acks.acknowledged kind pkid outcome) .waiting).1 (led ++ [.event e]) ∧
      ∀ t ∈ (c.acks.acknowledged kind pkid outcome).2, Justifies (led ++ [.event e]) t := by
  have hdeparture : e.departure? = none := by
    cases e with
    | arrived p => rfl
    | left d | failed f => cases ack
  constructor
  · refine ht.event hdeparture (AckTracker.queued_acknowledged _ _ · _ _) (fun x hx => ?_) ?_
    · obtain ⟨hmem, hne⟩ := AckTracker.mem_inflight_acknowledged hx
      refine ⟨hmem, ?_⟩
      rw [Entry.acks, ack, Option.any_some, decide_eq_false_iff_not]
      rintro ⟨hkind, hpkid⟩
      exact hne (Prod.ext hkind.symm hpkid.symm)
    · rw [here]
      rintro ⟨⟩
  · intro t hmem
    obtain ⟨hin, rfl⟩ := AckTracker.of_mem_acknowledged hmem
    obtain ⟨hzero, i, hleft, hun⟩ := ht.inflight _ hin
    refine .inl ⟨led.length, kind, .acknowledged (hleft.append _) hzero hleft.lt
      List.getElem?_concat_length ack ?_⟩
    rwa [List.take_left]

/-- **A request leaves**, and if its handler is told so, its packet id is 0. -/
lemma depart (ht : Tracks c led) (here : c.driver = .holding (.left (.request kind pkid)))
    (horder : InOrder led (.departure kind pkid)) :
    Tracks (c.withAcks (c.acks.sent kind pkid) .waiting).1 (led ++ [.departure kind pkid]) ∧
      ∀ t ∈ (c.acks.sent kind pkid).2, Justifies (led ++ [.departure kind pkid]) t := by
  obtain ⟨hmore, hfree⟩ := horder
  set x : Entry η := .departure kind pkid with hx
  have haccepts : ∀ other, acceptances (led ++ [x]) other = acceptances led other := by
    intro other
    rw [acceptances_concat]
    exact List.append_nil _
  have hdeparts : ∀ other, departures (led ++ [x]) other
      = departures led other ++ if kind = other then [pkid] else [] := by
    intro other
    rw [departures_concat, hx, Entry.departs?, ClientEvent.departure?, Option.bind_some]
    by_cases hk : kind = other <;> simp [hk]
  have hcovered : ∀ other, (departures (led ++ [x]) other).length
      ≤ (acceptances (led ++ [x]) other).length := by
    intro other
    rw [haccepts, hdeparts, List.length_append]
    by_cases hk : kind = other
    · rw [if_pos hk, ← hk]
      exact hmore
    · rw [if_neg hk]
      exact ht.covered other
  have hclosed := closed_concat led (x := x) (by rw [hx]; rintro ⟨⟩)
  have hacks : ∀ key : AckKind × Nat, x.acks key.1 key.2 = false := fun _ => rfl
  by_cases hopen : .closed ∈ led
  · -- nobody is in line any more
    have hnone : ∀ other, c.acks.queued other = [] := by
      refine (ht.spent hopen).resolve_right ?_
      rw [here]
      rintro ⟨⟩
    have hsent : c.acks.sent kind pkid = (c.acks, []) := by
      rw [AckTracker.sent, hnone kind]
    rw [hsent]
    refine ⟨⟨hcovered, fun hnot => (hnot (hclosed.mpr hopen)).elim, fun _ => .inl hnone,
      fun y hy => (ht.inflight y hy).concat (hacks _), fun other h hh => ?_⟩, List.forall_mem_nil _⟩
    rw [Connection.withAcks, hnone] at hh
    cases hh
  · -- the first one in line is the one whose request leaves
    have hlong := ht.queued hopen kind
    rw [List.drop_eq_getElem_cons hmore] at hlong
    set h := (acceptances led kind)[(departures led kind).length] with hh
    have hleft : Left (led ++ [x]) led.length kind pkid h := by
      refine ⟨List.getElem?_concat_length, ?_⟩
      rw [List.take_left, hh]
      exact List.getElem?_eq_getElem hmore
    have hfresh : ∀ y ∈ c.acks.inflight, y.1 ≠ (kind, pkid) := by
      rintro y hy hkey
      obtain ⟨hzero, i, hlefty, hun⟩ := ht.inflight y hy
      rw [hkey] at hzero hlefty hun
      have haloft := aloft_of_unacked hlefty.departs hun
      rw [hfree hzero] at haloft
      cases haloft
    have hqueued : ∀ other, (c.acks.setQueue kind
        ((acceptances led kind).drop ((departures led kind).length + 1))).queued other
        = (acceptances (led ++ [x]) other).drop (departures (led ++ [x]) other).length := by
      intro other
      rw [AckTracker.queued_setQueue, haccepts, hdeparts, List.length_append]
      by_cases hk : other = kind
      · rw [if_pos hk, if_pos hk.symm, hk]
        rfl
      · rw [if_neg hk, if_neg (Ne.symm hk)]
        exact ht.queued hopen other
    have hknown : ∀ other, ∀ g ∈ (c.acks.setQueue kind
        ((acceptances led kind).drop ((departures led kind).length + 1))).queued other,
        .accepted other g ∈ led ++ [x] := by
      intro other g hg
      rw [hqueued, haccepts] at hg
      exact List.mem_append_left _ (mem_of_acceptances (List.mem_of_mem_drop hg))
    rw [AckTracker.sent_eq hlong hfresh]
    by_cases hzero : pkid = 0
    · rw [if_pos hzero]
      refine ⟨⟨hcovered, fun _ => hqueued, fun hthere => (hopen (hclosed.mp hthere)).elim,
        fun y hy => (ht.inflight y hy).concat (hacks _), hknown⟩, ?_⟩
      intro t hmem
      cases List.mem_singleton.mp hmem
      exact .inl ⟨led.length, kind, .departed (hzero ▸ hleft)⟩
    · rw [if_neg hzero]
      refine ⟨⟨hcovered, fun _ => hqueued, fun hthere => (hopen (hclosed.mp hthere)).elim, ?_,
        hknown⟩, List.forall_mem_nil _⟩
      intro y hy
      rcases List.mem_append.mp hy with hy | hy
      · exact (ht.inflight y hy).concat (hacks _)
      · cases List.mem_singleton.mp hy
        refine ⟨hzero, led.length, hleft, ?_⟩
        rw [Unacked, List.drop_eq_nil_of_le (by simp)]
        exact List.forall_mem_nil _

/-- **All handlers are given up.** -/
lemma drain (ht : Tracks c led) (hacks : c'.acks = c.acks.failAll.1) :
    Tracks c' (led ++ [.closed]) ∧ ∀ t ∈ c.acks.failAll.2, Justifies (led ++ [.closed]) t := by
  constructor
  · refine ⟨?_, ?_, ?_, ?_, ?_⟩
    · intro kind
      rw [acceptances_concat, departures_concat]
      simpa [Entry.accepts?, Entry.departs?] using ht.covered kind
    · exact fun hopen => (hopen (List.mem_append_right _ List.mem_cons_self)).elim
    · exact fun _ => .inl fun _ => by rw [hacks]; rfl
    · rw [hacks]
      exact List.forall_mem_nil _
    · rw [hacks]
      exact fun _ => List.forall_mem_nil _
  · intro t hmem
    obtain ⟨h, hh, rfl⟩ := List.mem_map.mp hmem
    obtain ⟨kind, haccepted⟩ := ht.accepted_of_waiting hh
    exact .inr ⟨rfl, kind, dropped_concat haccepted⟩

/-- **The client takes a request**, as long as handlers have not been given up, or the driver does
not look at events any more. -/
lemma accept (ht : Tracks c led) (hopen : .closed ∈ led → c.driver.drained)
    (hacks : c'.acks = c.acks.enqueue kind h) (hdriver : c'.driver = c.driver) :
    Tracks c' (led ++ [.accepted kind h]) := by
  have haccepts : ∀ other, acceptances (led ++ [.accepted kind h]) other
      = acceptances led other ++ if kind = other then [h] else [] := by
    intro other
    rw [acceptances_concat, Entry.accepts?]
    by_cases hk : kind = other <;> simp [hk]
  have hdeparts : ∀ other, departures (led ++ [.accepted kind h]) other = departures led other := by
    intro other
    rw [departures_concat]
    exact List.append_nil _
  have hclosed := closed_concat led (x := .accepted kind h) (by rintro ⟨⟩)
  refine ⟨?_, ?_, ?_, ?_, ?_⟩
  · intro other
    rw [haccepts, hdeparts, List.length_append]
    exact Nat.le_add_right_of_le (ht.covered other)
  · intro hnot other
    rw [hacks, AckTracker.queued_enqueue, ht.queued (mt hclosed.mpr hnot), haccepts, hdeparts,
      List.drop_append_of_le_length (ht.covered other)]
  · exact fun hthere => .inr (hdriver ▸ hopen (hclosed.mp hthere))
  · intro x hx
    rw [hacks] at hx
    exact (ht.inflight x hx).concat rfl
  · intro other g hg
    rw [hacks, AckTracker.queued_enqueue, List.mem_append] at hg
    rcases hg with hg | hg
    · exact List.mem_append_left _ (ht.known other g hg)
    · by_cases hk : kind = other
      · rw [if_pos hk, List.mem_singleton] at hg
        rw [hg, hk]
        exact List.mem_append_right _ List.mem_cons_self
      · rw [if_neg hk] at hg
        cases hg

/-- What a stroke makes of a ledger. -/
lemma note_eq (c : Connection η) (s : Stroke η) (effects : List (Effect η)) (led : Ledger η) :
    observer.note c s effects led = led ++ (c.entry? s).toList := rfl

lemma forall_told {P : Told η → Prop} {more : List (Told η)} (hall : ∀ t ∈ more, P t) :
    ∀ told, .told told ∈ more.map Effect.told → P told := by
  intro told hmem
  obtain ⟨other, hmem, he⟩ := List.mem_map.mp hmem
  cases he
  exact hall told hmem

/-- **A turn of the driver** keeps the tracker with the ledger, and whatever a handler is told is
what the ledger says. -/
lemma turn {t : DriverTurn} {effects : List (Effect η)} (ht : Tracks c led)
    (hturns : c.Turns t c' effects) (hfair : Fair (led ++ (c.entry? (.turn t)).toList)) :
    Tracks c' (led ++ (c.entry? (.turn t)).toList) ∧
      ∀ told, .told told ∈ effects → Justifies (led ++ (c.entry? (.turn t)).toList) told := by
  -- an event that is about no request
  have hpass : ∀ {e : ClientEvent}, c.driver = .holding e → e.departure? = none →
      e.ack? = none → c'.acks = c.acks → Tracks c' (led ++ [.event e]) := by
    intro e here hdeparture hack hacks
    refine ht.event hdeparture (fun _ => by rw [hacks]) (fun x hx => ⟨hacks ▸ hx, ?_⟩) ?_
    · rw [Entry.acks, hack]
      rfl
    · rw [here]
      rintro ⟨⟩
  cases hturns with
  | take e here | stop here cancelled =>
      refine ⟨?_, fun told hmem => nomatch hmem⟩
      rw [Connection.entry?, Option.toList_none, List.append_nil]
      refine ht.of_eq rfl ?_
      rw [here]
      rintro ⟨⟩
  | accept here =>
      simp only [Connection.entry?, here, Option.toList_some]
      exact ⟨hpass here rfl rfl rfl, fun told hmem => nomatch hmem⟩
  | message here =>
      simp only [Connection.entry?, here, Option.toList_some]
      refine ⟨hpass here rfl rfl rfl, fun told hmem => ?_⟩
      cases List.mem_singleton.mp hmem
  | acknowledge here ack =>
      simp only [Connection.entry?, here, Option.toList_some]
      exact (ht.acknowledge here ack).imp_right forall_told
  | depart here =>
      simp only [Connection.entry?, here, Option.toList_some] at hfair ⊢
      exact (ht.depart here hfair.inOrder).imp_right forall_told
  | @finish e why here ends =>
      simp only [Connection.entry?, here, Option.toList_some]
      refine ⟨hpass here ?_ ?_ rfl, fun told hmem => nomatch hmem⟩
      all_goals
        cases e with
        | arrived p => cases ends
        | left d => cases d <;> first | rfl | cases ends
        | failed f => rfl
  | pass here noNotice noAck noDeparture noEnd =>
      simp only [Connection.entry?, here, Option.toList_some]
      exact ⟨hpass here noDeparture noAck rfl, fun told hmem => nomatch hmem⟩
  | announce here | abandon here | mark here | lower here | judge here | close here =>
      refine ⟨?_, fun told hmem => ?_⟩
      · simp only [Connection.entry?, here, Option.toList_none, List.append_nil]
        refine ht.of_eq rfl ?_
        rw [here]
        first | exact fun _ => rfl | rintro ⟨⟩
      · simp at hmem
  | drain here =>
      simp only [Connection.entry?, here, Option.toList_some]
      exact (ht.drain rfl).imp_right forall_told

/-- **Every stroke** keeps the tracker with the ledger, and whatever a handler is told is what the
ledger says; but once handlers have been given up, a request may only come when the driver does not
look at events any more. -/
theorem stroke {s : Stroke η} {effects : List (Effect η)} (ht : Tracks c led)
    (hs : c.stroke s = some (c', effects)) (hfair : Fair (observer.note c s effects led))
    (hopen : ∀ r, s = .touch (.submit r) → .closed ∈ led → c.driver.drained) :
    Tracks c' (observer.note c s effects led) ∧
      ∀ told, .told told ∈ effects → Justifies (observer.note c s effects led) told := by
  rw [note_eq] at hfair ⊢
  cases s with
  | turn t => exact ht.turn (Connection.turns_of_drive hs) hfair
  | touch u =>
      cases hs
      cases u with
      | want b | cancel | room b =>
          refine ⟨?_, by rintro told ⟨⟩⟩
          rw [Connection.entry?, Option.toList_none, List.append_nil]
          exact ht.of_eq rfl id
      | leave =>
          refine ⟨?_, by rintro told ⟨⟩⟩
          rw [Connection.entry?, Option.toList_none, List.append_nil, Connection.touch]
          split <;> exact ht.of_eq rfl id
      | drain =>
          have hempty : (c.touch .drain).1.acks = {} := rfl
          exact (ht.drain hempty).imp_right forall_told
      | submit r =>
          refine ⟨?_, by rintro told ⟨⟩⟩
          rw [Connection.entry?, Connection.touch, submit]
          have htakes : ({ c with acks := c.acks.enqueue r.kind r.handler } : Connection η).takes
            = c.takes := rfl
          simp only [htakes]
          cases c.takes with
          | true => exact ht.accept (hopen r rfl) rfl rfl
          | false =>
              rw [if_neg Bool.false_ne_true, if_neg Bool.false_ne_true, Option.toList_none,
                List.append_nil]
              exact ht.of_eq (by rw [AckTracker.withdrawLast_enqueue]) id

end Tracks

end DeviceLink.Transport
