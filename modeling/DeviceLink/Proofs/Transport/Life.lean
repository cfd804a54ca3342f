import DeviceLink.Proofs.Run
import DeviceLink.Transport.Basic
import Mathlib.Tactic.Common

/-!
# The life of a connection

Two parties work on a connection.  Its driver has its turns, and the transport that has started it
changes flags, hands requests over and gives it up; the client under it has room for requests or
has none.  Neither party waits for the other, so what can happen to a connection is every list of
strokes of both.

* `ClientEvent.notice?`, `ack?`, `departure?`, `ending?` — what an event is good for.
* `Connection.Turns` — everything that a turn of the driver can do.
* `Touch`, `Connection.touch` — what the transport, or the client, does to a connection at once.
* `Stroke`, `Connection.stroke` — a touch, or a turn of the driver.
* `Observer` — somebody who keeps a record of one connection.
* `Observer.watch` — a list of strokes, with the record that is kept of it.
* **`Observer.Keeps.watch`** — what every stroke keeps holds of every life.
* `Observer.Step`, **`Observer.Holds.step`** — the same for a connection among others, which is
  started some day.
* `strike`, **`Observer.step_strike`** — a stroke of one connection in a row, with the records of
  all.
-/

namespace DeviceLink.Transport

variable {η γ : Type}

/-! ## The driver -/

namespace ClientEvent

/-- The broker accepts the connection. -/
def acceptance : ClientEvent := .arrived (.connAck .success)

/-- What the driver tells the owner of the transport of an event, unless the event ends the
connection. -/
def notice? : ClientEvent → Option Notice
  | .arrived (.connAck .success) => some .connected
  | .arrived (.publish topic payload) => some (.message topic payload)
  | _ => none

/-- The packet that an event acknowledges, by its kind and its id, and what the broker says. -/
def ack? : ClientEvent → Option (AckKind × Nat × Except Fault Unit)
  | .arrived (.pubAck pkid) | .arrived (.pubComp pkid) => some (.publish, pkid, .ok ())
  | .arrived (.subAck pkid levels) => some (.subscribe, pkid, Connection.granted pkid levels)
  | .arrived (.unsubAck pkid) => some (.unsubscribe, pkid, .ok ())
  | _ => none

/-- The request that leaves, by its kind and its packet id. -/
def departure? : ClientEvent → Option (AckKind × Nat)
  | .left (.request kind pkid) => some (kind, pkid)
  | _ => none

/-- The connection ends with the event. -/
def ending? : ClientEvent → Option Ending
  | .left .disconnect => some .left
  | .failed f => some (.failed f)
  | _ => none

variable {e : ClientEvent}

lemma notice?_of_ack? {ack : AckKind × Nat × Except Fault Unit} (h : e.ack? = some ack) :
    e.notice? = none := by
  cases e with
  | arrived p => cases p <;> first | rfl | cases h
  | left d | failed f => rfl

lemma notice?_of_ending? {why : Ending} (h : e.ending? = some why) : e.notice? = none := by
  cases e with
  | arrived p => cases h
  | left d | failed f => rfl

lemma eq_acceptance_of_notice? (h : e.notice? = some .connected) : e = .acceptance := by
  cases e with
  | arrived p =>
      cases p with
      | connAck code =>
          cases code with
          | success => rfl
          | refusedProtocolVersion | badClientId | serviceUnavailable | badUserNamePassword
          | notAuthorized => cases h
      | publish _ _ | pubAck _ | pubComp _ | subAck _ _ | unsubAck _ | disconnect | other => cases h
  | left _ | failed _ => cases h

end ClientEvent

/-- **Everything that a turn of the driver can do**, with what others learn from it. -/
inductive Connection.Turns (c : Connection η) :
    DriverTurn → Connection η → List (Effect η) → Prop where
  | take (e : ClientEvent) (here : c.driver = .waiting) :
      Turns c (.wake (.event e)) { c with driver := .holding e } []
  | stop (here : c.driver = .waiting) (cancelled : c.cancelled) :
      Turns c (.wake .cancellation) { c with driver := .cancelling } []
  | accept (here : c.driver = .holding .acceptance) :
      Turns c .advance { c with up := true, driver := .announcing } []
  | message {topic : String} {payload : List UInt8}
      (here : c.driver = .holding (.arrived (.publish topic payload))) :
      Turns c .advance { c with driver := .waiting } [.notice (.message topic payload)]
  | acknowledge {e : ClientEvent} {kind : AckKind} {pkid : Nat} {outcome : Except Fault Unit}
      (here : c.driver = .holding e) (ack : e.ack? = some (kind, pkid, outcome)) :
      Turns c .advance (c.withAcks (c.acks.acknowledged kind pkid outcome) .waiting).1
        (c.withAcks (c.acks.acknowledged kind pkid outcome) .waiting).2
  | depart {kind : AckKind} {pkid : Nat} (here : c.driver = .holding (.left (.request kind pkid))) :
      Turns c .advance (c.withAcks (c.acks.sent kind pkid) .waiting).1
        (c.withAcks (c.acks.sent kind pkid) .waiting).2
  | finish {e : ClientEvent} {why : Ending} (here : c.driver = .holding e)
      (ends : e.ending? = some why) :
      Turns c .advance { c with driver := .ending why } []
  /-- The event is good for nothing. -/
  | pass {e : ClientEvent} (here : c.driver = .holding e) (noNotice : e.notice? = none)
      (noAck : e.ack? = none) (noDeparture : e.departure? = none) (noEnd : e.ending? = none) :
      Turns c .advance { c with driver := .waiting } []
  | announce (here : c.driver = .announcing) :
      Turns c .advance { c with driver := .waiting } [.notice .connected]
  | abandon (here : c.driver = .cancelling) :
      Turns c .advance { c with wanted := false, driver := .ending (.abandoned c.wanted) } []
  | mark {why : Ending} (here : c.driver = .ending why) :
      Turns c .advance { c with ended := true, driver := .lowering why } []
  | lower {why : Ending} (here : c.driver = .lowering why) :
      Turns c .advance { c with up := false, driver := .draining why c.up } []
  | drain {why : Ending} {wasUp : Bool} (here : c.driver = .draining why wasUp) :
      Turns c .advance (c.withAcks c.acks.failAll (afterDraining wasUp why)).1
        (c.withAcks c.acks.failAll (afterDraining wasUp why)).2
  | judge {f : ConnectionFault} (here : c.driver = .judging f) :
      Turns c .advance { c with driver := .closing (some (lastNotice c.wanted f)) } []
  | close {last : Option Notice} (here : c.driver = .closing last) :
      Turns c .advance { c with driver := .returned } (last.toList.map Effect.notice)

namespace Connection

variable {c c' : Connection η} {effects : List (Effect η)}

lemma turns_look {e : ClientEvent} (here : c.driver = .holding e) :
    c.Turns .advance (c.look e).1 (c.look e).2 := by
  cases e with
  | arrived p =>
      cases p with
      | connAck code =>
          cases code with
          | success => exact .accept here
          | refusedProtocolVersion | badClientId | serviceUnavailable | badUserNamePassword
          | notAuthorized => exact .pass here rfl rfl rfl rfl
      | publish topic payload => exact .message here
      | pubAck pkid | pubComp pkid | subAck pkid levels | unsubAck pkid =>
          exact .acknowledge here rfl
      | disconnect | other => exact .pass here rfl rfl rfl rfl
  | left d =>
      cases d with
      | request kind pkid => exact .depart here
      | disconnect => exact .finish here rfl
      | other => exact .pass here rfl rfl rfl rfl
  | failed f => exact .finish here rfl

/-- A turn that the driver has does one of these things. -/
theorem turns_of_drive {t : DriverTurn} (h : c.drive t = some (c', effects)) :
    c.Turns t c' effects := by
  cases t with
  | wake w =>
      obtain ⟨woken, hw, hr⟩ := Option.map_eq_some_iff.mp h
      cases hr
      cases hd : c.driver with
      | waiting =>
          cases w with
          | event e =>
              simp only [wake, hd] at hw
              cases hw
              exact .take e hd
          | cancellation =>
              simp only [wake, hd] at hw
              split at hw
              · next hcancelled =>
                  cases hw
                  exact .stop hd hcancelled
              · cases hw
      | holding _ | announcing | cancelling | ending _ | lowering _ | draining _ _ | judging _
      | closing _ | returned =>
          simp only [wake, hd] at hw
          cases hw
  | advance =>
      simp only [drive, advance] at h
      cases hd : c.driver with
      | waiting | returned =>
          rw [hd] at h
          cases h
      | holding e =>
          rw [hd] at h
          have hr : c.look e = (c', effects) := Option.some.inj h
          have hturns := turns_look hd
          rwa [hr] at hturns
      | announcing =>
          rw [hd] at h
          cases h
          exact .announce hd
      | cancelling =>
          rw [hd] at h
          cases h
          exact .abandon hd
      | ending why =>
          rw [hd] at h
          cases h
          exact .mark hd
      | lowering why =>
          rw [hd] at h
          cases h
          exact .lower hd
      | draining why wasUp =>
          rw [hd] at h
          cases h
          exact .drain hd
      | judging f =>
          rw [hd] at h
          cases h
          exact .judge hd
      | closing last =>
          rw [hd] at h
          cases h
          exact .close hd

end Connection

/-! ## Strokes -/

/-- What the transport, or the client, does to a connection at once. -/
inductive Touch (η : Type) where
  /-- The end of the connection is wanted, or not any more. -/
  | want (b : Bool)
  /-- The driver is told to stop. -/
  | cancel
  /-- Every handler is told that the connection is closed. -/
  | drain
  /-- The client is handed a disconnect, which it takes or not. -/
  | leave
  /-- The client is handed a request, which it takes or not. -/
  | submit (r : Tracked η)
  /-- The client has room for requests now, or has none. -/
  | room (b : Bool)

/-- One thing that happens to a connection. -/
inductive Stroke (η : Type) where
  | turn (t : DriverTurn)
  | touch (u : Touch η)

namespace Connection

def touch (c : Connection η) : Touch η → Connection η × List (Told η)
  | .want b => ({ c with wanted := b }, [])
  | .cancel => ({ c with cancelled := true }, [])
  | .drain => ({ c with acks := c.acks.failAll.1 }, c.acks.failAll.2)
  | .leave => (if c.takes then c.take .disconnect else c, [])
  | .submit r => ((Transport.submit c r).1, [])
  | .room b => ({ c with room := b }, [])

/-- **One stroke**, if it is the driver's turn, with what others learn from it. -/
def stroke (c : Connection η) : Stroke η → Option (Connection η × List (Effect η))
  | .turn t => c.drive t
  | .touch u => some ((c.touch u).1, (c.touch u).2.map Effect.told)

/-- A touch leaves the driver where it is, and the flags that only the driver changes. -/
lemma touch_eq (c : Connection η) (u : Touch η) :
    (c.touch u).1.driver = c.driver ∧ (c.touch u).1.up = c.up ∧
      (c.touch u).1.ended = c.ended := by
  cases u with
  | want b | cancel | drain | room b => exact ⟨rfl, rfl, rfl⟩
  | leave =>
      rw [touch]
      split <;> exact ⟨rfl, rfl, rfl⟩
  | submit r =>
      rw [touch, Transport.submit]
      split <;> exact ⟨rfl, rfl, rfl⟩

end Connection

/-! ## Observers -/

/-- Somebody who keeps a record of one connection. -/
structure Observer (η γ : Type) where
  start : γ
  /-- What is added to the record of a stroke, when it is over. -/
  note : Connection η → Stroke η → List (Effect η) → γ → γ

namespace Observer

/-- **A life**, from any moment on, with the record that is kept of it.  A turn that is not the
driver's is passed over. -/
def watch (o : Observer η γ) : Connection η × γ → List (Stroke η) → Connection η × γ :=
  runWith Connection.stroke Prod.fst fun s c r g => o.note c s r.2 g

variable {o : Observer η γ} {c c' : Connection η} {g g' : γ}

/-- What every stroke keeps. -/
def Keeps (o : Observer η γ) (P : Connection η → γ → Prop) : Prop :=
  ∀ c g s c' effects, P c g → c.stroke s = some (c', effects) → P c' (o.note c s effects g)

/-- **What every stroke keeps holds of every life** that begins with it. -/
theorem Keeps.watch {P : Connection η → γ → Prop} (h : o.Keeps P) (hstart : P c g)
    (strokes : List (Stroke η)) : P (o.watch (c, g) strokes).1 (o.watch (c, g) strokes).2 := by
  refine runWith_induction P ?_ hstart
  exact fun s _ c g r hp hs => h c g s r.1 r.2 hp hs

/-! ## Among others -/

/-- The records of many connections after a stroke of one of them, if that one is there and can have
it. -/
def log {ι : Type} [DecidableEq ι] (o : Observer η γ) (connection : Option (Connection η)) (i : ι)
    (s : Stroke η) (g : ι → γ) : ι → γ :=
  match connection.bind fun c => (c.stroke s).map fun r => (c, r.2) with
  | none => g
  | some (c, effects) => Function.update g i (o.note c s effects (g i))

lemma log_of_ne {ι : Type} [DecidableEq ι] (o : Observer η γ) (connection : Option (Connection η))
    {i k : ι} (s : Stroke η) (g : ι → γ) (h : k ≠ i) : o.log connection i s g k = g k := by
  rw [log]
  cases connection.bind fun c => (c.stroke s).map fun r => (c, r.2) with
  | none => rfl
  | some r => exact Function.update_of_ne h _ g

/-- What becomes of a connection among others, and of its record, when something happens somewhere:
nothing, or a stroke that may happen to it then, or it is started. -/
inductive Step (o : Observer η γ) (may : Stroke η → Prop) :
    Option (Connection η) → γ → Option (Connection η) → γ → Prop where
  | still (c : Option (Connection η)) (g : γ) : Step o may c g c g
  | stroke {c c' : Connection η} {s : Stroke η} {effects : List (Effect η)} (g : γ)
      (allowed : may s) (happens : c.stroke s = some (c', effects)) :
      Step o may (some c) g (some c') (o.note c s effects g)
  | start (g : γ) : Step o may none g (some {}) g

lemma Step.mono {may might : Stroke η → Prop} {a b : Option (Connection η)}
    (h : o.Step may a g b g') (hmay : ∀ s, may s → might s) : o.Step might a g b g' := by
  cases h with
  | still => exact .still _ _
  | stroke g allowed happens => exact .stroke g (hmay _ allowed) happens
  | start => exact .start _

/-- A connection that was started is as it should be; there is no record of any other. -/
def Holds (o : Observer η γ) (P : Connection η → γ → Prop) : Option (Connection η) → γ → Prop
  | none, g => g = o.start
  | some c, g => P c g

/-- **What every stroke keeps**, and a new connection has, is kept by everything that happens. -/
theorem Holds.step {P : Connection η → γ → Prop} {may : Stroke η → Prop}
    {a b : Option (Connection η)} (hkeeps : o.Keeps P) (hstart : P {} o.start) (h : o.Holds P a g)
    (hs : o.Step may a g b g') : o.Holds P b g' := by
  cases hs with
  | still => exact h
  | stroke g allowed happens => exact hkeeps _ _ _ _ _ h happens
  | start =>
      have hg : g = o.start := h
      subst hg
      exact hstart

end Observer

/-! ## Connections in a row -/

/-- The connections after a stroke of one of them, if that one is there and can have it. -/
def strike (connections : List (Connection η)) (n : Nat) (s : Stroke η) : List (Connection η) :=
  connections.modify n fun c => ((c.stroke s).map Prod.fst).getD c

/-- **A stroke of one connection** is nothing to all others. -/
lemma Observer.step_strike (o : Observer η γ) (connections : List (Connection η)) (n : Nat)
    (s : Stroke η) (g : Nat → γ) (k : Nat) :
    o.Step (fun other => k = n ∧ other = s) connections[k]? (g k) (strike connections n s)[k]?
      (o.log connections[n]? n s g k) := by
  rw [strike, List.getElem?_modify]
  by_cases hk : k = n
  · subst hk
    rw [Observer.log]
    cases hc : connections[k]? with
    | none => exact .still _ _
    | some c =>
        cases hs : c.stroke s with
        | none => simpa [hs] using .still _ _
        | some r =>
            simp only [Option.bind_some, hs, Option.map_some, if_true, Option.map_eq_map,
              Option.getD_some, Function.update_self, true_and]
            exact .stroke (g k) rfl hs
  · rw [o.log_of_ne _ s g hk]
    simpa [Ne.symm hk] using .still _ _

end DeviceLink.Transport
