import DeviceLink.Proofs.Stage.Announcement
import DeviceLink.Transport.Sessions

/-!
# What a driver says of its connection

A driver says that its connection is up once it has marked it so, and marks it as down before it
says that it is down.  One that is told to stop may end without a word, so what it has said last
tells whether the connection is up only as long as the driver runs.

* `Report.word?` along a list — the last word that there is.
* `Driver.Honest` — how the flag goes with the driver's last word, wherever the driver is.
* **`Connection.honest_drive`** — every turn of a driver keeps that.
-/

namespace DeviceLink

open Transport

/-- What some reports say of a connection, in order. -/
def wordsOf (reports : List Report) : List ConnectionState := reports.filterMap Report.word?

/-- Acknowledgements say nothing of the connection. -/
lemma wordsOf_acknowledgements (told : List (Told Nat)) :
    wordsOf (told.map acknowledgement) = [] := by
  rw [wordsOf, List.filterMap_map, List.filterMap_eq_nil_iff]
  exact fun _ _ => rfl

namespace Transport

/-- **How the flag of a connection goes with the last word of its driver.**  From the moment that
the connection is marked as down nothing is said of the word, since a cancelled driver keeps
silent. -/
def Driver.Honest (driver : Driver) (up : Bool) (last : Option ConnectionState) : Prop :=
  match driver with
  | waiting | holding _ | cancelling | ending _ | lowering _ => up ↔ last = some .connected
  | announcing => up
  | draining _ _ | judging _ | closing _ | returned => up = false

/-- A driver that waits or has ended: its connection is up if it waits and has said so last. -/
lemma Driver.Honest.up_iff {driver : Driver} {up : Bool} {last : Option ConnectionState}
    (h : driver.Honest up last) (hrest : driver = .waiting ∨ driver = .returned) :
    up ↔ driver = .waiting ∧ last = some .connected := by
  rcases hrest with rfl | rfl
  · have hiff : up ↔ last = some .connected := h
    rw [hiff]
    exact (and_iff_right rfl).symm
  · have hdown : up = false := h
    subst hdown
    constructor
    · rintro ⟨⟩
    · rintro ⟨⟨⟩, -⟩

namespace Connection

variable {c c' : Connection Nat} {last : Option ConnectionState}

abbrev words (effects : List (Effect Nat)) : List ConnectionState :=
  wordsOf (effects.map Effect.report)

lemma words_withAcks (r : AckTracker Nat × List (Told Nat)) (driver : Driver) :
    words (c.withAcks r driver).2 = [] := by
  rw [words, withAcks, List.map_map]
  exact wordsOf_acknowledgements r.2

lemma honest_arrive {p : Packet} (h : c.up ↔ last = some .connected) :
    (c.arrive p).1.driver.Honest (c.arrive p).1.up ((words (c.arrive p).2).getLast?.or last) := by
  cases p with
  | connAck code =>
      cases code with
      | success => exact rfl
      | refusedProtocolVersion | badClientId | serviceUnavailable | badUserNamePassword
      | notAuthorized => exact h
  | pubAck pkid | pubComp pkid | subAck pkid levels | unsubAck pkid =>
      rw [arrive, words_withAcks]
      exact h
  | publish topic payload | disconnect | other => exact h

lemma honest_look {e : ClientEvent} (h : c.up ↔ last = some .connected) :
    (c.look e).1.driver.Honest (c.look e).1.up ((words (c.look e).2).getLast?.or last) := by
  cases e with
  | arrived p => exact honest_arrive h
  | left d =>
      cases d with
      | request kind pkid =>
          rw [look, words_withAcks]
          exact h
      | disconnect | other => exact h
  | failed f => exact h

/-- **A turn of a driver** keeps the flag with the last word. -/
theorem honest_drive {turn : DriverTurn} {effects : List (Effect Nat)}
    (h : c.drive turn = some (c', effects)) (hc : c.driver.Honest c.up last) :
    c'.driver.Honest c'.up ((words effects).getLast?.or last) := by
  cases turn with
  | wake w =>
      obtain ⟨woken, hw, hr⟩ := Option.map_eq_some_iff.mp h
      cases hr
      cases hd : c.driver with
      | waiting =>
          rw [hd] at hc
          cases w with
          | event e =>
              simp only [wake, hd] at hw
              cases hw
              exact hc
          | cancellation =>
              simp only [wake, hd] at hw
              split at hw <;> cases hw
              exact hc
      | holding _ | announcing | cancelling | ending _ | lowering _ | draining _ _ | judging _
      | closing _ | returned =>
          simp only [wake, hd] at hw
          cases hw
  | advance =>
      simp only [drive, advance] at h
      cases hd : c.driver with
      | waiting | returned =>
          rw [hd] at h
          cases h
      | holding e =>
          rw [hd] at h hc
          have hr : c.look e = (c', effects) := Option.some.inj h
          have hlook := honest_look (e := e) hc
          rwa [hr] at hlook
      | announcing =>
          rw [hd] at h hc
          cases h
          exact ⟨fun _ => rfl, fun _ => hc⟩
      | cancelling | ending why =>
          rw [hd] at h hc
          cases h
          exact hc
      | lowering why =>
          rw [hd] at h
          cases h
          exact rfl
      | draining why wasUp =>
          rw [hd] at h hc
          cases h
          cases why with
          | abandoned wanted => cases wanted <;> exact hc
          | left => exact hc
          | failed f => cases wasUp <;> exact hc
      | judging f | closing message =>
          rw [hd] at h hc
          cases h
          exact hc

end Connection

end Transport

end DeviceLink
