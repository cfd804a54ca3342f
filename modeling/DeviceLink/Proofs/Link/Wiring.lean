import DeviceLink.Proofs.Link.Closing
import DeviceLink.Proofs.Transport.Faces

/-!
# A link over transports

The sessions of a link run over transports whose drivers, and the clients under them, do what they
do by themselves, at any time: any event of a client may come whenever its driver waits for one.

* `Stirring`, `Transports.world` — what may happen in the world of transports by itself.
* `Link.Wired` — the call that is under way in the world is the one that the stage waits for.
* **`Wired.does`** — a call of a session goes on as it has to, whatever happens.
* `wired_follow_induction`, `wired_attend_induction` — what everything that happens preserves holds
  after a run.
-/

namespace DeviceLink

open Transport Dispatch

/-- One thing that happens in the world of transports by itself. -/
inductive Stirring where
  /-- The driver of a connection has its turn. -/
  | drive (maker : Maker) (turn : DriverTurn)
  /-- The client of a connection has room for requests now, or has none. -/
  | room (maker : Maker) (room : Bool)

namespace Transports

/-- What happens in the world of transports, with the reports made of it. -/
def stir (w : Transports) : Stirring → Option (List Report × Transports)
  | .drive maker turn => w.drive maker.session maker.number turn
  | .room maker room =>
    (w.sessions[maker.session]?).map fun t =>
      ([], w.set maker.session (t.modify maker.number ({ · with room })))

def world : World Transports Stirring := ⟨model, stir⟩

/-- Sessions whose connections are not secured. -/
def unsecured : Transports := { config := { tls := false }, files := fun _ => .absent }

lemma stir_room {w w' : Transports} {maker : Maker} {room : Bool} {reports : List Report}
    (h : w.stir (.room maker room) = some (reports, w')) :
    reports = [] ∧ SameFaces w w' ∧ w'.underway = w.underway ∧
      w'.sessions.length = w.sessions.length := by
  obtain ⟨t, ht, hr⟩ := Option.map_eq_some_iff.mp h
  cases hr
  exact ⟨rfl, sameFaces_set ht (Transport.sameFaces_modify fun _ _ => rfl), rfl, by
    rw [set, List.length_set]⟩

/-- A call stays due as long as sessions stay and nothing else is called. -/
lemma Due.of_eq {w w' : Transports} {s : SessionId} {c : SessionCall} (h : w.Due s c)
    (hu : w'.underway = w.underway) (hl : w'.sessions.length = w.sessions.length) : w'.Due s c := by
  intro p hp
  obtain ⟨hstarts, hs⟩ := h p (hu ▸ hp)
  refine ⟨hstarts, ?_⟩
  rw [isSome_getElem?] at hs ⊢
  rwa [hl]

lemma underway_release (w : Transports) (s : SessionId) :
    (model.release w s).2.underway = w.underway := by
  change (w.release s).2.underway = w.underway
  rw [release]
  cases w.sessions[s]? <;> rfl

end Transports

namespace Link

variable {κ : Type} {l l' : Link κ Transports}

/-- **The call that is under way** in the world is the one that the stage waits for. -/
def Wired (l : Link κ Transports) : Prop :=
  match l.activity.asked? with
  | some (.call s c) => l.world.Due s c
  | some (.chain _) | some (.create _) | some (.release _) | none => l.world.underway = none

lemma wired_of_underway (h : l.world.underway = none) : l.Wired := by
  rw [Wired]
  split
  · intro p hp
    rw [h] at hp
    cases hp
  all_goals exact h

lemma Wired.due (h : l.Wired) {s : SessionId} {c : SessionCall} {frame : Frame κ}
    (hlevels : l.activity.levels = [(.call s c, frame)]) : l.world.Due s c := by
  rwa [Wired, Activity.asked?_of_levels hlevels] at h

/-- Only the stage and the world matter. -/
lemma Wired.of_eq (h : l.Wired) (ha : l'.activity = l.activity) (hw : l'.world = l.world) :
    l'.Wired := by
  rw [Wired] at h ⊢
  rwa [ha, hw]

lemma Wired.idle_of_nil (h : l.Wired) (hlevels : l.activity.levels = []) :
    l.world.underway = none := by
  rwa [Wired, Activity.asked?_of_nil hlevels] at h

/-- While the stage waits for something other than a call, none is under way. -/
lemma Wired.idle (h : l.Wired) {ask : Ask κ} {frame : Frame κ}
    (hlevels : l.activity.levels = [(ask, frame)]) (hask : ∀ s c, ask ≠ .call s c) :
    l.world.underway = none := by
  rw [Wired, Activity.asked?_of_levels hlevels] at h
  cases ask with
  | call s c => exact (hask s c rfl).elim
  | chain _ | create _ | release _ => exact h

theorem Wired.tasks (h : l.Wired) (ht : Tasks Transports.model l l') : l'.Wired := by
  cases ht with
  | chain hlevels hstep log sink =>
      exact wired_of_underway (h.idle hlevels (by rintro s c ⟨⟩))
  | create hlevels hstep log sink =>
      exact wired_of_underway (h.idle hlevels (by rintro s c ⟨⟩))
  | call hlevels hcall =>
      obtain ⟨-, hstepped⟩ := Transports.stepped (h.due hlevels) hcall
      cases hstepped with
      | more hfaces hdue =>
          rw [Wired, Activity.asked?_of_levels hlevels]
          exact hdue
  | answer hlevels hcall hstep log sink =>
      obtain ⟨-, hstepped⟩ := Transports.stepped (h.due hlevels) hcall
      cases hstepped with
      | finished hfaces hnone => exact wired_of_underway hnone
      | started hstarts hstart hnone => exact wired_of_underway hnone
  | @release session _ _ _ hlevels hstep log sink =>
      refine wired_of_underway ?_
      exact (l.world.underway_release session).trans (h.idle hlevels (by rintro s c ⟨⟩))
  | job hlevels hphase hqueue hstep log sink => exact wired_of_underway (h.idle_of_nil hlevels)
  | leave hlevels hleaves log => exact wired_of_underway (h.idle_of_nil hlevels)

/-- **What happens in the world by itself** leaves the call that is under way alone. -/
theorem Wired.stir (h : l.Wired) {e : Stirring} {reports : List Report} {w : Transports}
    (hs : l.world.stir e = some (reports, w)) (hl : l'.activity = l.activity)
    (hw : l'.world = w) : l'.Wired := by
  have hsame : w.underway = l.world.underway ∧ w.sessions.length = l.world.sessions.length := by
    cases e with
    | drive maker turn =>
        obtain ⟨c, c', effects, -, -, -, -, -, -, hu, hlen⟩ := Transports.drive_face hs
        exact ⟨hu, hlen⟩
    | room maker room =>
        obtain ⟨-, -, hu, hlen⟩ := Transports.stir_room hs
        exact ⟨hu, hlen⟩
  rw [Wired] at h ⊢
  rw [hl, hw]
  split at h
  · exact h.of_eq hsame.1 hsame.2
  all_goals exact hsame.1.trans h

/-- **Everything that happens** leaves the world with the call that the stage waits for. -/
theorem Wired.does (h : l.Wired) (hsound : l.Sound) {i : Incident κ Stirring}
    (hs : l.does Transports.world i = some l') : l'.Wired := by
  cases i with
  | happening happening =>
      cases happening with
      | submit caller request callback =>
          cases hs
          obtain ⟨log, heq⟩ := l.exists_submit_eq_offer caller request callback
          rw [heq]
          exact h
      | stir e =>
          obtain ⟨⟨reports, w⟩, hw, rfl⟩ := Option.map_eq_some_iff.mp hs
          rw [happen_eq_offer]
          exact h.stir hw rfl rfl
      | work => exact h.tasks (hsound.tasks hs)
      | beginUser =>
          obtain ⟨ha, -, hw, -⟩ := beginUser_core hs
          exact h.of_eq ha hw
      | endUser panic =>
          obtain ⟨log, sink, rfl⟩ := exists_eq_of_endUser hs
          exact h
      | handle kept =>
          cases hs
          exact h
  | shutdown worker s =>
      obtain ⟨⟨next, s'⟩, hstep, rfl⟩ := Option.map_eq_some_iff.mp hs
      obtain ⟨inbox, outbox, log, rfl, -⟩ := exists_shutdownStep_eq hstep
      exact h

/-- A link that was just built has called no session. -/
lemma wired_build {l : Link κ Transports} {c : PipelineConfig} {listens : Bool}
    {config : TransportConfig} {files : Config.Files}
    (h : Link.build c listens (some { config, files }) = .ok l) : l.Wired := by
  cases h
  exact wired_of_underway rfl

/-- Whatever holds when a link over transports was just built, and is kept by everything that
happens to one that nobody shuts down, holds of every run. -/
theorem wired_follow_induction {γ : Type}
    {note : Happening κ Stirring → Link κ Transports → Link κ Transports → γ → γ}
    (P : Link κ Transports → γ → Prop)
    (hstep : ∀ h l g next, l.Steady → l.Wired → P l g →
      l.happens Transports.world h = some next → P next (note h l next g))
    {c : PipelineConfig} {listens : Bool} {config : TransportConfig} {files : Config.Files}
    (hbuild : Link.build c listens (some { config, files }) = .ok l) {g : γ} (hstart : P l g)
    (happenings : List (Happening κ Stirring)) :
    (follow Transports.world note (l, g) happenings).1.Steady ∧
      P (follow Transports.world note (l, g) happenings).1
        (follow Transports.world note (l, g) happenings).2 := by
  refine (runWith_induction_of_kept (S := fun l => l.Steady ∧ l.Wired) ?_ P ?_
    ⟨steady_build hbuild, wired_build hbuild⟩ hstart happenings).imp_left And.left
  · exact fun h l next hl hn => ⟨hl.1.happens hn, hl.2.does hl.1.sound (i := .happening h) hn⟩
  · exact fun h l g next hl hg hn => hstep h l g next hl.1 hl.2 hg hn

/-- The same for a link that may be shut down. -/
theorem wired_attend_induction {γ : Type}
    {note : Incident κ Stirring → Link κ Transports → Link κ Transports → γ → γ}
    (P : Link κ Transports → γ → Prop)
    (hstep : ∀ i l g next, l.Sound → l.Wired → P l g →
      l.does Transports.world i = some next → P next (note i l next g))
    {c : PipelineConfig} {listens : Bool} {config : TransportConfig} {files : Config.Files}
    (hbuild : Link.build c listens (some { config, files }) = .ok l) {g : γ} (hstart : P l g)
    (incidents : List (Incident κ Stirring)) :
    (attend Transports.world note (l, g) incidents).1.Sound ∧
      P (attend Transports.world note (l, g) incidents).1
        (attend Transports.world note (l, g) incidents).2 := by
  refine (runWith_induction_of_kept (S := fun l => l.Sound ∧ l.Wired) ?_ P ?_
    ⟨(steady_build hbuild).sound, wired_build hbuild⟩ hstart incidents).imp_left And.left
  · exact fun _ _ _ hl hn => ⟨hl.1.does hn, hl.2.does hl.1 hn⟩
  · exact fun i l g next hl hg hn => hstep i l g next hl.1 hl.2 hg hn

end Link

end DeviceLink
