import DeviceLink.Proofs.Transport.Accounts
import DeviceLink.Proofs.Transport.Conservation
import DeviceLink.Proofs.Transport.Strays

/-!
# Who is told something

Only those who wait with a tracker are told anything, and nobody waits with one whose request no
client was handed.  So an operation that never comes as far as that is never reported to be
acknowledged.

* **`Connection.told_of_stroke`** — whoever is told something, or waits, has waited before, or the
  client has just been handed its request.
* `Transport.audience`, **`Transport.told_of_step`** — the same of a transport and a call.
* `Transports.Strange` — nobody in the world of transports knows a number.
* **`Strange.step`**, **`Strange.drive`**, **`Strange.release`** — that stays so, unless a session
  is called under that number, and nothing is reported of it.
-/

namespace DeviceLink

namespace Transport

variable {η : Type}

/-! ## Trackers -/

namespace AckTracker

variable {t : AckTracker η} {kind : AckKind} {pkid : Nat} {h : η}

lemma mem_waiting :
    h ∈ t.waiting ↔ (∃ kind, h ∈ t.queued kind) ∨ ∃ key, (key, h) ∈ t.inflight := by
  simp only [waiting, List.mem_append, List.mem_map, Prod.exists, exists_eq_right]
  constructor
  · rintro (((hq | hq) | hq) | hkey)
    · exact .inl ⟨_, hq⟩
    · exact .inl ⟨_, hq⟩
    · exact .inl ⟨_, hq⟩
    · exact .inr (by simpa using hkey)
  · rintro (⟨kind, hq⟩ | ⟨other, pkid, hkey⟩)
    · cases kind <;> simp [hq]
    · exact .inr ⟨other, pkid, hkey⟩

lemma mem_inflight_of_find? {key : AckKind × Nat} (hf : t.find? key = some h) :
    (key, h) ∈ t.inflight := by
  obtain ⟨⟨other, held⟩, hfind, rfl⟩ := Option.map_eq_some_iff.mp hf
  have hkey : other = key := by simpa using List.find?_some hfind
  exact hkey ▸ List.mem_of_find?_eq_some hfind

lemma waiting_enqueue {x : η} (hx : x ∈ (t.enqueue kind h).waiting) : x ∈ t.waiting ∨ x = h := by
  rcases mem_waiting.mp hx with ⟨other, hq⟩ | ⟨key, hkey⟩
  · rw [queued_enqueue] at hq
    rcases List.mem_append.mp hq with hq | hq
    · exact .inl (mem_waiting.mpr (.inl ⟨other, hq⟩))
    · split at hq
      · exact .inr (List.mem_singleton.mp hq)
      · cases hq
  · exact .inl (mem_waiting.mpr (.inr ⟨key, hkey⟩))

/-- Whoever waits after an acknowledgement, or is told of it, has waited before. -/
lemma waiting_acknowledged {outcome : Except Fault Unit}
    (hx : h ∈ (t.acknowledged kind pkid outcome).1.waiting ∨
      h ∈ (t.acknowledged kind pkid outcome).2.map Prod.fst) : h ∈ t.waiting := by
  rcases hx with hx | hx
  · rcases mem_waiting.mp hx with ⟨other, hq⟩ | ⟨key, hkey⟩
    · rw [queued_acknowledged] at hq
      exact mem_waiting.mpr (.inl ⟨other, hq⟩)
    · exact mem_waiting.mpr (.inr ⟨key, (mem_inflight_acknowledged hkey).1⟩)
  · obtain ⟨told, htold, rfl⟩ := List.mem_map.mp hx
    exact mem_waiting.mpr (.inr ⟨_, (of_mem_acknowledged htold).1⟩)

/-- Whoever waits when a packet has left, or is told something then, has waited before. -/
lemma waiting_sent (hx : h ∈ (t.sent kind pkid).1.waiting ∨ h ∈ (t.sent kind pkid).2.map Prod.fst) :
    h ∈ t.waiting := by
  cases hqueue : t.queued kind with
  | nil =>
      rw [sent, hqueue] at hx
      exact hx.elim id fun hx => by cases hx
  | cons first rest =>
      have hqueued : ∀ {x : η}, x ∈ first :: rest → x ∈ t.waiting := fun hx =>
        mem_waiting.mpr (.inl ⟨kind, hqueue ▸ hx⟩)
      have hleft : ∀ other, h ∈ (t.sent kind pkid).1.queued other → h ∈ t.waiting := by
        intro other hq
        rw [queued_sent] at hq
        split at hq
        · exact hqueued (List.mem_cons_of_mem _ (by simpa [hqueue] using hq))
        · exact mem_waiting.mpr (.inl ⟨other, hq⟩)
      rcases hx with hx | hx
      · rcases mem_waiting.mp hx with ⟨other, hq⟩ | ⟨key, hkey⟩
        · exact hleft other hq
        · simp only [sent, hqueue] at hkey
          split at hkey
          · exact mem_waiting.mpr (.inr ⟨key, hkey⟩)
          · rcases List.mem_append.mp hkey with hkey | hkey
            · exact mem_waiting.mpr (.inr ⟨key, List.mem_of_mem_filter hkey⟩)
            · cases List.mem_singleton.mp hkey
              exact hqueued List.mem_cons_self
      · simp only [sent, hqueue] at hx
        split at hx
        · cases List.mem_singleton.mp hx
          exact hqueued List.mem_cons_self
        · cases hf : (t.setQueue kind rest).find? (kind, pkid) with
          | none => simp [hf] at hx
          | some previous =>
              have he : h = previous := by simpa [hf] using hx
              have hheld : ((kind, pkid), previous) ∈ t.inflight := mem_inflight_of_find? hf
              exact mem_waiting.mpr (.inr ⟨_, he ▸ hheld⟩)

end AckTracker

/-! ## Connections -/

lemma mem_listeners {effects : List (Effect η)} {h : η} :
    h ∈ listeners effects ↔ ∃ outcome, .told (h, outcome) ∈ effects := by
  rw [listeners, List.mem_filterMap]
  constructor
  · rintro ⟨effect, hmem, he⟩
    cases effect with
    | notice n => cases he
    | told t =>
        cases he
        exact ⟨t.2, hmem⟩
  · rintro ⟨outcome, hmem⟩
    exact ⟨_, hmem, rfl⟩

namespace Connection

variable {c c' : Connection η} {effects : List (Effect η)} {h : η}

lemma told_of_turns {turn : DriverTurn} (ht : c.Turns turn c' effects)
    (hx : h ∈ c'.acks.waiting ∨ h ∈ listeners effects) : h ∈ c.acks.waiting := by
  have hsame : h ∈ c.acks.waiting ∨ h ∈ listeners ([] : List (Effect η)) → h ∈ c.acks.waiting :=
    fun hx => hx.elim id fun hx => by cases hx
  cases ht with
  | take e here | stop here cancelled | accept here | finish here ends
  | pass here noNotice noAck noDeparture noEnd | abandon here | mark here | lower here
  | judge here => exact hsame hx
  | message here | announce here => exact hsame (hx.imp_right fun hx => by cases hx)
  | close here =>
      refine hsame (hx.imp_right fun hx => ?_)
      obtain ⟨outcome, hmem⟩ := mem_listeners.mp hx
      obtain ⟨n, -, he⟩ := List.mem_map.mp hmem
      cases he
  | acknowledge here ack =>
      simp only [withAcks, listeners_told] at hx
      exact AckTracker.waiting_acknowledged hx
  | depart here =>
      simp only [withAcks, listeners_told] at hx
      exact AckTracker.waiting_sent hx
  | drain here =>
      simp only [withAcks, listeners_told] at hx
      rcases hx with hx | hx
      · cases hx
      · simpa [AckTracker.failAll] using hx

/-- **Whoever is told something, or waits,** has waited before, or the client has just been handed
its request. -/
theorem told_of_stroke {s : Stroke η} (hs : c.stroke s = some (c', effects))
    (hx : h ∈ c'.acks.waiting ∨ h ∈ listeners effects) :
    h ∈ c.acks.waiting ∨ ∃ r, s = .touch (.submit r) ∧ r.handler = h := by
  cases s with
  | turn turn => exact .inl (told_of_turns (turns_of_drive hs) hx)
  | touch u =>
      cases hs
      rw [listeners_told] at hx
      cases u with
      | want b | cancel | room b => exact .inl (hx.elim id fun hx => by cases hx)
      | leave =>
          refine .inl (hx.elim (fun hx => ?_) fun hx => by cases hx)
          rw [touch] at hx
          split at hx <;> exact hx
      | drain =>
          refine .inl (hx.elim (fun hx => by cases hx) fun hx => ?_)
          simpa [touch, AckTracker.failAll] using hx
      | submit r =>
          refine (hx.elim (fun hx => ?_) fun hx => by cases hx)
          rw [touch] at hx
          cases htakes : c.takes with
          | true =>
              rw [submit_of_takes htakes] at hx
              exact (AckTracker.waiting_enqueue hx).imp_right fun he => ⟨r, rfl, he.symm⟩
          | false =>
              rw [submit_of_busy htakes] at hx
              exact .inl hx

end Connection

/-! ## Transports -/

/-- All that wait on the connections of a transport. -/
def audience (t : Transport η) : List η := t.connections.flatMap (·.acks.waiting)

variable {t t' : Transport η} {files : Config.Files} {p : Phase η} {told : List (Told η)}
  {progress : Progress η} {h : η}

/-- A connection in a row after a stroke is what it was, or is the one that was struck. -/
lemma mem_strike {connections : List (Connection η)} {n : Nat} {s : Stroke η} {c : Connection η}
    (hc : c ∈ strike connections n s) :
    c ∈ connections ∨ ∃ d ∈ connections, ∃ effects, d.stroke s = some (c, effects) := by
  obtain ⟨k, hk⟩ := List.mem_iff_getElem?.mp hc
  rw [strike, List.getElem?_modify] at hk
  obtain ⟨d, hd, he⟩ := Option.map_eq_some_iff.mp hk
  have hmem := List.mem_of_getElem? hd
  split at he
  · cases hs : d.stroke s with
    | none =>
        rw [hs] at he
        exact .inl (he ▸ hmem)
    | some r =>
        rw [hs] at he
        cases (he : r.1 = c)
        exact .inr ⟨d, hmem, r.2, hs⟩
  · cases he
    exact .inl hmem

/-- Whoever is told something by a stroke, or waits after it. -/
lemma told_of_struck {stroke : Option (Nat × Stroke η)}
    (hconnections : t'.connections = struck t.connections stroke)
    (hx : h ∈ t'.audience ∨ h ∈ listeners (echo t.connections stroke)) :
    h ∈ t.audience ∨ ∃ n r, stroke = some (n, .touch (.submit r)) ∧ r.handler = h := by
  cases stroke with
  | none =>
      rw [audience, hconnections] at hx
      exact .inl (hx.elim id fun hx => by cases hx)
  | some x =>
      obtain ⟨n, s⟩ := x
      have hstroke : ∀ {c c' : Connection η} {effects : List (Effect η)}, c ∈ t.connections →
          c.stroke s = some (c', effects) → h ∈ c'.acks.waiting ∨ h ∈ listeners effects →
          h ∈ t.audience ∨ ∃ m r, some (n, s) = some (m, .touch (.submit r)) ∧ r.handler = h := by
        intro c c' effects hc hs hx
        rcases Connection.told_of_stroke hs hx with hold | ⟨r, rfl, he⟩
        · exact .inl (List.mem_flatMap.mpr ⟨c, hc, hold⟩)
        · exact .inr ⟨n, r, rfl, he⟩
      rcases hx with hx | hx
      · obtain ⟨c, hc, hx⟩ := List.mem_flatMap.mp hx
        rw [hconnections] at hc
        rcases mem_strike hc with hc | ⟨d, hd, effects, hs⟩
        · exact .inl (List.mem_flatMap.mpr ⟨c, hc, hx⟩)
        · exact hstroke hd hs (.inl hx)
      · rw [echo] at hx
        cases hr : t.connections[n]?.bind (·.stroke s) with
        | none =>
            rw [hr] at hx
            cases hx
        | some r =>
            rw [hr] at hx
            obtain ⟨c, hc, hs⟩ := Option.bind_eq_some_iff.mp hr
            exact hstroke (List.mem_of_getElem? hc) hs (.inr hx)

/-- **Whoever is told something in a phase of a call, or waits after it,** has waited before, or the
call is about its request. -/
theorem told_of_step (hstep : t.step files p = (t', told, progress))
    (hx : h ∈ t'.audience ∨ h ∈ told.map Prod.fst) :
    h ∈ t.audience ∨ ∃ r, p.request? = some r ∧ r.handler = h := by
  rw [← listeners_told] at hx
  rcases step_struck hstep with ⟨hconnections, htold⟩ | ⟨-, rfl, hconnections⟩
  · rw [htold] at hx
    refine (told_of_struck hconnections hx).imp_right ?_
    rintro ⟨n, r, hs, he⟩
    refine ⟨r, ?_, he⟩
    obtain ⟨⟨m, u⟩, hu, hpair⟩ := Option.map_eq_some_iff.mp hs
    cases hpair
    cases p <;> cases hu
    rfl
  · refine .inl (hx.elim (fun hx => ?_) fun hx => by cases hx)
    rw [audience, hconnections, List.flatMap_append] at hx
    exact (List.mem_append.mp hx).elim id fun hx => by cases hx

/-- Phases of a call without a request, one after the other. -/
lemma told_of_steps {count : Nat} (hp : p.request? = none)
    (hsteps : t.steps files p count = (t', told, progress))
    (hx : h ∈ t'.audience ∨ h ∈ told.map Prod.fst) : h ∈ t.audience := by
  have hphase : ∀ {t t' : Transport η} {p : Phase η} {told : List (Told η)}
      {progress : Progress η}, p.request? = none → t.step files p = (t', told, progress) →
      h ∈ t'.audience ∨ h ∈ told.map Prod.fst → h ∈ t.audience := by
    intro t t' p told progress hp hstep hx
    refine (told_of_step hstep hx).resolve_right ?_
    rintro ⟨r, hr, -⟩
    cases hp.symm.trans hr
  induction count generalizing t p told with
  | zero =>
      cases hsteps
      exact hx.elim id fun hx => by cases hx
  | succ count ih =>
      rw [steps] at hsteps
      rcases hstep : t.step files p with ⟨after, first, q | r⟩
      · simp only [hstep] at hsteps
        rcases hrest : after.steps files q count with ⟨last, more, progress'⟩
        rw [hrest] at hsteps
        cases hsteps
        have hafter : h ∈ after.audience ∨ h ∈ first.map Prod.fst := by
          rw [List.map_append, List.mem_append, or_left_comm] at hx
          refine hx.symm.imp_left fun hx => ?_
          exact ih ((request?_step hstep rfl).trans hp) hrest hx
        exact hphase hp hstep hafter
      · simp only [hstep] at hsteps
        cases hsteps
        exact hphase hp hstep hx

end Transport

open Transport

/-! ## All sessions -/

/-- The operation that a report of an acknowledgement is about. -/
def Report.acknowledged? : Report → Option Nat
  | acknowledged id _ => some id
  | connected | connectionFailed _ | disconnected _ | message _ _ => none

/-- The operations that some reports say are acknowledged. -/
def answeredIds (reports : List Report) : List Nat := reports.filterMap Report.acknowledged?

lemma answeredIds_acknowledgements (told : List (Told Nat)) :
    answeredIds (told.map acknowledgement) = told.map Prod.fst := by
  rw [answeredIds, List.filterMap_map]
  exact congrFun List.filterMap_eq_map told

lemma answeredIds_effects (effects : List (Effect Nat)) :
    answeredIds (effects.map Effect.report) = listeners effects := by
  rw [answeredIds, List.filterMap_map, listeners]
  refine List.filterMap_congr fun effect _ => ?_
  cases effect with
  | told t => rfl
  | notice n => cases n <;> rfl

namespace Transports

variable {w w' : Transports} {s : SessionId} {c : SessionCall} {id : Nat} {reports : List Report}

/-- **Nobody knows a number**: nobody waits under it, and the call under way is not about it. -/
structure Strange (w : Transports) (id : Nat) : Prop where
  absent : ∀ t ∈ w.sessions, id ∉ t.audience
  due : ∀ p r, w.underway = some p → p.request? = some r → r.handler ≠ id

lemma strange_new (config : TransportConfig) (files : Config.Files) (id : Nat) :
    ({ config, files } : Transports).Strange id := ⟨List.forall_mem_nil _, by rintro p r ⟨⟩⟩

/-- One transport changes. -/
lemma Strange.set (h : w.Strange id) {t' : Transport Nat} (ht : id ∉ t'.audience) :
    ∀ t ∈ (w.set s t').sessions, id ∉ t.audience := by
  intro t hmem
  rcases List.mem_or_eq_of_mem_set hmem with hmem | rfl
  · exact h.absent t hmem
  · exact ht

lemma audience_begin (t : Transport Nat) (c : Call Nat) : (t.begin c).1.audience = t.audience := by
  cases c <;> rfl

/-- The request that a call starts with is its own. -/
lemma ackId?_of_begin {t : Transport Nat} {r : Tracked Nat}
    (hr : (t.begin (callOf c)).2.request? = some r) : c.ackId? = some r.handler := by
  cases c <;> cases hr <;> rfl

/-- **A call under another number** leaves a number unknown, and nothing is reported of it. -/
theorem Strange.step (h : w.Strange id) {answer : Option Answer}
    (hsteps : Steps w s c answer reports w') (hc : c.ackId? ≠ some id) :
    w'.Strange id ∧ id ∉ answeredIds reports := by
  cases hsteps with
  | missing hnone => exact ⟨h, List.not_mem_nil⟩
  | @phase t t₀ t' p told progress hs hbegun hstep =>
      have hmem : t ∈ w.sessions := List.mem_of_getElem? hs
      have hstart : t₀.audience = t.audience ∧ ∀ r, p.request? = some r → r.handler ≠ id := by
        rcases hbegun with ⟨hu, rfl⟩ | ⟨-, hbegin⟩
        · exact ⟨rfl, fun r => h.due p r hu⟩
        · have haudience := audience_begin t (callOf c)
          have hown : ∀ r, (t.begin (callOf c)).2.request? = some r → c.ackId? = some r.handler :=
            fun r => ackId?_of_begin
          rw [hbegin] at haudience hown
          exact ⟨haudience, fun r hr he => hc (he ▸ hown r hr)⟩
      have hnobody : ¬ (id ∈ t'.audience ∨ id ∈ told.map Prod.fst) := by
        intro hx
        rcases told_of_step hstep hx with hold | ⟨r, hr, he⟩
        · exact h.absent t hmem (hstart.1 ▸ hold)
        · exact hstart.2 r hr he
      refine ⟨⟨h.set fun hx => hnobody (.inl hx), fun q r hq hr => ?_⟩, fun hx => ?_⟩
      · cases progress with
        | more next =>
            cases hq
            exact hstart.2 r ((request?_step hstep rfl).symm.trans hr)
        | done outcome => cases hq
      · rw [answeredIds_acknowledgements] at hx
        exact hnobody (.inr hx)

/-- **A driver's turn** reports nothing of a number that nobody knows. -/
theorem Strange.drive (h : w.Strange id) {n : Nat} {turn : DriverTurn}
    (hdrive : w.drive s n turn = some (reports, w')) :
    w'.Strange id ∧ id ∉ answeredIds reports := by
  rw [Transports.drive] at hdrive
  cases hs : w.sessions[s]? with
  | none =>
      rw [hs] at hdrive
      cases hdrive
  | some t =>
      simp only [hs] at hdrive
      obtain ⟨⟨t', effects⟩, ht, he⟩ := Option.map_eq_some_iff.mp hdrive
      cases he
      obtain ⟨hconnections, heffects, -⟩ := drive_struck ht
      have hnobody : ¬ (id ∈ t'.audience ∨ id ∈ listeners effects) := by
        intro hx
        rw [heffects] at hx
        rcases told_of_struck hconnections hx with hold | ⟨m, r, he, -⟩
        · exact h.absent t (List.mem_of_getElem? hs) hold
        · cases he
      refine ⟨⟨h.set fun hx => hnobody (.inl hx), h.due⟩, fun hx => ?_⟩
      rw [answeredIds_effects] at hx
      exact hnobody (.inr hx)

lemma Strange.room (h : w.Strange id) {t : Transport Nat} (hs : w.sessions[s]? = some t) (n : Nat)
    (b : Bool) : (w.set s (t.modify n ({ · with room := b }))).Strange id := by
  refine ⟨h.set fun hx => ?_, h.due⟩
  refine h.absent t (List.mem_of_getElem? hs) ?_
  have hstruck : (t.modify n ({ · with room := b })).connections
      = struck t.connections (some (n, .touch (.room b))) := rfl
  refine (told_of_struck hstruck (.inl hx)).resolve_right ?_
  rintro ⟨m, r, he, -⟩
  cases he

lemma Strange.create (h : w.Strange id) (args : ConnectionArgs) : (w.create args).2.Strange id := by
  refine ⟨fun t ht => ?_, h.due⟩
  rcases List.mem_append.mp ht with ht | ht
  · exact h.absent t ht
  · cases List.mem_singleton.mp ht
    exact List.not_mem_nil

/-- **The end of a session** reports nothing of a number that nobody knows. -/
theorem Strange.release (h : w.Strange id) (s : SessionId) :
    (w.release s).2.Strange id ∧ id ∉ answeredIds (w.release s).1 := by
  rw [Transports.release]
  cases hs : w.sessions[s]? with
  | none => exact ⟨h, List.not_mem_nil⟩
  | some t =>
      obtain ⟨t', told, r, hsteps⟩ := t.steps_left w.files (.replace .nothing)
      have hfinish : t.finish w.files .quit = (t', told, r) := by
        simp only [Transport.finish, Transport.begin, hsteps, Progress.result]
      have hnobody : ¬ (id ∈ t'.audience ∨ id ∈ told.map Prod.fst) := fun hx =>
        h.absent t (List.mem_of_getElem? hs) (told_of_steps rfl hsteps hx)
      simp only [hfinish]
      refine ⟨⟨h.set fun hx => hnobody (.inl hx), h.due⟩, fun hx => ?_⟩
      rw [answeredIds_acknowledgements] at hx
      exact hnobody (.inr hx)

end Transports

end DeviceLink
