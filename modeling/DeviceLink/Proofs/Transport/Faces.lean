import DeviceLink.Transport.Sessions
import Mathlib.Tactic.Common

/-!
# What a session's calls do to connections

A call of a transport raises flags, hands requests over and tells handlers, but how far a driver has
come, and whether a connection is up, is the driver's affair.  A call adds at most one connection,
and only in its very last phase.

* `Connection.face` — how far the driver of a connection has come, and whether it is up.
* `Phase.starts` — a call that is going to start a connection.
* **`Transport.step_cases`** — a phase changes no face; the last one may add a connection.
* `Maker` — a connection of a session, as whoever makes reports.
* **`Transports.step_cases`**, **`Transports.drive_face`** — the same for calls of sessions, and
  what a driver's turn does.
-/

namespace DeviceLink

open Transport

namespace Transport

variable {η : Type}

/-- How far the driver of a connection has come, and whether the connection is up. -/
def Connection.face (c : Connection η) : Driver × Bool := (c.driver, c.up)

/-! ## Calls that start a connection -/

def Sequel.starts : Sequel → Bool
  | start _ => true
  | nothing => false

/-- The call is going to start a connection. -/
def Phase.starts : Phase η → Bool
  | replace next | silence _ next | cancel _ next | drain _ next => next.starts
  | start _ => true
  | beforeDisconnect | want _ | wanted _ | giveUp _ | disconnect _ | unwant _ | beforeRequest _
  | accepted _ _ | request _ _ => false

lemma Sequel.starts_of_progress {next : Sequel} {q : Phase η} (h : next.progress = .more q) :
    q.starts = next.starts := by
  cases next with
  | start password =>
      cases h
      rfl
  | nothing => cases h

def face? (t : Transport η) (n : Nat) : Option (Driver × Bool) :=
  (t.connections[n]?).map Connection.face

variable {t t' : Transport η}

/-- A change that leaves the face of the one connection that it is made to leaves every face. -/
lemma face?_modify {n : Nat} {f : Connection η → Connection η}
    (h : ∀ c, t.connections[n]? = some c → (f c).face = c.face) (k : Nat) :
    (t.modify n f).face? k = t.face? k := by
  rw [face?, face?, modify, List.getElem?_modify]
  cases hk : t.connections[k]? with
  | none => rfl
  | some c =>
      by_cases hn : n = k
      · subst hn
        simpa using h c hk
      · simp [hn]

lemma length_modify (n : Nat) (f : Connection η → Connection η) :
    (t.modify n f).connections.length = t.connections.length := by
  rw [modify, List.length_modify]

/-- Every connection has the face that it had, and there are as many. -/
structure SameFaces (t t' : Transport η) : Prop where
  face? : ∀ n, t'.face? n = t.face? n
  length : t'.connections.length = t.connections.length

lemma sameFaces_refl (t : Transport η) : SameFaces t t := ⟨fun _ => rfl, rfl⟩

lemma sameFaces_modify {n : Nat} {f : Connection η → Connection η}
    (h : ∀ c, t.connections[n]? = some c → (f c).face = c.face) : SameFaces t (t.modify n f) :=
  ⟨face?_modify h, length_modify n f⟩

/-- A request changes what waits for an acknowledgement, and what the client has. -/
lemma face_submit (c : Connection η) (r : Tracked η) : (submit c r).1.face = c.face := by
  rw [submit]
  split <;> rfl

lemma submit_done (c : Connection η) (r : Tracked η) : ∃ result, (submit c r).2 = .done result := by
  rw [submit]
  split <;> exact ⟨_, rfl⟩

/-- **A phase changes no face**, and what follows starts a connection just when the call was going
to; or it is the last one and has added a connection. -/
theorem step_cases {files : Config.Files} {p : Phase η} {told : List (Told η)}
    {progress : Progress η} (h : t.step files p = (t', told, progress)) :
    (SameFaces t t' ∧ ∀ q, progress = .more q → q.starts = p.starts) ∨
      (p.starts ∧ progress = .done (.ok ()) ∧
        t'.connections = t.connections ++ [({} : Connection η)]) := by
  cases p with
  | replace next =>
      refine .inl ?_
      cases hc : t.current <;> simp only [Transport.step, hc] at h <;> cases h
      · exact ⟨sameFaces_refl t, fun q => Sequel.starts_of_progress⟩
      · refine ⟨⟨fun _ => rfl, rfl⟩, ?_⟩
        rintro q ⟨⟩
        rfl
  | silence n next | cancel n next =>
      cases h
      refine .inl ⟨sameFaces_modify fun _ _ => rfl, ?_⟩
      rintro q ⟨⟩
      rfl
  | drain n next =>
      refine .inl ?_
      cases hc : t.connections[n]? <;> simp only [Transport.step, hc] at h <;> cases h
      · exact ⟨sameFaces_refl t, fun q => Sequel.starts_of_progress⟩
      · exact ⟨sameFaces_modify fun _ _ => rfl, fun q => Sequel.starts_of_progress⟩
  | start password =>
      simp only [Transport.step, Transport.start] at h
      split at h
      · split at h
        · cases h
          refine .inl ⟨sameFaces_refl t, ?_⟩
          rintro q ⟨⟩
        · cases h
          exact .inr ⟨rfl, rfl, rfl⟩
      · cases h
        refine .inl ⟨sameFaces_refl t, ?_⟩
        rintro q ⟨⟩
  | beforeDisconnect | beforeRequest r =>
      refine .inl ?_
      cases hl : t.live? <;> simp only [Transport.step, hl] at h <;> cases h
      · exact ⟨sameFaces_refl t, by rintro q ⟨⟩⟩
      · exact ⟨sameFaces_refl t, by rintro q ⟨⟩; rfl⟩
  | want n =>
      cases h
      refine .inl ⟨sameFaces_modify fun _ _ => rfl, ?_⟩
      rintro q ⟨⟩
      rfl
  | wanted n =>
      cases h
      refine .inl ⟨sameFaces_refl t, ?_⟩
      intro q hq
      cases hup : (t.connections[n]?).any (·.up) <;> rw [hup] at hq <;> cases hq <;> rfl
  | giveUp n =>
      cases h
      exact .inl ⟨sameFaces_modify fun _ _ => rfl, by rintro q ⟨⟩⟩
  | disconnect n =>
      refine .inl ?_
      cases htakes : (t.connections[n]?).any (·.takes) <;>
        simp only [Transport.step, htakes] at h <;> cases h
      · exact ⟨sameFaces_refl t, by rintro q ⟨⟩; rfl⟩
      · exact ⟨sameFaces_modify fun _ _ => rfl, by rintro q ⟨⟩⟩
  | unwant n =>
      cases h
      exact .inl ⟨sameFaces_modify fun _ _ => rfl, by rintro q ⟨⟩⟩
  | accepted n r =>
      cases h
      refine .inl ⟨sameFaces_refl t, ?_⟩
      intro q hq
      cases hup : (t.connections[n]?).any (·.up) <;> rw [hup] at hq <;> cases hq
      rfl
  | request n r =>
      refine .inl ?_
      cases hc : t.connections[n]? with
      | none =>
          simp only [Transport.step, hc] at h
          cases h
          exact ⟨sameFaces_refl t, by rintro q ⟨⟩⟩
      | some c =>
          simp only [Transport.step, hc] at h
          cases h
          obtain ⟨result, hdone⟩ := submit_done c r
          refine ⟨sameFaces_modify ?_, ?_⟩
          · intro d hd
            rw [hc] at hd
            cases hd
            exact face_submit c r
          · intro q hq
            rw [hdone] at hq
            cases hq

lemma begin_connections (t : Transport η) (c : Call η) :
    (t.begin c).1.connections = t.connections := by
  cases c <;> rfl

end Transport

/-! ## Sessions -/

/-- The call starts a connection, unless it fails. -/
def SessionCall.starts : SessionCall → Bool
  | connect _ _ | reconnect _ => true
  | disconnect | publish _ _ _ | subscribe _ _ | unsubscribe _ _ => false

/-- A connection of a session; its driver makes reports. -/
structure Maker where
  session : SessionId
  number : Nat
  deriving DecidableEq

namespace Transports

variable {w w' : Transports} {s : SessionId} {maker : Maker}

def face? (w : Transports) (maker : Maker) : Option (Driver × Bool) :=
  (w.sessions[maker.session]?).bind fun t => t.face? maker.number

/-- The driver of a connection has not come to its end. -/
def Live (w : Transports) (maker : Maker) : Prop :=
  ∃ driver up, w.face? maker = some (driver, up) ∧ driver ≠ .returned

/-- The connection that a session starts next. -/
def next (w : Transports) (s : SessionId) : Maker :=
  ⟨s, ((w.sessions[s]?).map fun t => t.connections.length).getD 0⟩

/-- Every connection has the face that it had, and no other was started. -/
structure SameFaces (w w' : Transports) : Prop where
  face? : ∀ maker, w'.face? maker = w.face? maker
  next : ∀ s, w'.next s = w.next s

/-- A connection was started, and nothing else has changed. -/
structure Starts (w w' : Transports) (maker : Maker) : Prop where
  before : w.face? maker = none
  after : w'.face? maker = some (.waiting, false)
  others : ∀ other, other ≠ maker → w'.face? other = w.face? other

lemma sameFaces_refl (w : Transports) : SameFaces w w := ⟨fun _ => rfl, fun _ => rfl⟩

lemma face?_next (w : Transports) (s : SessionId) : w.face? (w.next s) = none := by
  rw [face?, next]
  cases hs : w.sessions[s]? with
  | none => rfl
  | some t => simp [Transport.face?]

lemma face?_set {t t' : Transport Nat} (hs : w.sessions[s]? = some t) (maker : Maker) :
    (w.set s t').face? maker
      = if maker.session = s then t'.face? maker.number else w.face? maker := by
  have hlt := (List.getElem?_eq_some_iff.mp hs).1
  rw [face?, face?, set, List.getElem?_set]
  by_cases hm : maker.session = s
  · simp [hm, hlt]
  · simp [hm, Ne.symm hm]

lemma next_set {t t' : Transport Nat} (hs : w.sessions[s]? = some t)
    (hl : t'.connections.length = t.connections.length) (k : SessionId) :
    (w.set s t').next k = w.next k := by
  have hlt := (List.getElem?_eq_some_iff.mp hs).1
  rw [next, next, set, List.getElem?_set]
  by_cases hk : s = k
  · subst hk
    rw [if_pos rfl, if_pos hlt, hs, Option.map_some, Option.map_some, hl]
  · rw [if_neg hk]

lemma sameFaces_set {t t' : Transport Nat} (hs : w.sessions[s]? = some t)
    (h : Transport.SameFaces t t') : SameFaces w (w.set s t') where
  face? := by
    intro maker
    rw [face?_set hs]
    split
    · next hm => rw [h.face?, face?, hm, hs, Option.bind_some]
    · rfl
  next := next_set hs h.length

lemma starts_set {t t' : Transport Nat} (hs : w.sessions[s]? = some t)
    (h : t'.connections = t.connections ++ [({} : Connection Nat)]) :
    Starts w (w.set s t') (w.next s) where
  before := face?_next w s
  after := by
    have hsession : (w.next s).session = s := rfl
    rw [face?_set hs, if_pos hsession, next, hs, Transport.face?, h]
    simp [Connection.face]
  others := by
    intro other ho
    rw [face?_set hs]
    split
    · next hm =>
        have hne : other.number ≠ t.connections.length := by
          intro he
          refine ho ?_
          obtain ⟨session, number⟩ := other
          cases hm
          cases he
          rw [next, hs]
          rfl
        rw [face?, hm, hs, Option.bind_some, Transport.face?, Transport.face?, h]
        by_cases hlt : other.number < t.connections.length
        · rw [List.getElem?_append_left hlt]
        · have hge : t.connections.length + 1 ≤ other.number := by omega
          rw [List.getElem?_eq_none (by simpa using hge),
            List.getElem?_eq_none (Nat.le_of_succ_le hge)]
    · rfl

lemma sameFaces_create (w : Transports) (args : ConnectionArgs) :
    SameFaces w (w.create args).2 where
  face? := by
    intro maker
    rw [face?, face?, create]
    by_cases hlt : maker.session < w.sessions.length
    · rw [List.getElem?_append_left hlt]
    · rw [List.getElem?_append_right (Nat.le_of_not_lt hlt),
        List.getElem?_eq_none (Nat.le_of_not_lt hlt)]
      cases hk : maker.session - w.sessions.length <;> rfl
  next := by
    intro k
    rw [next, next, create]
    by_cases hlt : k < w.sessions.length
    · rw [List.getElem?_append_left hlt]
    · rw [List.getElem?_append_right (Nat.le_of_not_lt hlt),
        List.getElem?_eq_none (Nat.le_of_not_lt hlt)]
      cases hk : k - w.sessions.length <;> rfl

lemma starts_begin (t : Transport Nat) (c : SessionCall) :
    (t.begin (callOf c)).2.starts = c.starts := by
  cases c <;> rfl

/-- The phase that is due belongs to a call of a session that is there. -/
def Due (w : Transports) (s : SessionId) (c : SessionCall) : Prop :=
  ∀ p, w.underway = some p → p.starts = c.starts ∧ (w.sessions[s]?).isSome

/-- What comes of a step of a call: it goes on with what belongs to it, with every face as it was;
it is over, with every face as it was; or it is over and has started a connection. -/
inductive Stepped (w : Transports) (s : SessionId) (c : SessionCall) :
    Option Answer → Transports → Prop where
  | more {w' : Transports} (faces : SameFaces w w') (due : w'.Due s c) : Stepped w s c none w'
  | finished {w' : Transports} {answer : Answer} (faces : SameFaces w w')
      (none : w'.underway = none) : Stepped w s c (some answer) w'
  | started {w' : Transports} (starts : c.starts) (start : Starts w w' (w.next s))
      (none : w'.underway = none) : Stepped w s c (some (.returned (.ok ()))) w'

lemma stepped_phase {c : SessionCall} {t u t' : Transport Nat} {p : Phase Nat}
    {told : List (Told Nat)} {progress : Progress Nat} (hs : w.sessions[s]? = some t)
    (hconn : u.connections = t.connections) (hp : p.starts = c.starts)
    (h : u.step w.files p = (t', told, progress)) :
    match progress with
    | .more q => Stepped w s c none { w.set s t' with underway := some q }
    | .done r => Stepped w s c (some (answerOf r)) { w.set s t' with underway := none } := by
  have hlt := (List.getElem?_eq_some_iff.mp hs).1
  rcases Transport.step_cases h with ⟨hfaces, hq⟩ | ⟨hstarts, rfl, hnew⟩
  · have hsame : Transport.SameFaces t t' := by
      refine ⟨fun n => ?_, ?_⟩
      · rw [hfaces.face?, Transport.face?, Transport.face?, hconn]
      · rw [hfaces.length, hconn]
    have hset := sameFaces_set hs hsame
    cases progress with
    | more q =>
        refine .more ⟨hset.face?, hset.next⟩ ?_
        rintro r ⟨⟩
        refine ⟨(hq q rfl).trans hp, ?_⟩
        simp [set, hlt]
    | done result => exact .finished ⟨hset.face?, hset.next⟩ rfl
  · rw [hconn] at hnew
    have hset := starts_set hs hnew
    exact .started (hp ▸ hstarts) ⟨hset.before, hset.after, hset.others⟩ rfl

/-- **A step of a call of a session** reports nothing but acknowledgements, and may start a
connection when the call is over. -/
theorem stepped {c : SessionCall} {answer : Option Answer} {reports : List Report}
    (hdue : w.Due s c) (h : w.step s c = (answer, reports, w')) :
    (∃ told : List (Told Nat), reports = told.map acknowledgement) ∧ Stepped w s c answer w' := by
  cases hs : w.sessions[s]? with
  | none =>
      simp only [step, hs] at h
      cases h
      refine ⟨⟨[], rfl⟩, .finished (sameFaces_refl w) ?_⟩
      cases hp : w.underway with
      | none => rfl
      | some p =>
          have hsome := (hdue p hp).2
          rw [hs] at hsome
          cases hsome
  | some t =>
      cases hw : w.underway with
      | none =>
          simp only [step, hs, hw] at h
          rcases hstep : (t.begin (callOf c)).1.step w.files (t.begin (callOf c)).2
            with ⟨t', told, progress⟩
          have hphase := stepped_phase hs (begin_connections t _) (starts_begin t c) hstep
          rw [hstep] at h
          cases progress <;> cases h <;> exact ⟨⟨told, rfl⟩, hphase⟩
      | some p =>
          simp only [step, hs, hw] at h
          rcases hstep : t.step w.files p with ⟨t', told, progress⟩
          have hphase := stepped_phase hs rfl (hdue p hw).1 hstep
          rw [hstep] at h
          cases progress <;> cases h <;> exact ⟨⟨told, rfl⟩, hphase⟩

/-- **A driver's turn** changes the face of its own connection, and no other. -/
theorem drive_face {n : Nat} {turn : DriverTurn} {reports : List Report}
    (h : w.drive s n turn = some (reports, w')) :
    ∃ c c' effects, Connection.drive c turn = some (c', effects) ∧
      reports = effects.map Effect.report ∧ w.face? ⟨s, n⟩ = some c.face ∧
      w'.face? ⟨s, n⟩ = some c'.face ∧ (∀ maker, maker ≠ ⟨s, n⟩ → w'.face? maker = w.face? maker) ∧
      (∀ k, w'.next k = w.next k) ∧ w'.underway = w.underway ∧
      w'.sessions.length = w.sessions.length := by
  rw [drive] at h
  cases hs : w.sessions[s]? with
  | none =>
      simp only [hs] at h
      cases h
  | some t =>
      simp only [hs] at h
      obtain ⟨⟨t', effects⟩, ht, hr⟩ := Option.map_eq_some_iff.mp h
      cases hr
      rw [Transport.drive] at ht
      cases hc : t.connections[n]? with
      | none =>
          simp only [hc] at ht
          cases ht
      | some c =>
          simp only [hc] at ht
          obtain ⟨⟨c', effects⟩, hdrive, hr⟩ := Option.map_eq_some_iff.mp ht
          cases hr
          refine ⟨c, c', effects, hdrive, rfl, ?_, ?_, ?_, ?_, rfl, ?_⟩
          · rw [face?, hs, Option.bind_some, Transport.face?, hc]
            rfl
          · have hsession : (⟨s, n⟩ : Maker).session = s := rfl
            rw [face?_set hs, if_pos hsession, Transport.face?, Transport.modify,
              List.getElem?_modify_eq, hc]
            rfl
          · intro maker hmk
            rw [face?_set hs]
            split
            · next hm =>
                have hne : n ≠ maker.number := by
                  intro he
                  refine hmk ?_
                  obtain ⟨session, number⟩ := maker
                  cases hm
                  cases he
                  rfl
                rw [face?, hm, hs, Option.bind_some, Transport.face?, Transport.face?,
                  Transport.modify, List.getElem?_modify_ne _ _ hne]
            · rfl
          · exact next_set hs (length_modify n _)
          · rw [set, List.length_set]

end Transports

end DeviceLink
