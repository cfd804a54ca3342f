import DeviceLink.Proofs.Transport.Life

/-!
# A transport in use

The owner of a transport makes one call after the other, and each call comes phase by phase; the
drivers of all connections that were ever started have their turns in between, in any order, and the
clients under them have room for requests or have none.

* `Phase.stroke?`, **`Transport.step_struck`** — what a phase does to connections: it touches one of
  them, or none, or starts one.
* `Usage`, `Act`, `Usage.act` — a transport with the call that is under way, and what can happen.
* `Usage.observe` — the records of all connections, for an observer of one.
* **`Usage.step_act`** — what happens to each connection is nothing, a stroke, or its start.
* `Usage.run` — a list of acts, with a record.
* `Usage.Orderly`, **`Usage.Orderly.act`** — a call works on the current connection, or on the one
  that it gives up.
* `Usage.Gone`, **`Usage.Gone.act`** — a connection that is not the current one any more never is
  again.
-/

namespace DeviceLink.Transport

variable {η γ : Type}

/-! ## What a phase does to connections -/

/-- The connection that a phase touches, and how. -/
def Phase.touch? : Phase η → Option (Nat × Touch η)
  | silence n _ | unwant n => some (n, .want false)
  | cancel n _ | giveUp n => some (n, .cancel)
  | drain n _ => some (n, .drain)
  | want n => some (n, .want true)
  | disconnect n => some (n, .leave)
  | request n r => some (n, .submit r)
  | replace _ | start _ | beforeDisconnect | wanted _ | beforeRequest _ | accepted _ _ => none

def Phase.stroke? (p : Phase η) : Option (Nat × Stroke η) := p.touch?.map (·.map id .touch)

/-- The connections after a stroke of one of them, or after nothing. -/
def struck (connections : List (Connection η)) : Option (Nat × Stroke η) → List (Connection η)
  | none => connections
  | some (n, s) => strike connections n s

/-- What others learn of it. -/
def echo (connections : List (Connection η)) : Option (Nat × Stroke η) → List (Effect η)
  | none => []
  | some (n, s) => ((connections[n]?.bind (·.stroke s)).map Prod.snd).getD []

lemma modify_congr {l : List (Connection η)} {n : Nat} {f g : Connection η → Connection η}
    (h : ∀ c, l[n]? = some c → f c = g c) : l.modify n f = l.modify n g := by
  refine List.ext_getElem? fun k => ?_
  rw [List.getElem?_modify, List.getElem?_modify]
  by_cases hk : n = k
  · subst hk
    cases hc : l[n]? with
    | none => rfl
    | some c => simp [h c hc]
  · simp [hk]

variable {t t' : Transport η} {files : Config.Files}

/-- Whatever changes one connection as a touch does is that touch. -/
lemma struck_touch {n : Nat} {u : Touch η} {f : Connection η → Connection η} {told : List (Told η)}
    (hf : ∀ c, t.connections[n]? = some c → f c = (c.touch u).1 ∧ told = (c.touch u).2)
    (hnone : t.connections[n]? = none → told = []) :
    (t.modify n f).connections = struck t.connections (some (n, .touch u)) ∧
      told.map Effect.told = echo t.connections (some (n, .touch u)) := by
  refine ⟨modify_congr fun c hc => (hf c hc).1, ?_⟩
  cases hc : t.connections[n]? with
  | none => simp [echo, hc, hnone hc]
  | some c => simp [echo, hc, Connection.stroke, (hf c hc).2]

/-- A touch that changes nothing is as good as none. -/
lemma struck_idle {n : Nat} {u : Touch η}
    (h : ∀ c, t.connections[n]? = some c → c.touch u = (c, [])) :
    t.connections = struck t.connections (some (n, .touch u)) ∧
      ([] : List (Told η)).map Effect.told = echo t.connections (some (n, .touch u)) := by
  have hid : (t.modify n id).connections = struck t.connections (some (n, .touch u)) ∧
      ([] : List (Told η)).map Effect.told = echo t.connections (some (n, .touch u)) := by
    refine struck_touch (fun c hc => ?_) fun _ => rfl
    rw [h c hc]
    exact ⟨rfl, rfl⟩
  exact ⟨(List.modify_id n _).symm.trans hid.1, hid.2⟩

/-- **A phase** touches a connection, or none, or starts one. -/
theorem step_struck {p : Phase η} {told : List (Told η)} {progress : Progress η}
    (h : t.step files p = (t', told, progress)) :
    (t'.connections = struck t.connections p.stroke? ∧
        told.map Effect.told = echo t.connections p.stroke?) ∨
      (p.stroke? = none ∧ told = [] ∧ t'.connections = t.connections ++ [({} : Connection η)]) := by
  cases p with
  | replace next =>
      cases hc : t.current <;> simp only [Transport.step, hc] at h <;> cases h <;>
        exact .inl ⟨rfl, rfl⟩
  | silence n next | cancel n next | want n | giveUp n | unwant n =>
      cases h
      exact .inl (struck_touch (fun c _ => ⟨rfl, rfl⟩) fun _ => rfl)
  | drain n next =>
      refine .inl ?_
      cases hc : t.connections[n]? with
      | none =>
          simp only [Transport.step, hc] at h
          cases h
          exact struck_idle fun c hsome => by cases hc.symm.trans hsome
      | some c =>
          simp only [Transport.step, hc] at h
          cases h
          refine struck_touch (fun d hd => ?_) fun hnone => ?_
          · cases hc.symm.trans hd
            exact ⟨rfl, rfl⟩
          · cases hc.symm.trans hnone
  | start password =>
      simp only [Transport.step, Transport.start] at h
      split at h
      · split at h <;> cases h
        · exact .inl ⟨rfl, rfl⟩
        · exact .inr ⟨rfl, rfl, rfl⟩
      · cases h
        exact .inl ⟨rfl, rfl⟩
  | beforeDisconnect | beforeRequest r =>
      cases hl : t.live? <;> simp only [Transport.step, hl] at h <;> cases h <;>
        exact .inl ⟨rfl, rfl⟩
  | wanted n | accepted n r =>
      cases h
      exact .inl ⟨rfl, rfl⟩
  | disconnect n =>
      refine .inl ?_
      cases hc : t.connections[n]? with
      | none =>
          simp only [Transport.step, hc] at h
          cases h
          exact struck_idle fun c hsome => by cases hc.symm.trans hsome
      | some c =>
          have hleave : ∀ d, t.connections[n]? = some d → d = c :=
            fun d hd => (Option.some.inj (hc.symm.trans hd)).symm
          cases htakes : c.takes with
          | true =>
              simp only [Transport.step, hc, Option.any_some, htakes, if_true] at h
              cases h
              refine struck_touch (fun d hd => ?_) fun _ => rfl
              rw [hleave d hd, Connection.touch, htakes]
              exact ⟨rfl, rfl⟩
          | false =>
              simp only [Transport.step, hc, Option.any_some, htakes] at h
              cases h
              refine struck_idle fun d hd => ?_
              rw [hleave d hd, Connection.touch, htakes]
              rfl
  | request n r =>
      refine .inl ?_
      cases hc : t.connections[n]? with
      | none =>
          simp only [Transport.step, hc] at h
          cases h
          exact struck_idle fun c hsome => by cases hc.symm.trans hsome
      | some c =>
          simp only [Transport.step, hc] at h
          cases h
          refine struck_touch (fun d hd => ?_) fun _ => rfl
          cases hc.symm.trans hd
          exact ⟨rfl, rfl⟩

/-- A driver's turn is a stroke of its connection. -/
lemma drive_struck {n : Nat} {turn : DriverTurn} {effects : List (Effect η)}
    (h : t.drive n turn = some (t', effects)) :
    t'.connections = struck t.connections (some (n, .turn turn)) ∧
      effects = echo t.connections (some (n, .turn turn)) ∧ t'.current = t.current := by
  rw [Transport.drive] at h
  cases hc : t.connections[n]? with
  | none =>
      simp only [hc] at h
      cases h
  | some c =>
      simp only [hc] at h
      obtain ⟨r, hr, he⟩ := Option.map_eq_some_iff.mp h
      have hstroke : c.stroke (.turn turn) = some r := hr
      cases he
      refine ⟨modify_congr fun d hd => ?_, ?_, rfl⟩
      · cases hc.symm.trans hd
        simp [hstroke]
      · simp [echo, hc, hstroke]

/-! ## A transport with the call that is under way -/

def Progress.phase? : Progress η → Option (Phase η)
  | more p => some p
  | done _ => none

/-- A transport in use. -/
structure Usage (η : Type) where
  transport : Transport η
  files : Config.Files
  /-- What the call under way does next. -/
  underway : Option (Phase η) := none

/-- One thing that happens to a transport in use. -/
inductive Act (η : Type) where
  /-- The owner makes a call. -/
  | call (c : Call η)
  /-- The call under way does its next phase. -/
  | phase
  /-- The driver of a connection has its turn. -/
  | drive (n : Nat) (turn : DriverTurn)
  /-- The client of a connection has room for requests now, or has none. -/
  | room (n : Nat) (b : Bool)

namespace Usage

/-- A transport that has not been used. -/
def new (config : TransportConfig) (args : ConnectionArgs) (files : Config.Files) : Usage η :=
  { transport := { config, args }, files }

/-- One whose connections are not secured. -/
def unsecured : Usage Nat := new { tls := false } ⟨"hub", "device", "id", none⟩ fun _ => .absent

/-- **One thing happens**, if it can happen: one call is under way at a time. -/
def act (u : Usage η) : Act η → Option (Usage η)
  | .call c =>
    match u.underway with
    | some _ => none
    | none =>
      some { u with
        transport := (u.transport.begin c).1
        underway := some (u.transport.begin c).2 }
  | .phase =>
    u.underway.map fun p =>
      let r := u.transport.step u.files p
      { u with transport := r.1, underway := r.2.2.phase? }
  | .drive n turn => (u.transport.drive n turn).map fun r => { u with transport := r.1 }
  | .room n b => some { u with transport := u.transport.modify n ({ · with room := b }) }

/-- The connection to which something happens, and what. -/
def stroke? (u : Usage η) : Act η → Option (Nat × Stroke η)
  | .call _ => none
  | .phase => u.underway.bind Phase.stroke?
  | .drive n turn => some (n, .turn turn)
  | .room n b => some (n, .touch (.room b))

/-- The records of all connections, when something happens. -/
def observe (o : Observer η γ) (u : Usage η) (a : Act η) (g : Nat → γ) : Nat → γ :=
  match u.stroke? a with
  | none => g
  | some (n, s) => o.log u.transport.connections[n]? n s g

variable {u u' : Usage η} {a : Act η}

/-- A call is made while none is under way. -/
lemma call_cases {c : Call η} (h : u.act (.call c) = some u') :
    u.underway = none ∧ u' = { u with
      transport := (u.transport.begin c).1, underway := some (u.transport.begin c).2 } := by
  rw [act] at h
  cases hu : u.underway with
  | some p =>
      simp only [hu] at h
      cases h
  | none =>
      simp only [hu] at h
      exact ⟨rfl, (Option.some.inj h).symm⟩

/-- The call under way goes on from the phase that is due. -/
lemma phase_cases (h : u.act .phase = some u') :
    ∃ p t' told progress, u.underway = some p ∧
      u.transport.step u.files p = (t', told, progress) ∧
      u' = { u with transport := t', underway := progress.phase? } := by
  obtain ⟨p, hp, rfl⟩ := Option.map_eq_some_iff.mp h
  exact ⟨p, _, _, _, hp, rfl, rfl⟩

/-- What happens is a stroke of one connection, or of none, or starts one. -/
lemma connections_act (h : u.act a = some u') :
    u'.transport.connections = struck u.transport.connections (u.stroke? a) ∨
      (u.stroke? a = none ∧
        u'.transport.connections = u.transport.connections ++ [({} : Connection η)]) := by
  cases a with
  | call c =>
      obtain ⟨-, rfl⟩ := call_cases h
      exact .inl (by cases c <;> rfl)
  | phase =>
      obtain ⟨p, t', told, progress, hp, hs, rfl⟩ := phase_cases h
      rw [stroke?, hp, Option.bind_some]
      rcases step_struck hs with hs | hs
      · exact .inl hs.1
      · exact .inr ⟨hs.1, hs.2.2⟩
  | drive n turn =>
      obtain ⟨r, hr, rfl⟩ := Option.map_eq_some_iff.mp h
      exact .inl (drive_struck hr).1
  | room n b =>
      cases h
      exact .inl (struck_touch (u := .room b) (fun c _ => ⟨rfl, rfl⟩) fun _ => rfl).1

/-- **What happens to each connection**, with its record. -/
theorem step_act (o : Observer η γ) (h : u.act a = some u') (g : Nat → γ) (k : Nat) :
    o.Step (fun s => u.stroke? a = some (k, s)) u.transport.connections[k]? (g k)
      u'.transport.connections[k]? (observe o u a g k) := by
  rcases connections_act h with hs | ⟨hnone, hs⟩
  · rw [hs, observe]
    cases hstroke : u.stroke? a with
    | none => exact .still _ _
    | some r =>
        obtain ⟨n, s⟩ := r
        refine (o.step_strike u.transport.connections n s g k).mono ?_
        rintro other ⟨rfl, rfl⟩
        rfl
  · rw [hs, observe, hnone]
    rcases Nat.lt_trichotomy k u.transport.connections.length with hlt | rfl | hgt
    · rw [List.getElem?_append_left hlt]
      exact .still _ _
    · rw [List.getElem?_concat_length, List.getElem?_eq_none (Nat.le_refl _)]
      exact .start _
    · have hlength : (u.transport.connections ++ [({} : Connection η)]).length ≤ k := by
        rw [List.length_append]
        exact hgt
      rw [List.getElem?_eq_none hlength, List.getElem?_eq_none (Nat.le_of_lt hgt)]
      exact .still _ _

/-- What becomes of one record: nothing, or a stroke is added. -/
lemma observe_cases (o : Observer η γ) (u : Usage η) (a : Act η) (g : Nat → γ) (k : Nat)
    {P : γ → Prop} (hsame : P (g k))
    (hnote : ∀ c s effects, u.stroke? a = some (k, s) → P (o.note c s effects (g k))) :
    P (observe o u a g k) := by
  rw [observe]
  cases hs : u.stroke? a with
  | none => exact hsame
  | some r =>
      obtain ⟨n, s⟩ := r
      by_cases hk : k = n
      · subst hk
        simp only [Observer.log]
        cases u.transport.connections[k]?.bind fun c => (c.stroke s).map fun r => (c, r.2) with
        | none => exact hsame
        | some r =>
            change P (Function.update g k (o.note r.1 s r.2 (g k)) k)
            rw [Function.update_self]
            exact hnote r.1 s r.2 hs
      · change P (o.log u.transport.connections[n]? n s g k)
        rwa [o.log_of_ne _ s g hk]

/-! ## Runs -/

/-- **A run**, with the record that is kept of it.  What cannot happen is passed over. -/
def run (note : Usage η → Act η → γ → γ) : Usage η × γ → List (Act η) → Usage η × γ :=
  runWith act id fun a u _ g => note u a g

/-! ## Calls and the current connection -/

end Usage

/-- A phase works on the current connection, or on one that has been given up. -/
def Phase.Fits (t : Transport η) : Phase η → Prop
  | silence n _ | cancel n _ | drain n _ => t.current = none ∧ n < t.connections.length
  | start _ => t.current = none
  | want n | wanted n | giveUp n | disconnect n | unwant n | accepted n _ | request n _ =>
    t.current = some n
  | replace _ | beforeDisconnect | beforeRequest _ => True

/-- The current connection is there. -/
def Known (t : Transport η) : Prop := ∀ n, t.current = some n → n < t.connections.length

/-- All that can follow a given up connection is the start of another. -/
lemma start_of_progress {next : Sequel} {q : Phase η} (h : next.progress = .more q) :
    ∃ password, q = .start password := by
  cases next with
  | start password =>
      cases h
      exact ⟨password, rfl⟩
  | nothing => cases h

/-- What fits depends on the current connection, and on how many there are. -/
lemma Phase.Fits.of_eq {p : Phase η} (h : p.Fits t) (hc : t'.current = t.current)
    (hl : t'.connections.length = t.connections.length) : p.Fits t' := by
  cases p with
  | silence n next | cancel n next | drain n next => exact ⟨hc.trans h.1, hl ▸ h.2⟩
  | start password | want n | wanted n | giveUp n | disconnect n | unwant n | accepted n r
  | request n r => exact hc.trans h
  | replace next | beforeDisconnect | beforeRequest r => trivial

/-- **A phase leads to one that fits.** -/
lemma fits_step {p : Phase η} {told : List (Told η)} {progress : Progress η} (hknown : Known t)
    (hfits : p.Fits t) (h : t.step files p = (t', told, progress)) :
    Known t' ∧ ∀ q, progress = .more q → q.Fits t' := by
  have hmodify : ∀ n f, Known (t.modify n f) := by
    intro n f k hk
    rw [modify, List.length_modify]
    exact hknown k hk
  have hnext : t.current = none → ∀ (next : Sequel) (q : Phase η), next.progress = .more q →
      q.Fits t := by
    intro hc next q hq
    obtain ⟨password, rfl⟩ := start_of_progress hq
    exact hc
  cases p with
  | replace next =>
      cases hc : t.current <;> simp only [Transport.step, hc] at h <;> cases h
      · exact ⟨hknown, hnext hc next⟩
      · refine ⟨by rintro n ⟨⟩, ?_⟩
        rintro q ⟨⟩
        exact ⟨rfl, hknown _ hc⟩
  | silence n next | cancel n next =>
      cases h
      refine ⟨hmodify _ _, ?_⟩
      rintro q ⟨⟩
      refine ⟨hfits.1, ?_⟩
      rw [modify, List.length_modify]
      exact hfits.2
  | drain n next =>
      cases hc : t.connections[n]? <;> simp only [Transport.step, hc] at h <;> cases h
      · exact ⟨hknown, hnext hfits.1 next⟩
      · refine ⟨hmodify _ _, fun q hq => (hnext hfits.1 next q hq).of_eq rfl ?_⟩
        exact List.length_modify _ _ _
  | start password =>
      simp only [Transport.step, Transport.start] at h
      split at h
      · split at h <;> cases h
        · exact ⟨hknown, by rintro q ⟨⟩⟩
        · refine ⟨?_, by rintro q ⟨⟩⟩
          rintro n ⟨⟩
          simp
      · cases h
        exact ⟨hknown, by rintro q ⟨⟩⟩
  | beforeDisconnect | beforeRequest r =>
      cases hl : t.live? <;> simp only [Transport.step, hl] at h <;> cases h
      · exact ⟨hknown, by rintro q ⟨⟩⟩
      · refine ⟨hknown, ?_⟩
        rintro q ⟨⟩
        exact (Option.filter_eq_some_iff.mp hl).1
  | want n =>
      cases h
      refine ⟨hmodify _ _, ?_⟩
      rintro q ⟨⟩
      exact hfits
  | wanted n =>
      cases h
      refine ⟨hknown, ?_⟩
      intro q hq
      cases hup : (t.connections[n]?).any (·.up) <;> rw [hup] at hq <;> cases hq <;> exact hfits
  | giveUp n | unwant n =>
      cases h
      exact ⟨hmodify _ _, by rintro q ⟨⟩⟩
  | disconnect n =>
      cases htakes : (t.connections[n]?).any (·.takes) <;>
        simp only [Transport.step, htakes] at h <;> cases h
      · refine ⟨hknown, ?_⟩
        rintro q ⟨⟩
        exact hfits
      · exact ⟨hmodify _ _, by rintro q ⟨⟩⟩
  | accepted n r =>
      cases h
      refine ⟨hknown, ?_⟩
      intro q hq
      cases hup : (t.connections[n]?).any (·.up) <;> rw [hup] at hq <;> cases hq
      exact hfits
  | request n r =>
      cases hc : t.connections[n]? with
      | none =>
          simp only [Transport.step, hc] at h
          cases h
          exact ⟨hknown, by rintro q ⟨⟩⟩
      | some c =>
          simp only [Transport.step, hc] at h
          cases h
          refine ⟨hmodify _ _, ?_⟩
          intro q hq
          rw [submit] at hq
          split at hq <;> cases hq

namespace Usage

/-- **The call under way** works on the current connection, or on the one that it gives up. -/
structure Orderly (u : Usage η) : Prop where
  known : Known u.transport
  fits : ∀ p, u.underway = some p → p.Fits u.transport

variable {u u' : Usage η} {a : Act η}

lemma orderly_new (config : TransportConfig) (args : ConnectionArgs) (files : Config.Files) :
    (new config args files : Usage η).Orderly := by
  refine ⟨?_, ?_⟩
  · rintro n ⟨⟩
  · rintro p ⟨⟩

/-- **Everything that happens** keeps the calls in order. -/
theorem Orderly.act (h : u.Orderly) (ha : u.act a = some u') : u'.Orderly := by
  cases a with
  | call c =>
      obtain ⟨-, rfl⟩ := call_cases ha
      refine ⟨by cases c <;> exact h.known, ?_⟩
      rintro p ⟨⟩
      cases c <;> trivial
  | phase =>
      obtain ⟨p, t', told, progress, hp, hs, rfl⟩ := phase_cases ha
      obtain ⟨hknown, hnext⟩ := fits_step h.known (h.fits p hp) hs
      refine ⟨hknown, fun q hq => ?_⟩
      cases progress with
      | more next =>
          cases hq
          exact hnext _ rfl
      | done r => cases hq
  | drive n turn =>
      obtain ⟨r, hr, rfl⟩ := Option.map_eq_some_iff.mp ha
      obtain ⟨hs, -, hc⟩ := drive_struck hr
      have hl : r.1.connections.length = u.transport.connections.length := by
        rw [hs, struck, strike, List.length_modify]
      refine ⟨?_, fun p hp => (h.fits p hp).of_eq hc hl⟩
      intro k hk
      rw [hl]
      exact h.known k (hc ▸ hk)
  | room n b =>
      cases ha
      have hl := List.length_modify (fun c : Connection η => { c with room := b })
        (i := n) (l := u.transport.connections)
      refine ⟨?_, fun p hp => (h.fits p hp).of_eq rfl hl⟩
      intro k hk
      exact hl ▸ h.known k hk

end Usage

/-! ## Connections that are gone -/

/-- The connection that a call is giving up. -/
def Phase.givingUp? : Phase η → Option Nat
  | silence n _ | cancel n _ | drain n _ => some n
  | replace _ | start _ | beforeDisconnect | want _ | wanted _ | giveUp _ | disconnect _ | unwant _
  | beforeRequest _ | accepted _ _ | request _ _ => none

variable {n : Nat}

/-- A call touches the current connection, or the one that it is giving up. -/
lemma Phase.Fits.touched {p : Phase η} {u : Touch η} (h : p.Fits t) (ht : p.touch? = some (n, u)) :
    t.current = some n ∨ p.givingUp? = some n := by
  cases p with
  | silence m next | cancel m next | drain m next =>
      cases ht
      exact .inr rfl
  | want m | giveUp m | disconnect m | unwant m | request m r =>
      cases ht
      exact .inl h
  | replace next | start password | beforeDisconnect | wanted m | beforeRequest r
  | accepted m r => cases ht

/-- What a phase makes of the current connection, and of the one that its call is giving up. -/
lemma current_step {p : Phase η} {told : List (Told η)} {progress : Progress η}
    (h : t.step files p = (t', told, progress)) :
    (t'.current = t.current ∧
        ∀ q, progress = .more q → q.givingUp? = p.givingUp? ∨ q.givingUp? = none) ∨
      (∃ m next, t.current = some m ∧ t'.current = none ∧ progress = .more (.silence m next)) ∨
      (t'.current = some t.connections.length ∧ progress = .done (.ok ()) ∧
        ∃ password, p = .start password) := by
  have hnext : ∀ (next : Sequel) (q : Phase η), next.progress = .more q → q.givingUp? = none := by
    intro next q hq
    obtain ⟨password, rfl⟩ := start_of_progress hq
    rfl
  cases p with
  | replace next =>
      cases hc : t.current <;> simp only [Transport.step, hc] at h <;> cases h
      · exact .inl ⟨hc, fun q hq => .inr (hnext next q hq)⟩
      · exact .inr (.inl ⟨_, _, rfl, rfl, rfl⟩)
  | silence n next | cancel n next =>
      cases h
      refine .inl ⟨rfl, ?_⟩
      rintro q ⟨⟩
      exact .inl rfl
  | drain n next =>
      cases hc : t.connections[n]? <;> simp only [Transport.step, hc] at h <;> cases h <;>
        exact .inl ⟨rfl, fun q hq => .inr (hnext next q hq)⟩
  | start password =>
      simp only [Transport.step, Transport.start] at h
      split at h
      · split at h <;> cases h
        · exact .inl ⟨rfl, by rintro q ⟨⟩⟩
        · exact .inr (.inr ⟨rfl, rfl, _, rfl⟩)
      · cases h
        exact .inl ⟨rfl, by rintro q ⟨⟩⟩
  | beforeDisconnect | beforeRequest r =>
      cases hl : t.live? <;> simp only [Transport.step, hl] at h <;> cases h
      · exact .inl ⟨rfl, by rintro q ⟨⟩⟩
      · refine .inl ⟨rfl, ?_⟩
        rintro q ⟨⟩
        exact .inl rfl
  | want n =>
      cases h
      refine .inl ⟨rfl, ?_⟩
      rintro q ⟨⟩
      exact .inl rfl
  | giveUp n | unwant n =>
      cases h
      exact .inl ⟨rfl, by rintro q ⟨⟩⟩
  | wanted n | accepted n r =>
      cases h
      refine .inl ⟨rfl, fun q hq => .inl ?_⟩
      cases hup : (t.connections[n]?).any (·.up) <;> rw [hup] at hq <;> cases hq <;> rfl
  | disconnect n =>
      cases htakes : (t.connections[n]?).any (·.takes) <;>
        simp only [Transport.step, htakes] at h <;> cases h
      · refine .inl ⟨rfl, ?_⟩
        rintro q ⟨⟩
        exact .inl rfl
      · exact .inl ⟨rfl, by rintro q ⟨⟩⟩
  | request n r =>
      cases hc : t.connections[n]? with
      | none =>
          simp only [Transport.step, hc] at h
          cases h
          exact .inl ⟨rfl, by rintro q ⟨⟩⟩
      | some c =>
          simp only [Transport.step, hc] at h
          cases h
          refine .inl ⟨rfl, fun q hq => ?_⟩
          rw [submit] at hq
          split at hq <;> cases hq

namespace Usage

variable {u u' : Usage η} {a : Act η} {n : Nat}

/-- A connection that was started is not the current one any more. -/
structure Gone (u : Usage η) (n : Nat) : Prop where
  there : n < u.transport.connections.length
  current : u.transport.current ≠ some n

lemma length_le_act (h : u.act a = some u') :
    u.transport.connections.length ≤ u'.transport.connections.length := by
  rcases connections_act h with hs | ⟨-, hs⟩
  · rw [hs]
    cases u.stroke? a with
    | none => exact Nat.le_refl _
    | some r => exact Nat.le_of_eq (List.length_modify _ _ _).symm
  · rw [hs, List.length_append]
    exact Nat.le_add_right _ _

/-- **A connection that is gone** never comes back. -/
theorem Gone.act (h : u.Gone n) (ha : u.act a = some u') : u'.Gone n := by
  refine ⟨Nat.lt_of_lt_of_le h.there (length_le_act ha), ?_⟩
  cases a with
  | call c =>
      obtain ⟨-, rfl⟩ := call_cases ha
      cases c <;> exact h.current
  | phase =>
      obtain ⟨p, t', told, progress, -, hs, rfl⟩ := phase_cases ha
      rcases current_step hs with ⟨hc, -⟩ | ⟨m, next, -, hc, -⟩ | ⟨hc, -, -⟩
      · exact hc ▸ h.current
      · rw [hc]
        rintro ⟨⟩
      · rw [hc]
        intro he
        cases he
        exact Nat.lt_irrefl _ h.there
  | drive m turn =>
      obtain ⟨r, hr, rfl⟩ := Option.map_eq_some_iff.mp ha
      exact (drive_struck hr).2.2 ▸ h.current
  | room m b =>
      cases ha
      exact h.current

end Usage

end DeviceLink.Transport
