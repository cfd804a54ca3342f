import DeviceLink.Proofs.Transport.Audience
import DeviceLink.Proofs.Transport.Latch
import DeviceLink.Proofs.Transport.Silence

/-!
# Connections that do not start

A transport that is to connect gives up its current connection, and keeps the certificate that is
brought, before it looks whether another connection can be started at all.  Whether one can does not
depend on what is given up: so a call that fails could have changed nothing, but it has.

* `obstacle?` — what keeps a connection from being started.
* `Attempt`, `Attempt.note` — the record of one call.
* `ahead`, **`whole_of_step`** — what a call does to the connection that it gives up is a fixed list
  of touches, and every phase takes the first of those that are left.
* `Touch.Mark`, `Mark.stroke` — what these touches leave stays.
* `Usage.Attempting`, **`Usage.Attempting.act`** — a call that has not succeeded, wherever it is.
* **`Usage.givenUp_of_failed`** — what is left when a call fails.
-/

namespace DeviceLink.Transport

variable {η : Type}

/-! ## What keeps a connection from being started -/

/-- **What keeps a connection from being started**, if anything does: the settings, or what a client
is built from. -/
def obstacle? (config : TransportConfig) (files : Config.Files) (args : ConnectionArgs)
    (auth : Option ClientAuth) : Option BuildFault :=
  match config.problems files with
  | [] =>
    match ClientOptions.build config files args none auth with
    | .error fault => some fault
    | .ok _ => none
  | problems => some (.fault (.config problems))

/-- The password is not looked at. -/
lemma ClientOptions.build_eq_error {config : TransportConfig} {files : Config.Files}
    {args : ConnectionArgs} {password : Option String} {auth : Option ClientAuth}
    {fault : BuildFault} (other : Option String)
    (h : build config files args password auth = .error fault) :
    build config files args other auth = .error fault := by
  rw [build] at h ⊢
  by_cases hname : args.hostname = ""
  · rwa [if_pos hname] at h ⊢
  · rw [if_neg hname] at h ⊢
    cases hpanic : panic? config args with
    | some message => simpa only [hpanic] using h
    | none =>
        cases hchannel : channelFor config files args auth with
        | error other => simpa only [hpanic, hchannel] using h
        | ok channel =>
            simp only [hpanic, hchannel] at h
            cases h

variable {t t' : Transport η} {files : Config.Files}

/-- A connection starts, or there is an obstacle and nothing changes. -/
lemma start_cases (t : Transport η) (files : Config.Files) (password : Option String) :
    (t.start files password).2 = .ok () ∧ obstacle? t.config files t.args t.auth = none ∨
      ∃ fault, t.start files password = (t, .error fault) ∧
        obstacle? t.config files t.args t.auth = some fault := by
  rw [start, obstacle?]
  cases t.config.problems files with
  | cons problem rest => exact .inr ⟨_, rfl, rfl⟩
  | nil =>
      simp only
      cases hbuild : ClientOptions.build t.config files t.args password t.auth with
      | ok options =>
          refine .inl ⟨rfl, ?_⟩
          cases hother : ClientOptions.build t.config files t.args none t.auth with
          | ok other => rfl
          | error fault => cases hbuild.symm.trans (ClientOptions.build_eq_error password hother)
      | error fault =>
          rw [ClientOptions.build_eq_error none hbuild]
          exact .inr ⟨fault, rfl, rfl⟩

/-! ## What a call does to the connection that it gives up -/

/-- All that is done to a connection that is given up. -/
def givingUp (n : Nat) : List (Nat × Touch η) := [(n, .want false), (n, .cancel), (n, .drain)]

/-- What of it is left to do. -/
def ahead (t : Transport η) : Option (Phase η) → List (Nat × Touch η)
  | some (.replace _) => (t.current.map givingUp).getD []
  | some (.silence n _) => givingUp n
  | some (.cancel n _) => (givingUp n).drop 1
  | some (.drain n _) => (givingUp n).drop 2
  | some (.start _) | some .beforeDisconnect | some (.want _) | some (.wanted _) | some (.giveUp _)
  | some (.disconnect _) | some (.unwant _) | some (.beforeRequest _) | some (.accepted _ _)
  | some (.request _ _) | none => []

/-- A call that starts a connection has given up the current one, or is about to. -/
def Phase.Clears (t : Transport η) (p : Phase η) : Prop :=
  (∃ next, p = .replace next) ∨ t.current = none

/-- **Every phase of a call that starts a connection** takes the first of the touches that are left,
and changes nothing else; the last one starts the connection, or there is an obstacle. -/
theorem whole_of_step {p : Phase η} {password : Option String} (hp : p.password? = some password)
    (hclears : p.Clears t) {told : List (Told η)} {progress : Progress η}
    (h : t.step files p = (t', told, progress)) :
    progress = .done (.ok ()) ∨
      p.touch?.toList ++ ahead t' progress.phase? = ahead t (some p) ∧
      (∀ x ∈ told, x.2 = .error .connectionClosed) ∧ t'.config = t.config ∧ t'.args = t.args ∧
      t'.auth = t.auth ∧ t'.connections.length = t.connections.length ∧ t'.current = none ∧
      ((∃ q, progress = .more q ∧ q.password? = some password) ∨
        ∃ fault, progress = .done (.error fault) ∧
          obstacle? t.config files t.args t.auth = some fault) := by
  cases p with
  | replace next =>
      obtain rfl : next = .start password := by
        cases next <;> cases hp
        rfl
      cases hc : t.current <;> simp only [Transport.step, hc] at h <;> cases h
      · exact .inr ⟨by rw [ahead, hc]; rfl, List.forall_mem_nil _, rfl, rfl, rfl, rfl, hc,
          .inl ⟨_, rfl, rfl⟩⟩
      · exact .inr ⟨by rw [ahead, hc]; rfl, List.forall_mem_nil _, rfl, rfl, rfl, rfl, rfl,
          .inl ⟨_, rfl, rfl⟩⟩
  | silence n next | cancel n next =>
      have hnone : t.current = none := hclears.resolve_left (by rintro ⟨_, ⟨⟩⟩)
      cases h
      exact .inr ⟨rfl, List.forall_mem_nil _, rfl, rfl, rfl, List.length_modify _ _ _, hnone,
        .inl ⟨_, rfl, hp⟩⟩
  | drain n next =>
      have hnone : t.current = none := hclears.resolve_left (by rintro ⟨_, ⟨⟩⟩)
      obtain rfl : next = .start password := by
        cases next <;> cases hp
        rfl
      cases hc : t.connections[n]? <;> simp only [Transport.step, hc] at h <;> cases h
      · exact .inr ⟨rfl, List.forall_mem_nil _, rfl, rfl, rfl, rfl, hnone, .inl ⟨_, rfl, rfl⟩⟩
      · refine .inr ⟨rfl, ?_, rfl, rfl, rfl, List.length_modify _ _ _, hnone, .inl ⟨_, rfl, rfl⟩⟩
        rintro x hx
        obtain ⟨handler, -, rfl⟩ := List.mem_map.mp hx
        rfl
  | start password =>
      have hnone : t.current = none := hclears.resolve_left (by rintro ⟨_, ⟨⟩⟩)
      have hstep : t.step files (.start password)
          = ((t.start files password).1, [], .done (t.start files password).2) := rfl
      rw [hstep] at h
      rcases start_cases t files password with ⟨hok, -⟩ | ⟨fault, hfail, hobstacle⟩
      · rw [hok] at h
        cases h
        exact .inl rfl
      · rw [hfail] at h
        cases h
        exact .inr ⟨rfl, List.forall_mem_nil _, rfl, rfl, rfl, rfl, hnone,
          .inr ⟨fault, rfl, hobstacle⟩⟩
  | beforeDisconnect | want _ | wanted _ | giveUp _ | disconnect _ | unwant _ | beforeRequest _
  | accepted _ _ | request _ _ => cases hp

/-! ## What is left of it -/

/-- What a touch leaves, if nobody hands the client a request and nobody wants the end of the
connection. -/
def Touch.Mark : Touch η → Connection η → Prop
  | .want false, c => c.wanted = false
  | .cancel, c => c.cancelled = true
  | .drain, c => c.acks.waiting = []
  | .want true, _ | .leave, _ | .submit _, _ | .room _, _ => True

lemma Touch.mark_self (u : Touch η) (c : Connection η) : u.Mark (c.touch u).1 := by
  cases u with
  | want b => cases b <;> first | rfl | trivial
  | cancel | drain => rfl
  | leave | submit _ | room _ => trivial

/-- A stroke that nobody makes who uses the connection. -/
def Stroke.Apart (s : Stroke η) : Prop :=
  s ≠ .touch (.want true) ∧ ∀ r, s ≠ .touch (.submit r)

/-- A driver that is told to stop stays told so. -/
lemma Connection.cancelled_stroke {c c' : Connection η} {s : Stroke η} {effects : List (Effect η)}
    (h : c.stroke s = some (c', effects)) (hc : c.cancelled = true) : c'.cancelled = true := by
  cases s with
  | turn turn => cases turns_of_drive h <;> exact hc
  | touch u =>
      cases h
      cases u with
      | cancel => rfl
      | want b | drain | room b => exact hc
      | leave =>
          rw [touch]
          split <;> exact hc
      | submit r =>
          rw [touch, Transport.submit]
          split <;> exact hc

/-- **What a touch leaves, stays.** -/
lemma Touch.Mark.stroke {u : Touch η} {c c' : Connection η} {s : Stroke η}
    {effects : List (Effect η)} (hu : u.Mark c) (h : c.stroke s = some (c', effects))
    (hs : s.Apart) : u.Mark c' := by
  cases u with
  | want b =>
      cases b with
      | true => trivial
      | false => exact Connection.wanted_stroke h hu hs.1
  | cancel => exact Connection.cancelled_stroke h hu
  | drain =>
      refine List.eq_nil_iff_forall_not_mem.mpr fun x hx => ?_
      rcases Connection.told_of_stroke h (.inl hx) with hold | ⟨r, rfl, -⟩
      · rw [show c.acks.waiting = [] from hu] at hold
        cases hold
      · exact hs.2 r rfl
  | leave | submit _ | room _ => trivial

/-- What the touches of a call leave is there after another one, and so is what that one leaves. -/
lemma mark_of_struck {connections connections' : List (Connection η)}
    {stroke : Option (Nat × Stroke η)} (hs : connections' = struck connections stroke)
    (hapart : ∀ n s, stroke = some (n, s) → s.Apart) {n : Nat} {touch : Touch η}
    {c : Connection η}
    (hbefore : (∀ d, connections[n]? = some d → touch.Mark d) ∨ stroke = some (n, .touch touch))
    (hc : connections'[n]? = some c) : touch.Mark c := by
  subst hs
  cases stroke with
  | none => exact hbefore.elim (fun h => h c hc) (by rintro ⟨⟩)
  | some r =>
      obtain ⟨m, s⟩ := r
      rw [struck, strike, List.getElem?_modify] at hc
      obtain ⟨d, hd, he⟩ := Option.map_eq_some_iff.mp hc
      by_cases hm : m = n
      · subst hm
        rw [if_pos rfl] at he
        rcases hbefore with hbefore | hstroke
        · cases hstroke : d.stroke s with
          | none =>
              rw [hstroke] at he
              exact he ▸ hbefore d hd
          | some r =>
              rw [hstroke] at he
              cases (he : r.1 = c)
              exact (hbefore d hd).stroke hstroke (hapart m s rfl)
        · cases hstroke
          exact he ▸ touch.mark_self d
      · rw [if_neg hm] at he
        refine hbefore.elim (fun h => he ▸ h d hd) fun hstroke => ?_
        cases hstroke
        exact (hm rfl).elim

/-- A call that starts a connection uses none. -/
lemma Phase.apart_of_password {p : Phase η} {password : Option String}
    (hp : p.password? = some password) : ∀ n s, p.stroke? = some (n, s) → s.Apart := by
  intro n s hs
  cases p with
  | silence m next | cancel m next | drain m next =>
      cases hs
      exact ⟨by rintro ⟨⟩, by rintro r ⟨⟩⟩
  | replace _ | start _ => cases hs
  | beforeDisconnect | want _ | wanted _ | giveUp _ | disconnect _ | unwant _ | beforeRequest _
  | accepted _ _ | request _ _ => cases hp

/-! ## The record of a call -/

/-- What one call has done: what it came to, and what it did to connections and told handlers. -/
structure Attempt (η : Type) where
  touches : List (Nat × Touch η) := []
  told : List (Told η) := []
  result : Option CallResult := none

/-- What the observer writes down when something happens. -/
def Attempt.note (u : Usage η) (a : Act η) (g : Attempt η) : Attempt η :=
  match a, u.underway with
  | .phase, some p =>
    { touches := g.touches ++ p.touch?.toList
      told := g.told ++ (u.transport.step u.files p).2.1
      result := (u.transport.step u.files p).2.2.result? }
  | .phase, none | .call _, _ | .drive _ _, _ | .room _ _, _ => g

/-- The password of a call that starts a connection. -/
def Call.password? : Call η → Option (Option String)
  | connect password _ | reconnect password => some password
  | disconnect | publish _ _ _ | subscribe _ _ | unsubscribe _ _ | quit => none

/-- The certificate that a transport presents once a call has begun. -/
def Call.presents (kept : Option ClientAuth) : Call η → Option ClientAuth
  | connect _ auth => auth
  | reconnect _ | disconnect | publish _ _ _ | subscribe _ _ | unsubscribe _ _ | quit => kept

namespace Usage

/-- **A call that starts a connection, and has not succeeded.** -/
structure Attempting (u u₀ : Usage η) (auth : Option ClientAuth) (password : Option String)
    (g : Attempt η) : Prop where
  files : u.files = u₀.files
  config : u.transport.config = u₀.transport.config
  args : u.transport.args = u₀.transport.args
  keeps : u.transport.auth = auth
  count : u.transport.connections.length = u₀.transport.connections.length
  whole : g.touches ++ ahead u.transport u.underway = (u₀.transport.current.map givingUp).getD []
  marked : ∀ n touch c, (n, touch) ∈ g.touches → u.transport.connections[n]? = some c →
    touch.Mark c
  closed : ∀ x ∈ g.told, x.2 = .error .connectionClosed
  place : (∃ p, u.underway = some p ∧ p.password? = some password ∧ p.Clears u.transport ∧
      g.result = none) ∨
    (u.underway = none ∧ u.transport.current = none ∧ ∃ fault, g.result = some (.error fault) ∧
      obstacle? u₀.transport.config u₀.files u₀.transport.args auth = some fault)

/-- The call has succeeded. -/
def Succeeded (u : Usage η) (g : Attempt η) : Prop :=
  g.result = some (.ok ()) ∧ u.underway = none

variable {u₀ u u' : Usage η} {auth : Option ClientAuth} {password : Option String} {a : Act η}
  {g : Attempt η}

/-- The call does its next phase. -/
lemma Attempting.phase (h : u.Attempting u₀ auth password g) (ha : u.act .phase = some u') :
    u'.Succeeded (g.note u .phase) ∨ u'.Attempting u₀ auth password (g.note u .phase) := by
  have hstruck := connections_act ha
  obtain ⟨p, t', told, progress, hp, hs, rfl⟩ := phase_cases ha
  have hnote : g.note u .phase
      = ⟨g.touches ++ p.touch?.toList, g.told ++ told, progress.result?⟩ := by
    simp only [Attempt.note, hp, hs]
  rw [hnote]
  obtain ⟨q, hq, hpassword, hclears, -⟩ : ∃ p, u.underway = some p ∧ p.password? = some password ∧
      p.Clears u.transport ∧ g.result = none :=
    h.place.resolve_right (by rintro ⟨hnone, -⟩; cases hp.symm.trans hnone)
  cases hp.symm.trans hq
  rcases whole_of_step hpassword hclears hs with
    rfl | ⟨hwhole, hclosed, hconfig, hargs, hauth, hcount, hcurrent, hnext⟩
  · exact .inl ⟨rfl, rfl⟩
  · have hconnections : t'.connections = struck u.transport.connections p.stroke? := by
      rcases hstruck with hstruck | ⟨-, hmore⟩
      · rwa [stroke?, hp, Option.bind_some] at hstruck
      · have hlonger := congrArg List.length hmore
        rw [List.length_append, hcount] at hlonger
        exact absurd hlonger (Nat.ne_of_lt (Nat.lt_succ_self _))
    refine .inr ⟨h.files, hconfig.trans h.config, hargs.trans h.args, hauth.trans h.keeps,
      hcount.trans h.count, ?_, ?_, ?_, ?_⟩
    · rw [← h.whole, hp, List.append_assoc, hwhole]
    · intro n touch c hmem hc
      refine mark_of_struck hconnections (Phase.apart_of_password hpassword) ?_ hc
      rcases List.mem_append.mp hmem with hmem | hmem
      · exact .inl fun d => h.marked n touch d hmem
      · refine .inr ?_
        rw [Phase.stroke?, Option.mem_toList.mp hmem]
        rfl
    · intro x hx
      exact (List.mem_append.mp hx).elim (h.closed x) (hclosed x)
    · rcases hnext with ⟨q, rfl, hq⟩ | ⟨fault, rfl, hobstacle⟩
      · exact .inl ⟨q, rfl, hq, .inr hcurrent, rfl⟩
      · refine .inr ⟨rfl, hcurrent, fault, rfl, ?_⟩
        rwa [h.config, h.files, h.args, h.keeps] at hobstacle

/-- A driver's turn changes its connection, and nothing else. -/
lemma exists_modify_of_drive {t t' : Transport η} {n : Nat} {turn : DriverTurn}
    {effects : List (Effect η)} (h : t.drive n turn = some (t', effects)) :
    ∃ f, t' = t.modify n f := by
  rw [Transport.drive] at h
  cases hc : t.connections[n]? with
  | none =>
      simp only [hc] at h
      cases h
  | some c =>
      simp only [hc] at h
      obtain ⟨r, -, he⟩ := Option.map_eq_some_iff.mp h
      cases he
      exact ⟨_, rfl⟩

/-- **Everything that happens** while a call that starts a connection is under way. -/
theorem Attempting.act (h : u.Attempting u₀ auth password g) (ha : u.act a = some u')
    (hcall : ∀ c, a ≠ .call c) :
    u'.Succeeded (g.note u a) ∨ u'.Attempting u₀ auth password (g.note u a) := by
  have hothers : ∀ (stroke : Nat × Stroke η) {t' : Transport η}, stroke.2.Apart →
      t'.connections = struck u.transport.connections (some stroke) →
      t'.config = u.transport.config → t'.args = u.transport.args →
      t'.auth = u.transport.auth → t'.current = u.transport.current →
      Attempting { u with transport := t' } u₀ auth password g := by
    intro stroke t' hapart hstruck hconfig hargs hauth hcurrent
    refine ⟨h.files, hconfig.trans h.config, hargs.trans h.args, hauth.trans h.keeps, ?_, ?_, ?_,
      h.closed, ?_⟩
    · rw [hstruck, struck, strike, List.length_modify]
      exact h.count
    · have hsame : ahead t' u.underway = ahead u.transport u.underway := by
        cases u.underway with
        | none => rfl
        | some p => cases p <;> first | rfl | rw [ahead, ahead, hcurrent]
      rw [hsame]
      exact h.whole
    · intro n touch c hmem hc
      refine mark_of_struck hstruck ?_ (.inl fun d => h.marked n touch d hmem) hc
      rintro m s ⟨⟩
      exact hapart
    · rw [hcurrent]
      refine h.place.imp_left ?_
      rintro ⟨p, hp, hpassword, hclears, hresult⟩
      exact ⟨p, hp, hpassword, hclears.imp_right hcurrent.trans, hresult⟩
  cases a with
  | call c => exact (hcall c rfl).elim
  | phase => exact h.phase ha
  | drive n turn =>
      obtain ⟨⟨t', effects⟩, hr, rfl⟩ := Option.map_eq_some_iff.mp ha
      obtain ⟨f, rfl⟩ := exists_modify_of_drive hr
      exact .inr (hothers (n, .turn turn) ⟨by rintro ⟨⟩, by rintro r ⟨⟩⟩
        (drive_struck hr).1 rfl rfl rfl rfl)
  | room n b =>
      cases ha
      refine .inr (hothers (n, .touch (.room b)) ⟨by rintro ⟨⟩, by rintro r ⟨⟩⟩
        (struck_touch (u := .room b) (fun c _ => ⟨rfl, rfl⟩) fun _ => rfl).1 rfl rfl rfl rfl)

/-- A call that starts a connection begins. -/
lemma attempting_begin {c : Call η} (hc : c.password? = some password)
    (ha : u.act (.call c) = some u') :
    u'.Attempting u (c.presents u.transport.auth) password {} := by
  obtain ⟨-, rfl⟩ := call_cases ha
  cases c with
  | connect p cert | reconnect p =>
      cases hc
      exact ⟨rfl, rfl, rfl, rfl, rfl, rfl, fun n touch d hmem => (List.not_mem_nil hmem).elim,
        List.forall_mem_nil _, .inl ⟨_, rfl, rfl, .inl ⟨_, rfl⟩, rfl⟩⟩
  | disconnect | publish _ _ _ | subscribe _ _ | unsubscribe _ _ | quit => cases hc

/-- Nothing more is done for a call that has succeeded. -/
lemma Succeeded.act (h : u.Succeeded g) (ha : u.act a = some u') (hcall : ∀ c, a ≠ .call c) :
    u'.Succeeded (g.note u a) := by
  cases a with
  | call c => exact (hcall c rfl).elim
  | phase =>
      obtain ⟨p, t', told, progress, hp, -⟩ := phase_cases ha
      cases h.2.symm.trans hp
  | drive n turn =>
      obtain ⟨r, -, rfl⟩ := Option.map_eq_some_iff.mp ha
      exact h
  | room n b =>
      cases ha
      exact h

/-- A call that starts a connection, after any number of things that have happened. -/
lemma attempting_run {acts : List (Act η)} (hacts : ∀ a ∈ acts, ∀ other, a ≠ .call other)
    (h : u.Succeeded g ∨ u.Attempting u₀ auth password g) :
    (run Attempt.note (u, g) acts).1.Succeeded (run Attempt.note (u, g) acts).2 ∨
      (run Attempt.note (u, g) acts).1.Attempting u₀ auth password
        (run Attempt.note (u, g) acts).2 := by
  refine runWith_induction (fun (u : Usage η) (g : Attempt η) =>
    u.Succeeded g ∨ u.Attempting u₀ auth password g) ?_ h
  rintro a hmem u g next (h | h) ha
  · exact .inl (h.act ha (hacts a hmem))
  · exact h.act ha (hacts a hmem)

/-- **A call that starts a connection and fails has given up the current one**, whatever drivers and
clients do meanwhile, and whatever the reason is: that can be told beforehand from the settings, the
arguments, the files and the certificate.  The connection of before is current no more, its driver
is told to stop, nobody will be told of its end, and none of its handlers is left, since each was
told that the connection is closed; and the certificate that was brought is kept.  So the call has
changed nothing just when there was no connection, and no other certificate was brought. -/
theorem givenUp_of_failed (hidle : u.underway = none) {c : Call η}
    (hc : c.password? = some password) {acts : List (Act η)}
    (hacts : ∀ a ∈ acts, ∀ other, a ≠ .call other)
    (hrun : run Attempt.note (u, {}) (.call c :: acts) = (u', g))
    {fault : BuildFault} (hfailed : g.result = some (.error fault)) :
    obstacle? u.transport.config u.files u.transport.args (c.presents u.transport.auth)
        = some fault ∧
      u'.underway = none ∧ u'.transport.current = none ∧
      u'.transport.auth = c.presents u.transport.auth ∧
      u'.transport.connections.length = u.transport.connections.length ∧
      g.touches = (u.transport.current.map givingUp).getD [] ∧
      (∀ x ∈ g.told, x.2 = .error .connectionClosed) ∧
      (∀ n k, u.transport.current = some n → u'.transport.connections[n]? = some k →
        k.cancelled = true ∧ k.wanted = false ∧ k.acks.waiting = []) ∧
      ((u'.transport.current = u.transport.current ∧ u'.transport.auth = u.transport.auth ∧
          g.touches = []) ↔
        u.transport.current = none ∧ c.presents u.transport.auth = u.transport.auth) := by
  obtain ⟨u₁, hbegun⟩ : ∃ u₁, u.act (.call c) = some u₁ := by
    rw [act, hidle]
    exact ⟨_, rfl⟩
  have hattempt := attempting_run hacts (.inr (attempting_begin hc hbegun))
  have hrest : run Attempt.note (u₁, {}) acts = (u', g) := by
    rw [← hrun, run, runWith_cons_of_some hbegun]
    rfl
  rw [hrest] at hattempt
  rcases hattempt with hok | h
  · cases hfailed.symm.trans hok.1
  · obtain ⟨hdone, hcurrent, other, hresult, hobstacle⟩ : u'.underway = none ∧
        u'.transport.current = none ∧ ∃ fault, g.result = some (.error fault) ∧
          obstacle? u.transport.config u.files u.transport.args (c.presents u.transport.auth)
            = some fault := by
      refine h.place.resolve_left ?_
      rintro ⟨p, -, -, -, hnone⟩
      cases hnone.symm.trans hfailed
    cases hresult.symm.trans hfailed
    have htouches : g.touches = (u.transport.current.map givingUp).getD [] := by
      have hwhole := h.whole
      rw [hdone] at hwhole
      exact (List.append_nil _).symm.trans hwhole
    refine ⟨hobstacle, hdone, hcurrent, h.keeps, h.count, htouches, h.closed, ?_, ?_⟩
    · intro n k hn hk
      rw [hn] at htouches
      have hmark : ∀ touch, (n, touch) ∈ givingUp n → touch.Mark k := fun touch ht =>
        h.marked n touch k (htouches ▸ ht) hk
      exact ⟨hmark .cancel (by simp [givingUp]), hmark (.want false) (by simp [givingUp]),
        hmark .drain (by simp [givingUp])⟩
    · rw [hcurrent, h.keeps, htouches]
      constructor
      · rintro ⟨hsame, hauth, -⟩
        exact ⟨hsame.symm, hauth⟩
      · rintro ⟨hnone, hauth⟩
        exact ⟨hnone.symm, hauth, by rw [hnone]; rfl⟩

/-- A connection that is not secured comes up, and a request waits for its acknowledgement. -/
def serving : List (Act Nat) :=
  [.call (.connect none none), .phase, .phase, .drive 0 (.wake (.event .acceptance)),
    .drive 0 .advance, .drive 0 .advance, .call (.publish "t" [] 7), .phase, .phase, .phase]

/-- The owner connects with a certificate, which a connection that is not secured cannot show; the
driver of the connection of before has a turn meanwhile. -/
def upgrading : List (Act Nat) :=
  [.phase, .phase, .phase, .drive 0 (.wake .cancellation), .phase, .phase]

def certified : Call Nat := .connect none (some ⟨[1], [2]⟩)

def unshown : BuildFault := ClientOptions.setup "a client certificate requires TLS to be enabled"

lemma upgrading_ends :
    let u := (run Attempt.note (unsecured, {}) serving).1
    let p := run Attempt.note (u, {}) (.call certified :: upgrading)
    u.underway = none ∧ u.transport.current = some 0 ∧ u.transport.auth = none ∧
      p.2.result = some (.error unshown) ∧ p.2.told.map Prod.fst = [7] ∧
      (∀ a ∈ upgrading, ∀ other, a ≠ .call other) := by
  refine ⟨rfl, rfl, rfl, rfl, rfl, ?_⟩
  rintro a ha other rfl
  simp [upgrading] at ha

/-- The call has failed, the connection of before is given up, and the certificate is kept. -/
theorem givenUp_of_upgrading :
    let u := (run Attempt.note (unsecured, {}) serving).1
    let p := run Attempt.note (u, {}) (.call certified :: upgrading)
    u.underway = none ∧ certified.password? = some none ∧
      (∀ a ∈ upgrading, ∀ other, a ≠ .call other) ∧ p.2.result = some (.error unshown) ∧
      obstacle? u.transport.config u.files u.transport.args (some ⟨[1], [2]⟩) = some unshown ∧
      p.1.transport.current = none ∧ p.1.transport.auth = some ⟨[1], [2]⟩ ∧
      p.2.touches = givingUp 0 ∧
      (∀ k, p.1.transport.connections[0]? = some k →
        k.cancelled = true ∧ k.wanted = false ∧ k.acks.waiting = []) := by
  obtain ⟨hidle, hcurrent, -, hfailed, -, hacts⟩ := upgrading_ends
  obtain ⟨hobstacle, -, hnone, hauth, -, htouches, -, hgone, -⟩ :=
    givenUp_of_failed hidle (rfl : certified.password? = some none) hacts (Prod.eta _).symm hfailed
  refine ⟨hidle, rfl, hacts, hfailed, hobstacle, hnone, hauth, ?_, fun k => hgone 0 k hcurrent⟩
  rw [htouches, hcurrent]
  rfl

/-- **A call to connect that fails has changed the transport**: a connection that was up is given
up, its handler is told so, and the certificate is another one. -/
theorem failed_start_changes :
    ¬ ∀ (acts : List (Act Nat)) (c : Call Nat) (t' : Transport Nat) (told : List (Told Nat))
      (fault : Fault), let u := (run Attempt.note (unsecured, {}) acts).1
      u.underway = none → c.password?.isSome →
      u.transport.finish u.files c = (t', told, .error (.fault fault)) →
        t'.current = u.transport.current ∨ told = [] ∨ t'.auth = u.transport.auth := by
  intro h
  rcases h serving certified _ _ _ rfl rfl rfl with hcurrent | htold | hauth
  · cases hcurrent
  · cases htold
  · cases hauth

end Usage

end DeviceLink.Transport
