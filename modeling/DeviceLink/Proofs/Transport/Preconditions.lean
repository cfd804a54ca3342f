import DeviceLink.Proofs.Transport.Setback

/-!
# What the client presupposes

A client panics when it is set up with what it does not allow.  Settings that keep the rules satisfy
all that it asks of them alone; but whether a client without a name may be asked for a session that
lasts depends on the arguments as well, and nobody checks that.

* `Setter`, `Setter.Refuses` — the setters that have a precondition, and when it is broken.
* **`ClientOptions.build_panics_iff`** — building panics just when a setter refuses.
* `Unnamed`, **`ClientOptions.build_panics_iff_unnamed`** — what is left of that under settings that
  keep the rules.
* **`Transport.ends_cases`** — nothing panics but the start of a connection.
* **`Transport.finish_panics_iff`** — when a whole call panics that starts one.
* **`Transports.panics_iff`**, **`Transports.panicked_step`** — when a call of a session panics, and
  what it leaves.
* `Transports.Furnished` — all sessions have the settings that the link was built with.
-/

namespace DeviceLink

namespace Transport

/-! ## Building a client -/

/-- A setter of the client's options that has a precondition. -/
inductive Setter where
  | cleanSession
  | inflight
  | keepAlive
  deriving DecidableEq, Repr

/-- The time without traffic after which the client speaks up, in nanoseconds. -/
def patience (config : TransportConfig) : Nat := config.keepAlive.toNat * 1000000000

/-- **A setter refuses what it is given:** a session that lasts for a client without a name, nothing
in flight, or a fraction of a second. -/
def Setter.Refuses (config : TransportConfig) (args : ConnectionArgs) : Setter → Prop
  | cleanSession => args.clientId = "" ∧ config.cleanSession = false
  | inflight => config.maxInflight = 0
  | keepAlive => 0 < patience config ∧ patience config < 1000000000

variable {config : TransportConfig} {files : Config.Files} {args : ConnectionArgs}
  {password : Option String} {auth : Option ClientAuth} {message : String}

/-- Whole seconds are never refused. -/
lemma not_refuses_keepAlive : ¬ Setter.keepAlive.Refuses config args := by
  rintro ⟨hpos, hlt⟩
  rw [patience] at hpos hlt
  omega

/-- The client panics just when a setter refuses. -/
lemma ClientOptions.panics_iff :
    (∃ message, panic? config args = some message) ↔
      ∃ setter : Setter, setter.Refuses config args := by
  rw [panic?]
  constructor
  · rintro ⟨message, h⟩
    split_ifs at h with hname hinflight
    · exact ⟨.cleanSession, hname⟩
    · exact ⟨.inflight, hinflight⟩
  · rintro ⟨setter, h⟩
    cases setter with
    | cleanSession => exact ⟨_, if_pos h⟩
    | inflight =>
        by_cases hname : args.clientId = "" ∧ config.cleanSession = false
        · exact ⟨_, if_pos hname⟩
        · exact ⟨_, (if_neg hname).trans (if_pos h)⟩
    | keepAlive => exact (not_refuses_keepAlive h).elim

lemma ClientOptions.build_eq_panic_iff :
    build config files args password auth = .error (.panic message) ↔
      args.hostname ≠ "" ∧ panic? config args = some message := by
  have hauthorities : ∀ {fault}, authorities config files args = .error fault →
      fault ≠ .panic message := by
    intro fault h
    rw [authorities] at h
    split at h
    · cases h
    · cases h
    · split at h <;> cases h
      rintro ⟨⟩
  have hchannel : channelFor config files args auth ≠ .error (.panic message) := by
    intro h
    rw [channelFor] at h
    split_ifs at h
    · split at h
      · next fault hfault =>
          cases h
          exact hauthorities hfault rfl
      · next ca hca => cases ca <;> cases auth <;> cases h
    · cases h
  rw [build]
  by_cases hname : args.hostname = ""
  · rw [if_pos hname]
    exact iff_of_false (by rintro ⟨⟩) fun h => h.1 hname
  · rw [if_neg hname]
    cases hpanic : panic? config args with
    | some other => simp [hname]
    | none =>
        cases hc : channelFor config files args auth with
        | error fault => simp [show fault ≠ .panic message from fun he => hchannel (he ▸ hc)]
        | ok channel => simp

/-- **Building a client panics** just when a setter refuses, unless there is nobody to connect
to. -/
theorem ClientOptions.build_panics_iff :
    (∃ message, build config files args password auth = .error (.panic message)) ↔
      args.hostname ≠ "" ∧ ∃ setter : Setter, setter.Refuses config args := by
  simp only [build_eq_panic_iff, exists_and_left, panics_iff]

/-! ## Settings that keep the rules -/

/-- A client without a name is asked for a session that lasts. -/
def Unnamed (config : TransportConfig) (args : ConnectionArgs) : Prop :=
  args.hostname ≠ "" ∧ args.clientId = "" ∧ config.cleanSession = false

/-- Settings that keep the rules allow something in flight. -/
lemma maxInflight_ne_zero (h : config.problems files = []) : config.maxInflight ≠ 0 := by
  intro hzero
  simp [TransportConfig.problems, Config.checkRange, hzero] at h

/-- The rules leave one setter that may refuse. -/
lemma eq_cleanSession_of_refuses (h : config.problems files = []) {setter : Setter}
    (hrefuses : setter.Refuses config args) : setter = .cleanSession := by
  cases setter with
  | cleanSession => rfl
  | inflight => exact (maxInflight_ne_zero h hrefuses).elim
  | keepAlive => exact (not_refuses_keepAlive hrefuses).elim

/-- **Under settings that keep the rules**, building a client panics just when it has no name and is
asked for a session that lasts. -/
theorem ClientOptions.build_panics_iff_unnamed (h : config.problems files = []) :
    (∃ message, build config files args password auth = .error (.panic message)) ↔
      Unnamed config args := by
  rw [build_panics_iff, Unnamed]
  refine and_congr_right fun _ => ⟨?_, fun hname => ⟨.cleanSession, hname⟩⟩
  rintro ⟨setter, hrefuses⟩
  cases eq_cleanSession_of_refuses h hrefuses
  exact hrefuses

/-- **Settings that keep the rules do not suffice**: with those that a link has by itself, a client
without a name cannot be built. -/
theorem ClientOptions.panics_by_default :
    ¬ ∀ (config : TransportConfig) (files : Config.Files) (args : ConnectionArgs)
      (password : Option String) (auth : Option ClientAuth), config.problems files = [] →
        ∀ message, build config files args password auth ≠ .error (.panic message) := by
  intro h
  exact h {} (fun _ => .absent) ⟨"hub", "device", "", none⟩ none none rfl _ rfl

/-- What keeps a connection from being started is a panic just then, under settings that keep the
rules. -/
lemma obstacle?_eq_panic_iff (auth : Option ClientAuth) :
    (∃ message, obstacle? config files args auth = some (.panic message)) ↔
      config.problems files = [] ∧ Unnamed config args := by
  rw [obstacle?]
  cases hp : config.problems files with
  | cons problem rest => simp
  | nil =>
      rw [← ClientOptions.build_panics_iff_unnamed hp]
      cases ClientOptions.build config files args none auth <;> simp

lemma panic?_of_obstacle? (h : obstacle? config files args auth = some (.panic message)) :
    ClientOptions.panic? config args = some message := by
  rw [obstacle?] at h
  split at h
  · cases hbuild : ClientOptions.build config files args none auth with
    | ok options =>
        rw [hbuild] at h
        cases h
    | error fault =>
        rw [hbuild] at h
        cases h
        exact (ClientOptions.build_eq_panic_iff.mp hbuild).2
  · cases h

/-! ## Calls of a transport -/

variable {η : Type} {t t' : Transport η} {p : Phase η} {told : List (Told η)} {r : CallResult}

/-- **How a call ends:** where it starts a connection, or with a fault at most. -/
theorem ends_cases (h : t.step files p = (t', told, .done r)) :
    (∃ password, p = .start password ∧ told = [] ∧ t.start files password = (t', r)) ∨
      p.starts = false ∧ ∀ message, r ≠ .error (.panic message) := by
  cases p with
  | start password =>
      cases h
      exact .inl ⟨password, rfl, rfl, rfl⟩
  | replace next =>
      cases hc : t.current <;> simp only [Transport.step, hc] at h <;> cases next <;> cases h
      exact .inr ⟨rfl, by rintro message ⟨⟩⟩
  | drain n next =>
      cases hc : t.connections[n]? <;> simp only [Transport.step, hc] at h <;> cases next <;>
        cases h <;> exact .inr ⟨rfl, by rintro message ⟨⟩⟩
  | silence _ _ | cancel _ _ | want _ | wanted _ => cases h
  | beforeDisconnect | beforeRequest _ =>
      cases hl : t.live? <;> simp only [Transport.step, hl] at h <;> cases h
      exact .inr ⟨rfl, by rintro message ⟨⟩⟩
  | giveUp _ | unwant _ =>
      cases h
      exact .inr ⟨rfl, by rintro message ⟨⟩⟩
  | disconnect n =>
      cases htakes : (t.connections[n]?).any (·.takes) <;>
        simp only [Transport.step, htakes] at h <;> cases h
      exact .inr ⟨rfl, by rintro message ⟨⟩⟩
  | accepted n r =>
      cases hup : (t.connections[n]?).any (·.up) <;> simp only [Transport.step, hup] at h <;>
        cases h
      exact .inr ⟨rfl, by rintro message ⟨⟩⟩
  | request n r =>
      cases hc : t.connections[n]? with
      | none =>
          simp only [Transport.step, hc] at h
          cases h
          exact .inr ⟨rfl, by rintro message ⟨⟩⟩
      | some c =>
          simp only [Transport.step, hc] at h
          cases htakes : c.takes with
          | true =>
              rw [submit_of_takes htakes] at h
              cases h
              exact .inr ⟨rfl, by rintro message ⟨⟩⟩
          | false =>
              rw [submit_of_busy htakes] at h
              cases h
              exact .inr ⟨rfl, by rintro message ⟨⟩⟩

/-- A phase leaves settings and arguments. -/
lemma settings_step (t : Transport η) (files : Config.Files) (p : Phase η) :
    (t.step files p).1.config = t.config ∧ (t.step files p).1.args = t.args := by
  have hstart : ∀ password, (t.start files password).1.config = t.config ∧
      (t.start files password).1.args = t.args := by
    intro password
    rw [start]
    split
    · split <;> exact ⟨rfl, rfl⟩
    · exact ⟨rfl, rfl⟩
  cases p with
  | start password => exact hstart password
  | replace _ | drain _ _ | beforeDisconnect | disconnect _ | beforeRequest _ | request _ _ =>
      simp only [step]
      split <;> exact ⟨rfl, rfl⟩
  | silence _ _ | cancel _ _ | want _ | wanted _ | giveUp _ | unwant _ | accepted _ _ =>
      exact ⟨rfl, rfl⟩

lemma config_steps (t : Transport η) (files : Config.Files) (p : Phase η) (count : Nat) :
    (t.steps files p count).1.config = t.config := by
  induction count generalizing t p with
  | zero => rfl
  | succ count ih =>
      have hstep := (t.settings_step files p).1
      rw [steps]
      rcases hs : t.step files p with ⟨t', told, q | r⟩ <;> rw [hs] at hstep
      · exact (ih t' q).trans hstep
      · exact hstep

lemma settings_begin (t : Transport η) (c : Call η) :
    (t.begin c).1.config = t.config ∧ (t.begin c).1.args = t.args := by
  cases c <;> exact ⟨rfl, rfl⟩

/-- The start of a connection panics just when the settings keep the rules and a client without a
name is asked for a session that lasts. -/
lemma start_panics_iff (t : Transport η) (files : Config.Files) (password : Option String) :
    (∃ message, (t.start files password).2 = .error (.panic message)) ↔
      t.config.problems files = [] ∧ Unnamed t.config t.args := by
  rw [← obstacle?_eq_panic_iff t.auth]
  rcases start_cases t files password with ⟨hok, hfree⟩ | ⟨fault, hfail, hobstacle⟩
  · rw [hok, hfree]
    exact iff_of_false (by rintro ⟨message, ⟨⟩⟩) (by rintro ⟨message, ⟨⟩⟩)
  · simp [hfail, hobstacle]

lemma Phase.starts_of_password {password : Option String} (hp : p.password? = some password) :
    p.starts = true := by
  cases p with
  | start _ => rfl
  | replace next | silence _ next | cancel _ next | drain _ next =>
      cases next with
      | start _ => rfl
      | nothing => cases hp
  | beforeDisconnect | want _ | wanted _ | giveUp _ | disconnect _ | unwant _ | beforeRequest _
  | accepted _ _ | request _ _ => cases hp

/-- Whatever comes before the start of a connection makes no difference to that. -/
lemma steps_panic_iff (t : Transport η) (files : Config.Files) {password : Option String}
    (hp : p.password? = some password) {count : Nat} (hcount : p.left ≤ count) :
    (∃ message, (t.steps files p count).2.2.result = .error (.panic message)) ↔
      t.config.problems files = [] ∧ Unnamed t.config t.args := by
  induction count generalizing t p with
  | zero => cases p <;> cases hcount
  | succ count ih =>
      obtain ⟨hconfig, hargs⟩ := t.settings_step files p
      rw [steps]
      rcases hs : t.step files p with ⟨t', told, q | r⟩ <;> rw [hs] at hconfig hargs
      · have hleft := left_step hs
        have hrest := ih t' (((auth_step hs).2 q rfl).trans hp) (by omega)
        rwa [hconfig, hargs] at hrest
      · rcases ends_cases hs with ⟨other, rfl, -, hstart⟩ | ⟨hstarts, -⟩
        · have hpanics := t.start_panics_iff files other
          rwa [hstart] at hpanics
        · rw [Phase.starts_of_password hp] at hstarts
          cases hstarts

/-- **A whole call that starts a connection panics** just when the settings keep the rules and a
client without a name is asked for a session that lasts. -/
theorem finish_panics_iff (t : Transport η) (files : Config.Files) {c : Call η}
    {password : Option String} (hc : c.password? = some password) :
    (∃ message, (t.finish files c).2.2 = .error (.panic message)) ↔
      t.config.problems files = [] ∧ Unnamed t.config t.args := by
  obtain ⟨hconfig, hargs⟩ := t.settings_begin c
  have hbegin : (t.begin c).2.password? = some password := by
    cases c <;> cases hc <;> rfl
  have hsteps := (t.begin c).1.steps_panic_iff files hbegin (le_refl _)
  rwa [hconfig, hargs] at hsteps

end Transport

/-! ## Calls of a session -/

namespace Transports

open Transport

variable {w w' : Transports} {s : SessionId} {c : SessionCall} {answer : Answer}
  {reports : List Report} {message : String}

lemma answerOf_eq_panicked_iff {r : CallResult} :
    answerOf r = .panicked message ↔ r = .error (.panic message) := by
  rcases r with (_ | _) | _ <;> simp [answerOf]

/-- Where a call starts a connection, it has begun before. -/
lemma underway_of_start {t t₀ : Transport Nat} {password : Option String}
    (h : w.underway = some (.start password) ∧ t₀ = t ∨
      w.underway = none ∧ t.begin (callOf c) = (t₀, .start password)) :
    w.underway = some (.start password) ∧ t₀ = t := by
  refine h.resolve_right ?_
  rintro ⟨-, hbegin⟩
  cases c <;> cases hbegin

/-- **A call of a session panics** just when it is to start a connection, the settings keep the
rules, and a client without a name is asked for a session that lasts. -/
theorem panics_iff (hdue : w.Due s c) {a : Option Answer} (h : Steps w s c a reports w')
    (ha : a = some answer) :
    (∃ message, answer = .panicked message) ↔
      c.starts ∧ ∃ t, w.sessions[s]? = some t ∧ t.config.problems w.files = [] ∧
        Unnamed t.config t.args := by
  cases h with
  | missing hnone =>
      cases ha
      refine iff_of_false (by rintro ⟨message, ⟨⟩⟩) ?_
      rintro ⟨-, t, hs, -⟩
      cases hnone.symm.trans hs
  | @phase t t₀ t' p told progress hs hbegun hstep =>
      cases progress with
      | more q => cases ha
      | done r =>
          cases ha
          simp only [answerOf_eq_panicked_iff]
          rcases ends_cases hstep with ⟨password, rfl, -, hstart⟩ | ⟨hstarts, hquiet⟩
          · obtain ⟨hu, rfl⟩ := underway_of_start hbegun
            have hc : c.starts = true := (hdue _ hu).1.symm
            have hpanics := t₀.start_panics_iff w.files password
            rw [hstart] at hpanics
            simpa [hc, hs] using hpanics
          · refine iff_of_false (by rintro ⟨message, hr⟩; exact hquiet message hr) ?_
            rintro ⟨hc, -⟩
            have hsame : p.starts = c.starts := by
              rcases hbegun with ⟨hu, -⟩ | ⟨-, hbegin⟩
              · exact (hdue p hu).1
              · rw [← starts_begin t c, hbegin]
            cases (hc.symm.trans hsame.symm).trans hstarts

/-- **What a call that panics leaves:** nothing has changed since its last phase, nothing is
reported, and nothing is due. -/
theorem panicked_step {a : Option Answer} (h : Steps w s c a reports w')
    (ha : a = some (.panicked message)) :
    (∃ t, w.sessions[s]? = some t ∧ ClientOptions.panic? t.config t.args = some message) ∧
      reports = [] ∧ w' = { w with underway := none } := by
  cases h with
  | missing hnone => cases ha
  | @phase t t₀ t' p told progress hs hbegun hstep =>
      cases progress with
      | more q => cases ha
      | done r =>
          have hr : r = .error (.panic message) :=
            answerOf_eq_panicked_iff.mp (Option.some.inj ha)
          rcases ends_cases hstep with ⟨password, rfl, rfl, hstart⟩ | ⟨-, hquiet⟩
          · obtain ⟨-, rfl⟩ := underway_of_start hbegun
            rcases start_cases t₀ w.files password with ⟨hok, -⟩ | ⟨fault, hfail, hobstacle⟩
            · cases (hr.symm.trans (congrArg Prod.snd hstart).symm).trans hok
            · cases hstart.symm.trans hfail
              cases hr
              rw [set_self hs]
              exact ⟨⟨t₀, hs, panic?_of_obstacle? hobstacle⟩, rfl, rfl⟩
          · exact (hquiet message hr).elim

/-! ## The settings of sessions -/

/-- **All sessions have the settings** that the link was built with. -/
structure Furnished (config : TransportConfig) (files : Config.Files) (w : Transports) : Prop where
  config_eq : w.config = config
  files_eq : w.files = files
  sessions : ∀ t ∈ w.sessions, t.config = config

variable {config : TransportConfig} {files : Config.Files}

lemma Furnished.set (h : w.Furnished config files) {t t' : Transport Nat}
    (hs : w.sessions[s]? = some t) (ht : t'.config = t.config) :
    (w.set s t').Furnished config files := by
  refine ⟨h.config_eq, h.files_eq, fun other hother => ?_⟩
  rcases List.mem_or_eq_of_mem_set hother with hother | rfl
  · exact h.sessions other hother
  · exact ht.trans (h.sessions t (List.mem_of_getElem? hs))

lemma Furnished.create (h : w.Furnished config files) (args : ConnectionArgs) :
    (w.create args).2.Furnished config files := by
  refine ⟨h.config_eq, h.files_eq, fun t ht => ?_⟩
  rcases List.mem_append.mp ht with ht | ht
  · exact h.sessions t ht
  · cases List.mem_singleton.mp ht
    exact h.config_eq

lemma Furnished.release (h : w.Furnished config files) (s : SessionId) :
    (w.release s).2.Furnished config files := by
  rw [Transports.release]
  cases hs : w.sessions[s]? with
  | none => exact h
  | some t => exact h.set hs (config_steps t w.files (.replace .nothing) 5)

lemma Furnished.step (h : w.Furnished config files) {a : Option Answer}
    (hsteps : Steps w s c a reports w') : w'.Furnished config files := by
  cases hsteps with
  | missing hnone => exact h
  | @phase t t₀ t' p told progress hs hbegun hstep =>
      have hbegan : t₀.config = t.config := by
        rcases hbegun with ⟨-, rfl⟩ | ⟨-, hbegin⟩
        · rfl
        · have hconfig := (settings_begin t (callOf c)).1
          rwa [hbegin] at hconfig
      have hkept : t'.config = t₀.config := by
        have hconfig := (settings_step t₀ w.files p).1
        rwa [hstep] at hconfig
      obtain ⟨hconfig, hfiles, hsessions⟩ := h.set hs (hkept.trans hbegan)
      exact ⟨hconfig, hfiles, hsessions⟩

lemma Furnished.stir (h : w.Furnished config files) {e : Stirring}
    (hstir : w.stir e = some (reports, w')) : w'.Furnished config files := by
  cases e with
  | room maker room =>
      obtain ⟨t, ht, hr⟩ := Option.map_eq_some_iff.mp hstir
      cases hr
      exact h.set ht rfl
  | drive maker turn =>
      simp only [Transports.stir, drive] at hstir
      cases hs : w.sessions[maker.session]? with
      | none =>
          rw [hs] at hstir
          cases hstir
      | some t =>
          simp only [hs] at hstir
          obtain ⟨⟨t', effects⟩, ht, hr⟩ := Option.map_eq_some_iff.mp hstir
          cases hr
          obtain ⟨f, rfl⟩ := Usage.exists_modify_of_drive ht
          exact h.set hs rfl

end Transports

end DeviceLink
