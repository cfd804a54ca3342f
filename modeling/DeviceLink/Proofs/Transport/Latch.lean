import DeviceLink.Proofs.Link.Wiring

/-!
# What transports present

Each transport keeps the certificate of its last connect, and presents it again whenever it
reconnects.  A password is not kept: it goes with the call, from one phase to the next.

* `SessionCall.password?`, `SessionCall.presents?` — what calls carry.
* `Phase.password?` — the password that a call under way still has with it.
* `Transports.auth?` — what a session presents.
* `eq_of_step` — what a step of a call leaves.
* **`auth?_step`** — what it does to both.
* `auth?_create`, `auth?_release`, `auth?_stir` — nothing else changes what a session presents.
-/

namespace DeviceLink

open Transport

/-! ## What calls carry -/

/-- The password with which a connection is to be started, if one is. -/
def SessionCall.password? : SessionCall → Option (Option String)
  | connect password _ | reconnect password => some password
  | disconnect | publish _ _ _ | subscribe _ _ | unsubscribe _ _ => none

/-- What the transport is to present from now on, if that is said. -/
def SessionCall.presents? : SessionCall → Option (Option ClientAuth)
  | connect _ certificate => some (certificate.map ClientAuth.ofCertificate)
  | reconnect _ | disconnect | publish _ _ _ | subscribe _ _ | unsubscribe _ _ => none

namespace Transport

variable {η : Type} {t t' : Transport η}

/-- What follows a phase, if anything does. -/
def Progress.next? : Progress η → Option (Phase η)
  | more p => some p
  | done _ => none

def Sequel.password? : Sequel → Option (Option String)
  | start password => some password
  | nothing => none

def Phase.password? : Phase η → Option (Option String)
  | replace next | silence _ next | cancel _ next | drain _ next => next.password?
  | start password => some password
  | beforeDisconnect | want _ | wanted _ | giveUp _ | disconnect _ | unwant _ | beforeRequest _
  | accepted _ _ | request _ _ => none

lemma Sequel.password?_of_progress {next : Sequel} {q : Phase η} (h : next.progress = .more q) :
    q.password? = next.password? := by
  cases next with
  | start password =>
      cases h
      rfl
  | nothing => cases h

lemma auth_start (t : Transport η) (files : Config.Files) (password : Option String) :
    (t.start files password).1.auth = t.auth := by
  rw [Transport.start]
  split
  · split <;> rfl
  · rfl

/-- **A phase leaves the certificate**, and whatever follows has the same password. -/
lemma auth_step {files : Config.Files} {p : Phase η} {told : List (Told η)} {progress : Progress η}
    (h : t.step files p = (t', told, progress)) :
    t'.auth = t.auth ∧ ∀ q, progress = .more q → q.password? = p.password? := by
  cases p with
  | replace next =>
      cases hc : t.current <;> simp only [Transport.step, hc] at h <;> cases h
      · exact ⟨rfl, fun q => Sequel.password?_of_progress⟩
      · exact ⟨rfl, by rintro q ⟨⟩; rfl⟩
  | silence n next | cancel n next =>
      cases h
      exact ⟨rfl, by rintro q ⟨⟩; rfl⟩
  | drain n next =>
      cases hc : t.connections[n]? <;> simp only [Transport.step, hc] at h <;> cases h <;>
        exact ⟨rfl, fun q => Sequel.password?_of_progress⟩
  | start password =>
      cases h
      exact ⟨auth_start t files password, by rintro q ⟨⟩⟩
  | beforeDisconnect | beforeRequest r =>
      cases hl : t.live? <;> simp only [Transport.step, hl] at h <;> cases h
      · exact ⟨rfl, by rintro q ⟨⟩⟩
      · exact ⟨rfl, by rintro q ⟨⟩; rfl⟩
  | want n =>
      cases h
      exact ⟨rfl, by rintro q ⟨⟩; rfl⟩
  | wanted n =>
      cases h
      refine ⟨rfl, fun q hq => ?_⟩
      cases hup : (t.connections[n]?).any (·.up) <;> rw [hup] at hq <;> cases hq <;> rfl
  | giveUp n | unwant n =>
      cases h
      exact ⟨rfl, by rintro q ⟨⟩⟩
  | disconnect n =>
      cases htakes : (t.connections[n]?).any (·.takes) <;>
        simp only [Transport.step, htakes] at h <;> cases h
      · exact ⟨rfl, by rintro q ⟨⟩; rfl⟩
      · exact ⟨rfl, by rintro q ⟨⟩⟩
  | accepted n r =>
      cases h
      refine ⟨rfl, fun q hq => ?_⟩
      cases hup : (t.connections[n]?).any (·.up) <;> rw [hup] at hq <;> cases hq
      rfl
  | request n r =>
      cases hc : t.connections[n]? with
      | none =>
          simp only [Transport.step, hc] at h
          cases h
          exact ⟨rfl, by rintro q ⟨⟩⟩
      | some c =>
          simp only [Transport.step, hc] at h
          cases h
          obtain ⟨result, hdone⟩ := submit_done c r
          refine ⟨rfl, fun q hq => ?_⟩
          rw [hdone] at hq
          cases hq

lemma auth_steps (t : Transport η) (files : Config.Files) (p : Phase η) (count : Nat) :
    (t.steps files p count).1.auth = t.auth := by
  induction count generalizing t p with
  | zero => rfl
  | succ count ih =>
      rw [steps]
      rcases hs : t.step files p with ⟨t', told, q | r⟩
      · exact (ih t' q).trans (auth_step hs).1
      · exact (auth_step hs).1

lemma auth_quit (t : Transport Nat) (files : Config.Files) :
    (t.finish files .quit).1.auth = t.auth :=
  auth_steps t files (.replace .nothing) 5

lemma auth_begin (t : Transport Nat) (c : SessionCall) :
    (t.begin (Transports.callOf c)).1.auth = c.presents?.getD t.auth := by
  cases c <;> rfl

lemma password?_begin (t : Transport Nat) (c : SessionCall) :
    (t.begin (Transports.callOf c)).2.password? = c.password? := by
  cases c <;> rfl

end Transport

namespace Transports

variable {w w' : Transports} {s : SessionId}

/-- What a session presents, if anything; one that is not there presents nothing. -/
def auth? (w : Transports) (s : SessionId) : Option ClientAuth := (w.sessions[s]?).bind (·.auth)

lemma auth?_of_some {t : Transport Nat} (hs : w.sessions[s]? = some t) : w.auth? s = t.auth := by
  rw [auth?, hs]
  rfl

lemma auth?_set {t t' : Transport Nat} (hs : w.sessions[s]? = some t) (k : SessionId) :
    (w.set s t').auth? k = if k = s then t'.auth else w.auth? k := by
  have hlt := (List.getElem?_eq_some_iff.mp hs).1
  rw [auth?, auth?, set, List.getElem?_set]
  by_cases hk : s = k
  · subst hk
    simp [hlt]
  · simp [hk, Ne.symm hk]

lemma auth?_set_of_eq {t t' : Transport Nat} (hs : w.sessions[s]? = some t)
    (ht : t'.auth = t.auth) (k : SessionId) : (w.set s t').auth? k = w.auth? k := by
  rw [auth?_set hs]
  split
  · next hk => rw [hk, ht, auth?_of_some hs]
  · rfl

/-- A new session presents nothing. -/
lemma auth?_create (w : Transports) (args : ConnectionArgs) (k : SessionId) :
    (w.create args).2.auth? k = w.auth? k := by
  rw [auth?, auth?, create]
  by_cases hlt : k < w.sessions.length
  · rw [List.getElem?_append_left hlt]
  · rw [List.getElem?_append_right (Nat.le_of_not_lt hlt),
      List.getElem?_eq_none (Nat.le_of_not_lt hlt)]
    cases hk : k - w.sessions.length <;> rfl

lemma auth?_release (w : Transports) (s k : SessionId) :
    (w.release s).2.auth? k = w.auth? k := by
  rw [release]
  cases hs : w.sessions[s]? with
  | none => rfl
  | some t => exact auth?_set_of_eq hs (Transport.auth_quit t w.files) k

lemma auth?_stir {e : Stirring} {reports : List Report} (h : w.stir e = some (reports, w'))
    (k : SessionId) : w'.auth? k = w.auth? k := by
  cases e with
  | room maker room =>
      obtain ⟨t, ht, hr⟩ := Option.map_eq_some_iff.mp h
      cases hr
      exact auth?_set_of_eq ht (by rfl) k
  | drive maker turn =>
      simp only [stir, drive] at h
      cases hs : w.sessions[maker.session]? with
      | none =>
          rw [hs] at h
          cases h
      | some t =>
          simp only [hs] at h
          obtain ⟨⟨t', effects⟩, ht, hr⟩ := Option.map_eq_some_iff.mp h
          cases hr
          refine auth?_set_of_eq hs ?_ k
          simp only [Transport.drive] at ht
          split at ht
          · cases ht
          · obtain ⟨r, -, hr⟩ := Option.map_eq_some_iff.mp ht
            cases hr
            rfl

/-- What happens in the world by itself leaves the call that is under way. -/
lemma underway_stir {e : Stirring} {reports : List Report} (h : w.stir e = some (reports, w')) :
    w'.underway = w.underway := by
  cases e with
  | drive maker turn =>
      obtain ⟨c, c', effects, -, -, -, -, -, -, hu, -⟩ := drive_face h
      exact hu
  | room maker room =>
      obtain ⟨-, -, hu, -⟩ := stir_room h
      exact hu

/-- Where the next step of a call starts: at the phase that is due, or at the first. -/
def opening (w : Transports) (t : Transport Nat) (c : SessionCall) : Transport Nat × Phase Nat :=
  (w.underway.map fun p => (t, p)).getD (t.begin (callOf c))

/-- What a step of a call leaves: the transport after a phase, and what follows that phase. -/
lemma eq_of_step {t t' : Transport Nat} {c : SessionCall} {answer : Option Answer}
    {reports : List Report} (hs : w.sessions[s]? = some t) (h : w.step s c = (answer, reports, w'))
    {told : List (Told Nat)} {progress : Progress Nat}
    (hstep : (w.opening t c).1.step w.files (w.opening t c).2 = (t', told, progress)) :
    w' = { w.set s t' with underway := progress.next? } := by
  rw [opening] at hstep
  cases hw : w.underway with
  | none | some _ =>
      simp only [hw, Option.map_none, Option.map_some, Option.getD_none, Option.getD_some] at hstep
      simp only [step, hs, hw, hstep] at h
      cases progress <;> cases h <;> rfl

/-- **A step of a call** leaves what sessions present; but the first step of a connect has its
session present what the call brings.  Whatever follows has the password of the call. -/
theorem auth?_step {t : Transport Nat} {c : SessionCall} {answer : Option Answer}
    {reports : List Report} (hs : w.sessions[s]? = some t)
    (h : w.step s c = (answer, reports, w')) :
    (∀ k, k ≠ s → w'.auth? k = w.auth? k) ∧
      (w.underway = none → w'.auth? s = c.presents?.getD t.auth ∧
        ∀ q, w'.underway = some q → q.password? = c.password?) ∧
      ∀ p, w.underway = some p → w'.auth? s = t.auth ∧
        ∀ q, w'.underway = some q → q.password? = p.password? := by
  rcases hstep : (w.opening t c).1.step w.files (w.opening t c).2 with ⟨t', told, progress⟩
  obtain rfl := eq_of_step hs h hstep
  obtain ⟨hauth, hpassword⟩ := Transport.auth_step hstep
  have hset : ∀ k, (w.set s t').auth? k = if k = s then t'.auth else w.auth? k := auth?_set hs
  have hown : (w.set s t').auth? s = (w.opening t c).1.auth :=
    (hset s).trans ((if_pos rfl).trans hauth)
  have hnext : ∀ q, progress.next? = some q → q.password? = (w.opening t c).2.password? := by
    intro q hq
    cases progress with
    | more p =>
        cases hq
        exact hpassword _ rfl
    | done r => cases hq
  refine ⟨fun k hk => (hset k).trans (if_neg hk), fun hw => ?_, fun p hw => ?_⟩ <;>
    rw [opening, hw] at hown hnext
  · exact ⟨hown.trans (Transport.auth_begin t c),
      fun q hq => (hnext q hq).trans (Transport.password?_begin t c)⟩
  · exact ⟨hown, hnext⟩

end Transports

end DeviceLink
