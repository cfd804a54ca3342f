import DeviceLink.Proofs.Transport.Bookkeeping
import DeviceLink.Proofs.Transport.Faces

/-!
# The ledgers of all sessions

Every session has a transport, and every connection of each of them has a ledger.  Calls of sessions
and drivers' turns add to these ledgers, and whatever is reported of a request is what they say; so
it is when a session ends.

* `Transports.Steps` — everything that a step of a call of a session can do.
* `Transports.Booked` — the ledgers of all sessions say what their trackers hold.
* **`Booked.step`**, **`Booked.drive`**, **`Booked.release`** — calls, drivers' turns and the end of
  a session keep that.
-/

namespace DeviceLink

open Transport Ledger

namespace Transports

def connection? (w : Transports) (maker : Maker) : Option (Connection Nat) :=
  (w.sessions[maker.session]?).bind fun t => t.connections[maker.number]?

/-- What a call of a session does next. -/
def phase? (w : Transports) (s : SessionId) (c : SessionCall) : Option (Phase Nat) :=
  (w.sessions[s]?).map fun t => w.underway.getD (t.begin (callOf c)).2

variable {w w' : Transports} {s : SessionId} {c : SessionCall} {called called' : Option SessionId}
  {g g' : Maker → Ledger Nat}

lemma set_self {t : Transport Nat} (hs : w.sessions[s]? = some t) : w.set s t = w := by
  obtain ⟨hlt, rfl⟩ := List.getElem?_eq_some_iff.mp hs
  rw [set, List.set_getElem_self]

/-- The answer to a call that has come to its end. -/
def answerTo : Progress Nat → Option Answer
  | .more _ => none
  | .done r => some (answerOf r)

/-- **Everything that a step of a call can do.** -/
inductive Steps (w : Transports) (s : SessionId) (c : SessionCall) :
    Option Answer → List Report → Transports → Prop where
  | missing (none : w.sessions[s]? = none) : Steps w s c (some missing) [] w
  | phase {t t₀ t' : Transport Nat} {p : Phase Nat} {told : List (Told Nat)}
      {progress : Progress Nat} (there : w.sessions[s]? = some t)
      (begun : w.underway = some p ∧ t₀ = t ∨ w.underway = none ∧ t.begin (callOf c) = (t₀, p))
      (step : t₀.step w.files p = (t', told, progress)) :
      Steps w s c (answerTo progress) (told.map acknowledgement)
        { w.set s t' with underway := progress.phase? }

lemma steps_of_step {answer : Option Answer} {reports : List Report}
    (h : w.step s c = (answer, reports, w')) : Steps w s c answer reports w' := by
  rw [step] at h
  cases hs : w.sessions[s]? with
  | none =>
      rw [hs] at h
      cases h
      exact .missing hs
  | some t =>
      cases hu : w.underway with
      | none =>
          simp only [hs, hu] at h
          rcases hstep : (t.begin (callOf c)).1.step w.files (t.begin (callOf c)).2
            with ⟨t', told, progress⟩
          have hphase := Steps.phase (c := c) hs (.inr ⟨hu, rfl⟩) hstep
          rw [hstep] at h
          cases progress <;> cases h <;> exact hphase
      | some p =>
          simp only [hs, hu] at h
          rcases hstep : t.step w.files p with ⟨t', told, progress⟩
          have hphase := Steps.phase (c := c) hs (.inl ⟨hu, rfl⟩) hstep
          rw [hstep] at h
          cases progress <;> cases h <;> exact hphase

/-- The phase that is due in a session, if it is the one that is called. -/
def due (w : Transports) (called : Option SessionId) (s : SessionId) : Option (Phase Nat) :=
  if called = some s then w.underway else none

/-- **Every ledger of every session** says what its tracker holds. -/
structure Booked (w : Transports) (called : Option SessionId) (g : Maker → Ledger Nat) : Prop where
  there : ∀ s t, w.sessions[s]? = some t →
    Usage.Booked ⟨t, w.files, w.due called s⟩ fun n => g ⟨s, n⟩
  absent : ∀ s, w.sessions[s]? = none → ∀ n, g ⟨s, n⟩ = []

/-- While no call is under way, none is due in any session. -/
lemma Booked.idle (h : w.Booked called g) (hu : w.underway = none)
    (called' : Option SessionId) : w.Booked called' g where
  there s t hs := by
    have hdue : ∀ other, w.due other s = none := by
      intro other
      rw [due, hu, ite_self]
    have hthere := h.there s t hs
    rw [hdue] at hthere ⊢
    exact hthere
  absent := h.absent

/-- One transport changes, and its ledgers do. -/
lemma Booked.replace (h : w.Booked called g) {t' : Transport Nat} (hlt : s < w.sessions.length)
    (hthere : Usage.Booked ⟨t', w'.files, w'.due called s⟩ fun n => g' ⟨s, n⟩)
    (hsessions : w'.sessions = w.sessions.set s t') (hfiles : w'.files = w.files)
    (hdue : ∀ k, k ≠ s → w'.due called k = w.due called k)
    (hothers : ∀ maker, maker.session ≠ s → g' maker = g maker) : w'.Booked called g' := by
  constructor
  · intro k other hk
    rw [hsessions, List.getElem?_set] at hk
    by_cases hks : s = k
    · subst hks
      rw [if_pos rfl, if_pos hlt] at hk
      cases hk
      exact hthere
    · rw [if_neg hks] at hk
      have hsame : (fun n => g' ⟨k, n⟩) = fun n => g ⟨k, n⟩ :=
        funext fun n => hothers ⟨k, n⟩ (Ne.symm hks)
      rw [hsame, hfiles, hdue k (Ne.symm hks)]
      exact h.there k other hk
  · intro k hk n
    rw [hsessions, List.getElem?_set] at hk
    have hks : s ≠ k := by
      rintro rfl
      rw [if_pos rfl, if_pos hlt] at hk
      cases hk
    rw [if_neg hks] at hk
    rw [hothers ⟨k, n⟩ (Ne.symm hks)]
    exact h.absent k hk n

/-- **Something happens to one transport**, and to its ledgers. -/
lemma Booked.set (h : w.Booked called g) {t t' : Transport Nat} {a : Act Nat}
    (hs : w.sessions[s]? = some t)
    (ha : Usage.act ⟨t, w.files, w.due called s⟩ a = some ⟨t', w'.files, w'.due called s⟩)
    (hsessions : w'.sessions = w.sessions.set s t') (hfiles : w'.files = w.files)
    (hdue : ∀ k, k ≠ s → w'.due called k = w.due called k)
    (hbooks : (fun n => g' ⟨s, n⟩)
      = Usage.observe observer ⟨t, w.files, w.due called s⟩ a fun n => g ⟨s, n⟩)
    (hothers : ∀ maker, maker.session ≠ s → g' maker = g maker)
    (hfair : ∀ maker, Fair (g' maker)) : w'.Booked called g' := by
  have hact := (h.there s t hs).act ha fun n => congrFun hbooks n ▸ hfair ⟨s, n⟩
  rw [← hbooks] at hact
  exact h.replace (List.getElem?_eq_some_iff.mp hs).1 hact hsessions hfiles hdue hothers

/-! ## What happens to the ledgers of all sessions -/

/-- The ledgers after a stroke of a connection of a session, or after nothing. -/
def record (w : Transports) (s : SessionId) (stroke : Option (Nat × Stroke Nat))
    (g : Maker → Ledger Nat) : Maker → Ledger Nat :=
  match stroke with
  | none => g
  | some (n, stroke) => observer.log (w.connection? ⟨s, n⟩) ⟨s, n⟩ stroke g

lemma record_of_ne (w : Transports) (s : SessionId) (stroke : Option (Nat × Stroke Nat))
    (g : Maker → Ledger Nat) {maker : Maker} (h : maker.session ≠ s) :
    w.record s stroke g maker = g maker := by
  cases stroke with
  | none => rfl
  | some r =>
      refine observer.log_of_ne _ _ g ?_
      rintro rfl
      exact h rfl

/-- The ledgers of the session itself are those of its transport. -/
lemma record_session {u : Usage Nat} {a : Act Nat} {t : Transport Nat}
    (hs : w.sessions[s]? = some t) (ht : u.transport.connections = t.connections)
    (g : Maker → Ledger Nat) :
    (fun n => w.record s (u.stroke? a) g ⟨s, n⟩) = u.observe observer a fun n => g ⟨s, n⟩ := by
  rw [Usage.observe]
  cases u.stroke? a with
  | none => rfl
  | some r =>
      obtain ⟨n, stroke⟩ := r
      have hconnection : w.connection? ⟨s, n⟩ = u.transport.connections[n]? := by
        rw [connection?, hs, Option.bind_some, ht]
      have hinjective : Function.Injective (Maker.mk s) := by
        intro n m h
        cases h
        rfl
      simp only [record, hconnection]
      exact log_comp hinjective _ n stroke g

lemma exists_record_eq (w : Transports) (s : SessionId) (stroke : Option (Nat × Stroke Nat))
    (g : Maker → Ledger Nat) (maker : Maker) :
    ∃ more, w.record s stroke g maker = g maker ++ more := by
  cases stroke with
  | none => exact ⟨[], (List.append_nil _).symm⟩
  | some r => exact exists_log_eq _ _ _ g maker

/-- A phase of the call under way. -/
lemma Booked.phase (h : w.Booked (some s) g) {t t' : Transport Nat} {p : Phase Nat}
    {told : List (Told Nat)} {progress : Progress Nat} (hs : w.sessions[s]? = some t)
    (hu : w.underway = some p) (hstep : t.step w.files p = (t', told, progress))
    (hfair : ∀ maker, Fair (w.record s p.stroke? g maker)) :
    Booked { w.set s t' with underway := progress.phase? } (some s) (w.record s p.stroke? g) ∧
      ∀ x ∈ told, ∃ maker, Justifies (w.record s p.stroke? g maker) x := by
  have hdue : w.due (some s) s = some p := by rw [due, if_pos rfl, hu]
  have hbooks : (fun n => w.record s p.stroke? g ⟨s, n⟩)
      = Usage.observe observer ⟨t, w.files, some p⟩ .phase fun n => g ⟨s, n⟩ :=
    record_session (u := ⟨t, w.files, some p⟩) (a := .phase) hs rfl g
  constructor
  · refine h.set hs (a := .phase) ?_ rfl rfl ?_ (hdue ▸ hbooks)
      (fun _ => record_of_ne _ _ _ _) hfair
    · rw [Usage.act, hdue]
      simp only [Option.map_some, hstep, due, if_true]
      rfl
    · intro k hk
      rw [due, due, if_neg (fun he => hk (Option.some.inj he).symm),
        if_neg (fun he => hk (Option.some.inj he).symm)]
  · intro x hx
    have hthere := h.there s t hs
    rw [hdue] at hthere
    obtain ⟨n, hn⟩ :=
      hthere.justified_phase hstep (fun n => congrFun hbooks n ▸ hfair ⟨s, n⟩) x hx
    rw [← congrFun hbooks n] at hn
    exact ⟨⟨s, n⟩, hn⟩

/-- The call begins. -/
lemma Booked.begin (h : w.Booked (some s) g) {t t₀ : Transport Nat} {p : Phase Nat} {c : Call Nat}
    (hs : w.sessions[s]? = some t) (hu : w.underway = none) (hbegin : t.begin c = (t₀, p))
    (hfair : ∀ maker, Fair (g maker)) :
    Booked { w.set s t₀ with underway := some p } (some s) g := by
  have hdue : w.due (some s) s = none := by rw [due, if_pos rfl, hu]
  refine h.set hs (a := .call c) ?_ rfl rfl ?_ rfl (fun _ _ => rfl) hfair
  · rw [Usage.act, hdue]
    simp only [hbegin, due, if_true]
    rfl
  · intro k hk
    rw [due, due, if_neg (fun he => hk (Option.some.inj he).symm),
      if_neg (fun he => hk (Option.some.inj he).symm)]

/-- **A step of a call of a session** keeps the ledgers, and whatever it reports is what they
say. -/
theorem Booked.step (h : w.Booked (some s) g) {answer : Option Answer} {reports : List Report}
    (hsteps : Steps w s c answer reports w')
    (hfair : ∀ maker, Fair (w.record s ((w.phase? s c).bind Phase.stroke?) g maker)) :
    w'.Booked (some s) (w.record s ((w.phase? s c).bind Phase.stroke?) g) ∧
      ∀ r ∈ reports, ∃ told maker, r = acknowledgement told ∧
        Justifies (w.record s ((w.phase? s c).bind Phase.stroke?) g maker) told := by
  cases hsteps with
  | missing hnone =>
      have hphase : w.phase? s c = none := by rw [phase?, hnone, Option.map_none]
      rw [hphase]
      exact ⟨h, List.forall_mem_nil _⟩
  | @phase t t₀ t' p told progress hs hbegun hstep =>
      have hlt := (List.getElem?_eq_some_iff.mp hs).1
      have hphase : w.phase? s c = some p := by
        rw [phase?, hs, Option.map_some]
        rcases hbegun with ⟨hu, -⟩ | ⟨hu, hbegin⟩
        · rw [hu, Option.getD_some]
        · rw [hu, hbegin, Option.getD_none]
      rw [hphase, Option.bind_some] at hfair ⊢
      have hreports : ∀ {g' : Maker → Ledger Nat}, (∀ x ∈ told, ∃ maker, Justifies (g' maker) x) →
          ∀ r ∈ told.map acknowledgement, ∃ x maker, r = acknowledgement x ∧
            Justifies (g' maker) x := by
        intro g' hall r hr
        obtain ⟨x, hx, rfl⟩ := List.mem_map.mp hr
        obtain ⟨maker, hmaker⟩ := hall x hx
        exact ⟨x, maker, rfl, hmaker⟩
      rcases hbegun with ⟨hu, rfl⟩ | ⟨hu, hbegin⟩
      · exact (h.phase hs hu hstep hfair).imp_right hreports
      · -- the call begins, and does its first phase
        have hconnections : t₀.connections = t.connections := by
          rw [← begin_connections t (callOf c), hbegin]
        have hfairg : ∀ maker, Fair (g maker) := by
          intro maker
          obtain ⟨more, hmore⟩ := exists_record_eq w s p.stroke? g maker
          exact Fair.of_append (hmore ▸ hfair maker)
        have hbegun := h.begin hs hu hbegin hfairg
        have hs₀ :
            ({ w.set s t₀ with underway := some p } : Transports).sessions[s]? = some t₀ := by
          simp [Transports.set, hlt]
        have hrecord : Transports.record { w.set s t₀ with underway := some p } s p.stroke? g
            = w.record s p.stroke? g := by
          cases p.stroke? with
          | none => rfl
          | some r =>
              simp only [record, connection?, hs, hs₀, Option.bind_some, hconnections]
        have hdone := hbegun.phase hs₀ rfl hstep (hrecord.symm ▸ hfair)
        rw [hrecord] at hdone
        have hset : ({ w.set s t₀ with underway := some p } : Transports).set s t' =
            { w.set s t' with underway := some p } := by
          simp [Transports.set]
        rw [hset] at hdone
        exact hdone.imp_right hreports

/-- **A driver's turn** keeps the ledgers, and whatever it reports of requests is what they say. -/
theorem Booked.drive (h : w.Booked called g) {n : Nat} {turn : DriverTurn} {reports : List Report}
    (hdrive : w.drive s n turn = some (reports, w'))
    (hfair : ∀ maker, Fair (w.record s (some (n, .turn turn)) g maker)) :
    w'.Booked called (w.record s (some (n, .turn turn)) g) ∧
      ∀ id outcome, .acknowledged id outcome ∈ reports → ∃ told maker,
        .acknowledged id outcome = acknowledgement told ∧
          Justifies (w.record s (some (n, .turn turn)) g maker) told := by
  rw [Transports.drive] at hdrive
  cases hs : w.sessions[s]? with
  | none =>
      rw [hs] at hdrive
      cases hdrive
  | some t =>
      simp only [hs] at hdrive
      obtain ⟨⟨t', effects⟩, ht, he⟩ := Option.map_eq_some_iff.mp hdrive
      cases he
      have hbooks :=
        record_session (u := ⟨t, w.files, w.due called s⟩) (a := .drive n turn) hs rfl g
      constructor
      · refine h.set hs (a := .drive n turn) ?_ rfl rfl (fun _ _ => rfl) hbooks
          (fun _ => record_of_ne _ _ _ _) hfair
        rw [Usage.act, ht]
        rfl
      · intro id outcome hmem
        obtain ⟨effect, heffect, hreport⟩ := List.mem_map.mp hmem
        cases effect with
        | notice notice => cases notice <;> cases hreport
        | told x =>
            have hfair' : ∀ k, Fair (Usage.observe observer ⟨t, w.files, w.due called s⟩
                (.drive n turn) (fun n => g ⟨s, n⟩) k) :=
              fun k => congrFun hbooks k ▸ hfair ⟨s, k⟩
            have hmem : .told x ∈ Usage.effects ⟨t, w.files, w.due called s⟩ (.drive n turn) := by
              rw [(drive_struck ht).2.1] at heffect
              exact heffect
            obtain ⟨k, hk⟩ := (h.there s t hs).justified hfair' hmem
            rw [← congrFun hbooks k] at hk
            exact ⟨x, ⟨s, k⟩, hreport.symm, hk⟩

/-- The client has room for requests, or has none; the ledgers stay what they are. -/
lemma Booked.room (h : w.Booked called g) {t : Transport Nat} (hs : w.sessions[s]? = some t)
    (n : Nat) (b : Bool) (hfair : ∀ maker, Fair (g maker)) :
    (w.set s (t.modify n ({ · with room := b }))).Booked called g := by
  refine h.set hs (a := .room n b) rfl rfl rfl (fun _ _ => rfl) ?_ (fun _ _ => rfl) hfair
  rw [Usage.observe, Usage.stroke?]
  rcases log_cases t.connections[n]? n (.touch (.room b)) fun n => g ⟨s, n⟩ with
    hsame | ⟨c, x, -, hx, -⟩
  · exact hsame.symm
  · cases hx

/-- A session is made. -/
lemma Booked.create (h : w.Booked called g) (hu : w.underway = none) (args : ConnectionArgs) :
    (w.create args).2.Booked called g := by
  constructor
  · intro s t hs
    rw [Transports.create] at hs
    by_cases hlt : s < w.sessions.length
    · rw [List.getElem?_append_left hlt] at hs
      exact h.there s t hs
    · have hnew : s = w.sessions.length := by
        have hbound := (List.getElem?_eq_some_iff.mp hs).1
        rw [List.length_append, List.length_singleton] at hbound
        exact Nat.le_antisymm (Nat.le_of_lt_succ hbound) (Nat.le_of_not_lt hlt)
      rw [hnew, List.getElem?_concat_length] at hs
      cases hs
      have hnil : (fun n => g ⟨s, n⟩) = fun _ => [] := by
        funext n
        exact h.absent s (hnew ▸ List.getElem?_eq_none (Nat.le_refl _)) n
      have hdue : (w.create args).2.due called s = none := by
        rw [due, Transports.create, hu, ite_self]
      rw [hnil, hdue]
      exact Usage.booked_new w.config args w.files
  · intro s hs n
    refine h.absent s ?_ n
    rw [Transports.create, List.getElem?_eq_none_iff, List.length_append] at hs
    exact List.getElem?_eq_none (Nat.le_of_succ_le hs)

/-! ## The end of a session -/

/-- The ledgers after the end of a session. -/
def recordRelease (w : Transports) (s : SessionId) (g : Maker → Ledger Nat) : Maker → Ledger Nat :=
  match w.sessions[s]? with
  | none => g
  | some t => fun maker =>
    if maker.session = s then
      t.logSteps w.files (.replace .nothing) 5 (fun n => g ⟨s, n⟩) maker.number
    else g maker

lemma exists_recordRelease_eq (w : Transports) (s : SessionId) (g : Maker → Ledger Nat)
    (maker : Maker) : ∃ more, w.recordRelease s g maker = g maker ++ more := by
  rw [recordRelease]
  cases w.sessions[s]? with
  | none => exact ⟨[], (List.append_nil _).symm⟩
  | some t =>
      obtain ⟨session, n⟩ := maker
      by_cases hs : session = s
      · subst hs
        simpa using exists_logSteps_eq t w.files (.replace .nothing) 5 (fun n => g ⟨session, n⟩) n
      · exact ⟨[], by simp [hs]⟩

lemma takings_recordRelease (w : Transports) (s : SessionId) (g : Maker → Ledger Nat)
    (maker : Maker) : takings (w.recordRelease s g maker) = takings (g maker) := by
  rw [recordRelease]
  cases w.sessions[s]? with
  | none => rfl
  | some t =>
      obtain ⟨session, n⟩ := maker
      by_cases hs : session = s
      · subst hs
        simpa using takings_logSteps rfl n
      · simp [hs]

/-- **The end of a session** keeps the ledgers, and whatever is reported then is what they say. -/
theorem Booked.release (h : w.Booked called g) (hu : w.underway = none)
    (hfair : ∀ maker, Fair (w.recordRelease s g maker)) :
    (w.release s).2.Booked called (w.recordRelease s g) ∧
      ∀ r ∈ (w.release s).1, ∃ told maker, r = acknowledgement told ∧
        Justifies (w.recordRelease s g maker) told := by
  rw [Transports.release]
  cases hs : w.sessions[s]? with
  | none =>
      have hsame : w.recordRelease s g = g := by
        rw [recordRelease, hs]
      rw [hsame]
      exact ⟨h, List.forall_mem_nil _⟩
  | some t =>
      have hlt := (List.getElem?_eq_some_iff.mp hs).1
      have hown : (fun n => w.recordRelease s g ⟨s, n⟩)
          = t.logSteps w.files (.replace .nothing) 5 fun n => g ⟨s, n⟩ := by
        funext n
        simp only [recordRelease, hs, if_true]
      have hothers : ∀ maker, maker.session ≠ s → w.recordRelease s g maker = g maker := by
        intro maker hne
        simp only [recordRelease, hs, if_neg hne]
      have hdue : ∀ k, w.due called k = none := by
        intro k
        rw [due, hu, ite_self]
      have hthere := h.there s t hs
      rw [hdue] at hthere
      have hbegin : Usage.act (⟨t, w.files, none⟩ : Usage Nat) (.call .quit)
          = some ⟨t, w.files, some (.replace .nothing)⟩ := rfl
      have hfairs : ∀ n, Fair (g ⟨s, n⟩) := by
        intro n
        obtain ⟨more, hmore⟩ := w.exists_recordRelease_eq s g ⟨s, n⟩
        exact Fair.of_append (hmore ▸ hfair ⟨s, n⟩)
      have hbegun := hthere.act hbegin hfairs
      obtain ⟨t', told, r, hsteps⟩ := t.steps_left w.files (.replace .nothing)
      have hfinish : t.finish w.files .quit = (t', told, r) := by
        simp only [Transport.finish, Transport.begin, hsteps, Progress.result]
      obtain ⟨hbooked, hjustified⟩ :=
        hbegun.steps hsteps fun n => congrFun hown n ▸ hfair ⟨s, n⟩
      simp only [hfinish]
      refine ⟨?_, ?_⟩
      · refine h.replace hlt ?_ rfl rfl (fun _ _ => rfl) hothers
        rw [hown]
        have hdue' : (w.set s t').due called s = none := hdue s
        rw [hdue']
        exact hbooked
      · intro report hreport
        obtain ⟨x, hx, rfl⟩ := List.mem_map.mp hreport
        obtain ⟨n, hn⟩ := hjustified x hx
        exact ⟨x, ⟨s, n⟩, rfl, congrFun hown n ▸ hn⟩

end Transports

end DeviceLink
