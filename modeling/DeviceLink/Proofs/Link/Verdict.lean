import DeviceLink.Proofs.Link.Wiring
import DeviceLink.Proofs.Stage.Requests
import DeviceLink.Proofs.Transport.Accounts

/-!
# Why an operation that is acknowledged ends

The ledgers of all connections of a link say what the clients and the broker have done for an
operation that publishes, subscribes or unsubscribes; so they say, too, whether it was completed for
a reason of its own.

* `Ledgers`, `Ledgers.note` — the record of a run: the ledgers of all connections.
* `Ledgers.Sole` — no request is taken twice.
* `Transports.Carries` — the phase that is due belongs to a call with the same request.
* **`Carries.takings`**, **`Carries.answered`** — what a call makes of its request, and how it is
  answered.
* `Verdict` — the reasons for which an operation ends.
* **`verdict_of_justifies`** — what is reported of a request decides how its operation ends.
-/

namespace DeviceLink

open Transport Dispatch Ledger

/-! ## The record of a run -/

/-- The ledgers of all connections. -/
abbrev Ledgers := Maker → Ledger Nat

variable {κ : Type}

/-- What the observer writes down: every stroke of a connection, in that connection's ledger. -/
def Ledgers.note : Incident κ Stirring → Link κ Transports → Link κ Transports → Ledgers → Ledgers
  | .happening (.stir (.drive maker turn)), before, _, g =>
    before.world.record maker.session (some (maker.number, .turn turn)) g
  | .happening .work, before, _, g =>
    match before.activity.asked? with
    | some (.call s c) => before.world.record s ((before.world.phase? s c).bind Phase.stroke?) g
    | some (.release s) => before.world.recordRelease s g
    | some (.chain _) | some (.create _) | none => g
  | .happening (.stir (.room _ _)), _, _, g | .happening (.submit _ _ _), _, _, g
  | .happening .beginUser, _, _, g | .happening (.endUser _), _, _, g
  | .happening (.handle _), _, _, g | .shutdown _ _, _, _, g => g

namespace Ledgers

variable {g g' : Ledgers} {id : Nat}

/-- A client has taken the request of an operation. -/
def Claimed (g : Ledgers) (id : Nat) : Prop := ∃ maker kind, (kind, id) ∈ takings (g maker)

/-- **No request is taken twice**, by one client or by two. -/
structure Sole (g : Ledgers) : Prop where
  once : ∀ maker, ((takings (g maker)).map Prod.snd).Nodup
  one : ∀ maker other kind kind' id, (kind, id) ∈ takings (g maker) →
    (kind', id) ∈ takings (g other) → maker = other

/-- All ledgers only grow. -/
def Grows (g g' : Ledgers) : Prop := ∀ maker, ∃ more, g' maker = g maker ++ more

/-- The clients have taken the same requests. -/
def SameTakings (g g' : Ledgers) : Prop := ∀ maker, takings (g' maker) = takings (g maker)

lemma Grows.refl (g : Ledgers) : Grows g g := fun _ => ⟨[], (List.append_nil _).symm⟩

lemma Grows.fair (h : Grows g g') (hfair : ∀ maker, Fair (g' maker)) (maker : Maker) :
    Fair (g maker) := by
  obtain ⟨more, hmore⟩ := h maker
  exact Fair.of_append (hmore ▸ hfair maker)

lemma SameTakings.claimed (h : SameTakings g g') (hc : Claimed g' id) : Claimed g id := by
  obtain ⟨maker, kind, hmem⟩ := hc
  exact ⟨maker, kind, h maker ▸ hmem⟩

lemma SameTakings.sole (h : SameTakings g g') (hs : Sole g) : Sole g' where
  once maker := h maker ▸ hs.once maker
  one maker other kind kind' id hmem hmem' :=
    hs.one maker other kind kind' id (h maker ▸ hmem) (h other ▸ hmem')

/-- One client takes a request. -/
def Adds (g g' : Ledgers) (kind : AckKind) (id : Nat) : Prop :=
  ∃ maker, takings (g' maker) = takings (g maker) ++ [(kind, id)] ∧
    ∀ other, other ≠ maker → takings (g' other) = takings (g other)

variable {kind : AckKind}

lemma Adds.mem (h : Adds g g' kind id) {maker : Maker} {other : AckKind} {k : Nat}
    (hmem : (other, k) ∈ takings (g' maker)) :
    (other, k) ∈ takings (g maker) ∨ other = kind ∧ k = id := by
  obtain ⟨taker, hnew, hothers⟩ := h
  by_cases hm : maker = taker
  · rw [hm, hnew, List.mem_append, List.mem_singleton] at hmem
    rcases hmem with hmem | he
    · exact .inl (hm ▸ hmem)
    · cases he
      exact .inr ⟨rfl, rfl⟩
  · exact .inl (hothers maker hm ▸ hmem)

lemma Adds.claimed (h : Adds g g' kind id) {k : Nat} (hc : Claimed g' k) :
    Claimed g k ∨ k = id := by
  obtain ⟨maker, other, hmem⟩ := hc
  exact (h.mem hmem).imp (fun hmem => ⟨maker, other, hmem⟩) And.right

/-- A request that no client has taken is taken once. -/
lemma Adds.sole (h : Adds g g' kind id) (hfree : ¬ Claimed g id) (hs : Sole g) : Sole g' := by
  have hmemOf := @Adds.mem g g' id kind h
  obtain ⟨taker, hnew, hothers⟩ := h
  constructor
  · intro maker
    by_cases hm : maker = taker
    · rw [hm, hnew, List.map_append, List.map_singleton]
      refine List.nodup_append.mpr ⟨hs.once taker, List.nodup_singleton _, ?_⟩
      intro k hk other hother he
      obtain ⟨⟨kind', k'⟩, hmem, rfl⟩ := List.mem_map.mp hk
      rw [List.mem_singleton.mp hother] at he
      cases (he : k' = id)
      exact hfree ⟨taker, kind', hmem⟩
    · rw [hothers maker hm]
      exact hs.once maker
  · intro maker other kind' kind'' k hmem hmem'
    -- whoever has taken a request before has not taken this one
    have hown : ∀ {maker : Maker} {kind' : AckKind}, (kind', k) ∈ takings (g' maker) →
        (kind', k) ∈ takings (g maker) ∨ k = id ∧ maker = taker := by
      intro maker kind' hmem
      by_cases hm : maker = taker
      · exact (hmemOf hmem).imp_right fun he => ⟨he.2, hm⟩
      · exact .inl (hothers maker hm ▸ hmem)
    rcases hown hmem with hold | ⟨rfl, rfl⟩
    · rcases hown hmem' with hold' | ⟨rfl, rfl⟩
      · exact hs.one maker other kind' kind'' k hold hold'
      · exact (hfree ⟨maker, kind', hold⟩).elim
    · rcases hown hmem' with hold' | ⟨-, rfl⟩
      · exact (hfree ⟨other, kind'', hold'⟩).elim
      · rfl

end Ledgers

/-! ## Calls that hand over requests -/

namespace Transports

variable {w w' : Transports} {s : SessionId} {c : SessionCall} {answer : Option Answer}
  {reports : List Report} {g : Ledgers}

/-- The request that a phase is about, by kind and number. -/
def requestOf (p : Phase Nat) : Option (AckKind × Nat) :=
  p.request?.map fun r => (r.kind, r.handler)

/-- The phase that is due belongs to a call with the same request. -/
def Carries (w : Transports) (c : SessionCall) : Prop :=
  ∀ p, w.underway = some p → requestOf p = c.tracked?

lemma Carries.phase? (h : w.Carries c) {p : Phase Nat} (hp : w.phase? s c = some p) :
    requestOf p = c.tracked? := by
  obtain ⟨t, -, rfl⟩ := Option.map_eq_some_iff.mp hp
  cases hu : w.underway with
  | none => cases c <;> rfl
  | some p => exact h p hu

lemma Steps.phase?_eq {t t₀ : Transport Nat} {p : Phase Nat} (hs : w.sessions[s]? = some t)
    (hbegun : w.underway = some p ∧ t₀ = t ∨
      w.underway = none ∧ t.begin (callOf c) = (t₀, p)) : w.phase? s c = some p := by
  rw [Transports.phase?, hs, Option.map_some]
  rcases hbegun with ⟨hu, -⟩ | ⟨hu, hbegin⟩
  · rw [hu, Option.getD_some]
  · rw [hu, hbegin, Option.getD_none]

/-- A call goes on with the request that it is about. -/
lemma Carries.steps (h : w.Carries c) (hsteps : Steps w s c answer reports w') :
    w'.Carries c := by
  cases hsteps with
  | missing hnone => exact h
  | @phase t t₀ t' p told progress hs hbegun hstep =>
      intro q hq
      have hp := h.phase? (Steps.phase?_eq hs hbegun)
      cases progress with
      | more next =>
          cases hq
          rw [requestOf, request?_step hstep rfl]
          exact hp
      | done r => cases hq

/-- A stroke of a connection adds nothing to the requests that clients have taken, or the client of
that connection takes one. -/
lemma record_cases (w : Transports) (s : SessionId) (n : Nat) (stroke : Stroke Nat) (g : Ledgers) :
    Ledgers.SameTakings g (w.record s (some (n, stroke)) g) ∨
      ∃ d kind id, w.connection? ⟨s, n⟩ = some d ∧ d.entry? stroke = some (.accepted kind id) ∧
        Ledgers.Adds g (w.record s (some (n, stroke)) g) kind id := by
  rw [record]
  rcases log_cases (w.connection? ⟨s, n⟩) ⟨s, n⟩ stroke g with hsame | ⟨d, x, hd, hx, hlog⟩
  · exact .inl fun maker => congrArg _ (congrFun hsame maker)
  · have hothers : ∀ other, other ≠ (⟨s, n⟩ : Maker) →
        takings (observer.log (w.connection? ⟨s, n⟩) ⟨s, n⟩ stroke g other)
          = takings (g other) := by
      intro other ho
      rw [hlog, Function.update_of_ne ho]
    have hown : takings (observer.log (w.connection? ⟨s, n⟩) ⟨s, n⟩ stroke g ⟨s, n⟩)
        = takings (g ⟨s, n⟩) ++ x.taken?.toList := by
      rw [hlog, Function.update_self, takings_concat]
    cases x with
    | accepted kind id => exact .inr ⟨d, kind, id, hd, hx, ⟨s, n⟩, hown, hothers⟩
    | event _ | closed =>
        refine .inl fun maker => ?_
        by_cases hm : maker = ⟨s, n⟩
        · exact hm ▸ hown.trans (List.append_nil _)
        · exact hothers maker hm

/-- **What a step of a call makes of the requests that clients have taken:** nothing, or it is the
last step, and a client takes the request of the call. -/
lemma Carries.takings (h : w.Carries c) (hsteps : Steps w s c answer reports w') (g : Ledgers) :
    Ledgers.SameTakings g (w.record s ((w.phase? s c).bind Phase.stroke?) g) ∨
      answer = some (.returned (.ok ())) ∧ ∃ kind id, c.tracked? = some (kind, id) ∧
        Ledgers.Adds g (w.record s ((w.phase? s c).bind Phase.stroke?) g) kind id := by
  cases hsteps with
  | missing hnone =>
      rw [Transports.phase?, hnone, Option.map_none]
      exact .inl fun _ => rfl
  | @phase t t₀ t' p told progress hs hbegun hstep =>
      have hp := Steps.phase?_eq hs hbegun
      rw [hp, Option.bind_some]
      cases hstroke : p.stroke? with
      | none => exact .inl fun _ => rfl
      | some r =>
          obtain ⟨n, stroke⟩ := r
          refine (w.record_cases s n stroke g).imp_right ?_
          rintro ⟨d, kind, id, hd, hx, hadds⟩
          obtain ⟨request, rfl, rfl, rfl, htakes⟩ := accepted_of_entry? hstroke hx
          refine ⟨?_, _, _, (h.phase? hp).symm, hadds⟩
          have hthere : t₀.connections[n]? = some d := by
            rw [connection?, hs, Option.bind_some] at hd
            rcases hbegun with ⟨-, rfl⟩ | ⟨-, hbegin⟩
            · exact hd
            · rw [← begin_connections t (callOf c), hbegin] at hd
              exact hd
          rcases request_step (r := request) rfl hstep with ⟨hnone, -⟩ | ⟨-, hbusy⟩ | rfl
          · cases hnone
          · cases htakes.symm.trans (hbusy n rfl d hthere)
          · rfl

/-- **How a call that hands over a request is answered:** the client has taken it, there is no
connection, or the client has no room. -/
lemma Carries.answered (h : w.Carries c) (hsteps : Steps w s c answer reports w')
    {key : AckKind × Nat} (hc : c.tracked? = some key) {a : Answer} (ha : answer = some a) :
    a = .returned (.ok ()) ∨ ∃ f, (f = .notConnected ∨ f = .request .full) ∧
      a = .returned (.error (.ofTransport f)) := by
  cases hsteps with
  | missing hnone =>
      cases ha
      exact .inr ⟨_, .inl rfl, rfl⟩
  | @phase t t₀ t' p told progress hs hbegun hstep =>
      have hp := h.phase? (Steps.phase?_eq hs hbegun)
      obtain ⟨r, hr, -⟩ := Option.map_eq_some_iff.mp (hp.trans hc)
      rcases request_step hr hstep with ⟨-, q, rfl⟩ | ⟨rfl | rfl, -⟩ | rfl
      · cases ha
      · cases ha
        exact .inr ⟨_, .inl rfl, rfl⟩
      · cases ha
        exact .inr ⟨_, .inr rfl, rfl⟩
      · cases ha
        exact .inl rfl

end Transports

/-! ## Why an operation ends -/

/-- What the stage and the transport say of a request that has not started. -/
def Operation.refusals (op : Operation κ) : List Failure :=
  [Stage.noSession op, .ofTransport .notConnected, .ofTransport (.request .full)]

/-- **Why an operation ends**, as the ledgers tell. -/
inductive Verdict (g : Ledgers) (kind : AckKind) (op : Operation κ) : Prop where
  /-- On one connection, its request has left with the id 0, or its packet is acknowledged. -/
  | answered {maker : Maker} {n : Nat} (fine : op.error = none)
      (answer : Answered (g maker) n kind op.id (.ok ()))
  /-- On one connection, its packet is acknowledged, and the broker turns the subscription down. -/
  | turnedDown {maker : Maker} {n : Nat} {text : String}
      (failed : op.error = some (.ofTransport (.subscriptionRejected text)))
      (subscribes : kind = .subscribe)
      (answer : Answered (g maker) n kind op.id (.error (.subscriptionRejected text)))
  /-- The connection whose client has taken its request has come to its end. -/
  | dropped {maker : Maker} (failed : op.error = some (.ofTransport .connectionClosed))
      (dropped : Dropped (g maker) kind op.id)
  /-- No client has taken its request. -/
  | refused {f : Failure} (failed : op.error = some f) (refusal : f ∈ op.refusals)
      (never : ¬ Ledgers.Claimed g op.id)

variable {g g' : Ledgers}

lemma Verdict.mono {kind : AckKind} {op : Operation κ} (h : Verdict g kind op)
    (hgrows : Ledgers.Grows g g') (hsame : Ledgers.SameTakings g g') : Verdict g' kind op := by
  cases h with
  | @answered maker n fine answer =>
      obtain ⟨more, hmore⟩ := hgrows maker
      exact .answered fine (hmore ▸ answer.append more : Answered (g' maker) n kind op.id _)
  | @turnedDown maker n text failed subscribes answer =>
      obtain ⟨more, hmore⟩ := hgrows maker
      have hanswer : Answered (g' maker) n kind op.id _ := hmore ▸ answer.append more
      exact .turnedDown failed subscribes hanswer
  | @dropped maker failed dropped =>
      obtain ⟨more, hmore⟩ := hgrows maker
      exact .dropped failed (hmore ▸ dropped.append more : Dropped (g' maker) kind op.id)
  | refused failed refusal never => exact .refused failed refusal (mt hsame.claimed never)

/-- **What is reported of a request decides how its operation ends.** -/
lemma verdict_of_justifies {maker : Maker} {told : Told Nat} {held : Operation κ} {kind : AckKind}
    (hj : Justifies (g maker) told) (hid : told.1 = held.id) (hclean : held.error = none)
    (hkind : ∀ other, (other, held.id) ∈ takings (g maker) → other = kind) :
    Verdict g kind (Stage.settled held (told.2.mapError Failure.ofTransport)) := by
  obtain ⟨id, outcome⟩ := told
  cases (hid : id = held.id)
  rcases hj with ⟨n, other, answer⟩ | ⟨rfl, other, dropped⟩
  · cases hkind other (mem_takings.mpr answer.accepted)
    cases outcome with
    | ok u => exact .answered hclean answer
    | error f =>
        obtain ⟨subscribes, text, rfl⟩ := answer.rejected
        exact .turnedDown rfl subscribes answer
  · cases hkind other (mem_takings.mpr dropped.accepted)
    exact .dropped rfl dropped

end DeviceLink
