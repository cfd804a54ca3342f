import DeviceLink.Proofs.Transport.Ledger
import DeviceLink.Proofs.Transport.Usage

/-!
# The ledgers of a transport in use

Each connection of a transport has a ledger.  A connection that was given up, and whose handlers
were told so, is not handed requests any more; so in every ledger a handler stands where its request
stands in the order in which the client has taken them.

* `Usage.Booked`, **`Usage.Booked.act`** — the ledgers of a transport in use say what handlers are
  told.
* `Phase.request?`, **`request_step`** — what a call that hands over a request does next.
* **`Usage.Booked.steps`** — phases that follow each other without a driver's turn.
-/

namespace DeviceLink

namespace Transport

open Ledger

variable {η : Type}

/-! ## One transport -/

/-- Nothing brings back a driver that has given up all handlers. -/
lemma drained_stroke {c c' : Connection η} {s : Stroke η} {effects : List (Effect η)}
    (hs : c.stroke s = some (c', effects)) (h : c.driver.drained) : c'.driver.drained := by
  cases s with
  | turn t =>
      have hturns := Connection.turns_of_drive hs
      cases hturns with
      | take e here | stop here _ | accept here | message here | acknowledge here _ | depart here
      | finish here _ | pass here _ _ _ _ | announce here | abandon here | mark here | lower here
      | drain here =>
          rw [here] at h
          cases h
      | judge here | close here => rfl
  | touch u =>
      cases hs
      exact (c.touch_eq u).1 ▸ h

/-- Whoever gives up all handlers is the transport, or a driver that does not look at events any
more. -/
lemma drained_of_closed {c c' : Connection η} {s : Stroke η} {effects : List (Effect η)}
    (hs : c.stroke s = some (c', effects)) (hx : c.entry? s = some .closed) :
    s = .touch .drain ∨ c'.driver.drained := by
  cases s with
  | turn t =>
      have hturns := Connection.turns_of_drive hs
      refine .inr ?_
      cases hturns with
      | take e here | stop here _ => cases hx
      | accept here | message here | acknowledge here _ | depart here | finish here _
      | pass here _ _ _ _ | announce here | abandon here | mark here | lower here | judge here
      | close here =>
          simp only [Connection.entry?, here] at hx
          cases hx
      | @drain why wasUp here =>
          cases why with
          | abandoned wanted => cases wanted <;> rfl
          | left => rfl
          | failed f => cases wasUp <;> rfl
  | touch u =>
      cases u with
      | drain => exact .inl rfl
      | want _ | cancel | leave | room _ => cases hx
      | submit r =>
          rw [Connection.entry?] at hx
          split at hx <;> cases hx

namespace Usage

variable {u u' : Usage η} {a : Act η} {g : Nat → Ledger η} {n : Nat}

/-- What others learn of something that happens. -/
def effects (u : Usage η) (a : Act η) : List (Effect η) :=
  echo u.transport.connections (u.stroke? a)

/-- The current connection stays what it is, or is given up, or is a new one. -/
lemma current_act (ha : u.act a = some u') :
    u'.transport.current = u.transport.current ∨ u'.transport.current = none ∨
      u'.transport.current = some u.transport.connections.length := by
  cases a with
  | call c =>
      obtain ⟨-, rfl⟩ := call_cases ha
      exact .inl (by cases c <;> rfl)
  | phase =>
      obtain ⟨p, t', told, progress, -, hs, rfl⟩ := phase_cases ha
      rcases current_step hs with ⟨hc, -⟩ | ⟨m, next, -, hc, -⟩ | ⟨hc, -, -⟩
      · exact .inl hc
      · exact .inr (.inl hc)
      · exact .inr (.inr hc)
  | drive m turn =>
      obtain ⟨r, hr, rfl⟩ := Option.map_eq_some_iff.mp ha
      exact .inl (drive_struck hr).2.2
  | room m b =>
      cases ha
      exact .inl rfl

/-- A request is handed to the current connection, and only one that is not the current one any more
has all its handlers given up by the transport. -/
lemma Orderly.touched (h : u.Orderly) {t : Touch η} (hs : u.stroke? a = some (n, .touch t)) :
    (∀ r, t = .submit r → u.transport.current = some n) ∧
      (t = .drain → u.transport.current = none) := by
  cases a with
  | call c | drive m turn => cases hs
  | room m b =>
      cases hs
      exact ⟨by rintro r ⟨⟩, by rintro ⟨⟩⟩
  | phase =>
      obtain ⟨p, hp, hs⟩ := Option.bind_eq_some_iff.mp hs
      have hfits := h.fits p hp
      cases p with
      | request m r =>
          cases hs
          exact ⟨fun _ _ => hfits, by rintro ⟨⟩⟩
      | drain m next =>
          cases hs
          exact ⟨by rintro r ⟨⟩, fun _ => hfits.1⟩
      | silence m next | cancel m next | want m | giveUp m | disconnect m | unwant m =>
          cases hs
          exact ⟨by rintro r ⟨⟩, by rintro ⟨⟩⟩
      | replace _ | start _ | beforeDisconnect | wanted _ | beforeRequest _ | accepted _ _ =>
          cases hs

/-- **Every ledger of a transport in use** says what its tracker holds; and as long as a connection
is the current one, all its handlers are given up only by a driver that does not look at events any
more. -/
structure Booked (u : Usage η) (g : Nat → Ledger η) : Prop where
  orderly : u.Orderly
  tracks : ∀ n, observer.Holds Tracks u.transport.connections[n]? (g n)
  shut : ∀ n c, u.transport.current = some n → u.transport.connections[n]? = some c →
    .closed ∈ g n → c.driver.drained

lemma booked_new (config : TransportConfig) (args : ConnectionArgs) (files : Config.Files) :
    (new config args files : Usage η).Booked fun _ => [] where
  orderly := orderly_new config args files
  tracks _ := rfl
  shut _ _ hcurrent := nomatch hcurrent

/-- What happens to one connection of a transport keeps its tracker with its ledger, and whatever a
handler is told of it is what the ledger says. -/
lemma Booked.tracks_act (h : u.Booked g) (ha : u.act a = some u') (k : Nat)
    (hfair : Fair (u.observe observer a g k)) :
    observer.Holds Tracks u'.transport.connections[k]? (u.observe observer a g k) := by
  have htracks := h.tracks k
  have hshut := h.shut k
  have hstep := step_act observer ha g k
  revert hfair
  generalize u.observe observer a g k = led' at hstep
  generalize u'.transport.connections[k]? = c' at hstep
  generalize hc : u.transport.connections[k]? = c at hstep htracks hshut
  generalize g k = led at hstep htracks hshut
  intro hfair
  cases hstep with
  | still => exact htracks
  | @stroke c c' s effects _ allowed happens =>
      refine (Tracks.stroke htracks happens hfair ?_).1
      rintro r rfl hclosed
      exact hshut c ((h.orderly.touched allowed).1 r rfl) rfl hclosed
  | start =>
      have hnil : led' = [] := htracks
      exact hnil ▸ tracks_new

lemma Booked.shut_act (h : u.Booked g) (ha : u.act a = some u') {k : Nat} {c' : Connection η}
    (hcurrent : u'.transport.current = some k) (hthere : u'.transport.connections[k]? = some c')
    (hclosed : .closed ∈ u.observe observer a g k) : c'.driver.drained := by
  have hknown : u.transport.current = some k ∨ u.transport.connections[k]? = none := by
    rcases current_act ha with hsame | hnone | hnew
    · exact .inl (hsame ▸ hcurrent)
    · cases hnone.symm.trans hcurrent
    · cases hnew.symm.trans hcurrent
      exact .inr (List.getElem?_eq_none (Nat.le_refl _))
  have htracks := h.tracks k
  have hshut := h.shut k
  have hstep := step_act observer ha g k
  revert hclosed
  generalize u.observe observer a g k = led' at hstep
  rw [hthere] at hstep
  generalize hc : u.transport.connections[k]? = c at hstep htracks hshut hknown
  generalize g k = led at hstep htracks hshut
  intro hclosed
  cases hstep with
  | still =>
      rcases hknown with hcurrent | hnone
      · exact hshut c' hcurrent rfl hclosed
      · cases hnone
  | @stroke c _ s effects _ allowed happens =>
      have hcurrent : u.transport.current = some k :=
        hknown.resolve_right fun hnone => nomatch hnone
      rcases List.mem_append.mp hclosed with hclosed | hclosed
      · exact drained_stroke happens (hshut c hcurrent rfl hclosed)
      · rcases drained_of_closed happens (Option.mem_toList.mp hclosed) with rfl | hdrained
        · cases hcurrent.symm.trans ((h.orderly.touched allowed).2 rfl)
        · exact hdrained
  | start =>
      have hnil : led' = [] := htracks
      rw [hnil] at hclosed
      cases hclosed

/-- Whatever a handler is told when something happens is what a ledger says. -/
lemma Booked.justified (h : u.Booked g) {told : Told η}
    (hfair : ∀ n, Fair (u.observe observer a g n)) (hmem : .told told ∈ u.effects a) :
    ∃ n, Justifies (u.observe observer a g n) told := by
  rw [effects] at hmem
  cases hs : u.stroke? a with
  | none =>
      rw [hs] at hmem
      cases hmem
  | some r =>
      obtain ⟨n, s⟩ := r
      have hfair := hfair n
      refine ⟨n, ?_⟩
      rw [hs, echo] at hmem
      rw [observe, hs] at hfair ⊢
      have htracks := h.tracks n
      cases hc : u.transport.connections[n]? with
      | none =>
          rw [hc] at hmem
          cases hmem
      | some c =>
          rw [hc] at hmem htracks
          cases hstroke : c.stroke s with
          | none =>
              simp only [Option.bind_some, hstroke] at hmem
              cases hmem
          | some r =>
              simp only [Option.bind_some, hstroke] at hmem
              simp only [hc, Observer.log, Option.bind_some, hstroke, Option.map_some,
                Function.update_self] at hfair ⊢
              refine (Tracks.stroke htracks hstroke hfair ?_).2 told hmem
              rintro r rfl hclosed
              exact h.shut n c ((h.orderly.touched hs).1 r rfl) hc hclosed

/-- Whatever handlers are told in a phase is what the ledgers say. -/
lemma Booked.justified_phase {t t' : Transport η} {files : Config.Files} {p : Phase η}
    {told : List (Told η)} {progress : Progress η} (h : Usage.Booked ⟨t, files, some p⟩ g)
    (hstep : t.step files p = (t', told, progress))
    (hfair : ∀ n, Fair (Usage.observe observer ⟨t, files, some p⟩ .phase g n)) :
    ∀ x ∈ told, ∃ n, Justifies (Usage.observe observer ⟨t, files, some p⟩ .phase g n) x := by
  intro x hx
  have hstroke : Usage.stroke? ⟨t, files, some p⟩ .phase = p.stroke? := rfl
  refine h.justified hfair ?_
  rw [effects, hstroke]
  rcases step_struck hstep with ⟨-, he⟩ | ⟨-, hnil, -⟩
  · exact he ▸ List.mem_map_of_mem hx
  · rw [hnil] at hx
    cases hx

/-- **Everything that happens** keeps the trackers with the ledgers. -/
theorem Booked.act (h : u.Booked g) (ha : u.act a = some u')
    (hfair : ∀ n, Fair (u.observe observer a g n)) : u'.Booked (u.observe observer a g) where
  orderly := h.orderly.act ha
  tracks k := h.tracks_act ha k (hfair k)
  shut _ _ hcurrent hthere hclosed := h.shut_act ha hcurrent hthere hclosed

end Usage

/-! ## Requests -/

/-- The request that a call hands over. -/
def Phase.request? : Phase η → Option (Tracked η)
  | beforeRequest r | accepted _ r | request _ r => some r
  | replace _ | silence _ _ | cancel _ _ | drain _ _ | start _ | beforeDisconnect | want _
  | wanted _ | giveUp _ | disconnect _ | unwant _ => none

variable {t t' : Transport η} {files : Config.Files} {p : Phase η} {told : List (Told η)}
  {progress : Progress η} {n : Nat}

/-- A call that hands over no request never does. -/
lemma request?_step (h : t.step files p = (t', told, progress)) {q : Phase η}
    (hq : progress = .more q) : q.request? = p.request? := by
  cases p <;> grind [Transport.step, start_of_progress, refused, submit, Phase.request?]

/-- The client takes a request only in the last phase of a call that hands it over. -/
lemma accepted_of_entry? {s : Stroke η} (hp : p.stroke? = some (n, s)) {c : Connection η}
    {kind : AckKind} {h : η} (hx : c.entry? s = some (.accepted kind h)) :
    ∃ r, p = .request n r ∧ r.kind = kind ∧ r.handler = h ∧ c.takes := by
  obtain ⟨⟨m, u⟩, hu, he⟩ := Option.map_eq_some_iff.mp hp
  cases he
  cases u with
  | submit r =>
      have hr : p = .request m r := by
        cases p <;> cases hu
        rfl
      have htakes : (if c.takes then some (Entry.accepted r.kind r.handler) else none)
        = some (.accepted kind h) := hx
      split at htakes
      · next hc =>
          cases htakes
          exact ⟨r, hr, rfl, rfl, hc⟩
      · cases htakes
  | want _ | cancel | drain | leave | room _ => cases hx

/-- **What a call that hands over a request does next:** it goes on, or the request is refused and
the client does not take it, or the client takes it. -/
theorem request_step {r : Tracked η} (hp : p.request? = some r)
    (h : t.step files p = (t', told, progress)) :
    p.stroke? = none ∧ (∃ q, progress = .more q) ∨
      (progress = refused .notConnected ∨ progress = refused (.request .full)) ∧
        (∀ m, p = .request m r → ∀ c, t.connections[m]? = some c → c.takes = false) ∨
      progress = .done (.ok ()) := by
  cases p with
  | beforeRequest other =>
      cases hl : t.live? <;> simp only [Transport.step, hl] at h <;> cases h
      · exact .inr (.inl ⟨.inl rfl, by rintro m ⟨⟩⟩)
      · exact .inl ⟨rfl, _, rfl⟩
  | accepted m other =>
      cases hup : (t.connections[m]?).any (·.up) <;> simp only [Transport.step, hup] at h <;>
        cases h
      · exact .inr (.inl ⟨.inl rfl, by rintro k ⟨⟩⟩)
      · exact .inl ⟨rfl, _, rfl⟩
  | request m other =>
      cases hp
      cases hc : t.connections[m]? with
      | none =>
          simp only [Transport.step, hc] at h
          cases h
          refine .inr (.inl ⟨.inl rfl, ?_⟩)
          rintro k ⟨⟩ c hthere
          cases hc.symm.trans hthere
      | some c =>
          simp only [Transport.step, hc] at h
          have htakes : ({ c with acks := c.acks.enqueue r.kind r.handler } : Connection η).takes
            = c.takes := rfl
          rw [submit] at h
          simp only [htakes] at h
          cases hbusy : c.takes with
          | true =>
              rw [hbusy, if_pos rfl] at h
              cases h
              exact .inr (.inr rfl)
          | false =>
              rw [hbusy, if_neg Bool.false_ne_true] at h
              cases h
              refine .inr (.inl ⟨.inr rfl, ?_⟩)
              rintro k ⟨⟩ d hthere
              cases hc.symm.trans hthere
              exact hbusy
  | replace _ | silence _ _ | cancel _ _ | drain _ _ | start _ | beforeDisconnect | want _
  | wanted _ | giveUp _ | disconnect _ | unwant _ => cases hp

/-! ## Entries in a ledger among others -/

namespace Ledger

variable {ι : Type} [DecidableEq ι] {g : ι → Ledger η} {connection : Option (Connection η)} {i : ι}
  {s : Stroke η}

/-- A stroke of one connection adds an entry to its ledger, or nothing to any. -/
lemma log_cases (connection : Option (Connection η)) (i : ι) (s : Stroke η) (g : ι → Ledger η) :
    observer.log connection i s g = g ∨
      ∃ c x, connection = some c ∧ c.entry? s = some x ∧
        observer.log connection i s g = Function.update g i (g i ++ [x]) := by
  rw [Observer.log]
  cases connection with
  | none => exact .inl rfl
  | some c =>
      cases hs : c.stroke s with
      | none =>
          refine .inl ?_
          simp only [Option.bind_some, hs, Option.map_none]
      | some r =>
          simp only [Option.bind_some, hs, Option.map_some]
          cases hx : c.entry? s with
          | none =>
              have hsame : observer.note c s r.2 (g i) = g i := by
                rw [Tracks.note_eq, hx]
                exact List.append_nil _
              rw [hsame, Function.update_eq_self]
              exact .inl rfl
          | some x =>
              have hnote : observer.note c s r.2 (g i) = g i ++ [x] := by
                rw [Tracks.note_eq, hx]
                rfl
              rw [hnote]
              exact .inr ⟨c, x, rfl, hx, rfl⟩

/-- A ledger only grows. -/
lemma exists_log_eq (connection : Option (Connection η)) (i : ι) (s : Stroke η) (g : ι → Ledger η)
    (k : ι) : ∃ more, observer.log connection i s g k = g k ++ more := by
  rcases log_cases connection i s g with h | ⟨c, x, -, -, h⟩ <;> rw [h]
  · exact ⟨[], (List.append_nil _).symm⟩
  · by_cases hk : k = i
    · rw [hk, Function.update_self]
      exact ⟨[x], rfl⟩
    · rw [Function.update_of_ne hk]
      exact ⟨[], (List.append_nil _).symm⟩

/-- Some of the connections, under other names. -/
lemma log_comp {ι' : Type} [DecidableEq ι'] {f : ι' → ι} (hf : f.Injective)
    (connection : Option (Connection η)) (i : ι') (s : Stroke η) (g : ι → Ledger η) :
    (fun k => observer.log connection (f i) s g (f k))
      = observer.log connection i s fun k => g (f k) := by
  rw [Observer.log, Observer.log]
  cases connection.bind fun c => (c.stroke s).map fun r => (c, r.2) with
  | none => rfl
  | some r => exact Function.update_comp_eq_of_injective g hf i _

end Ledger

/-! ## Phases without a driver's turn -/

/-- The ledgers after a number of phases of a call without a driver's turn. -/
def logSteps (t : Transport η) (files : Config.Files) (p : Phase η) :
    (count : Nat) → (Nat → Ledger η) → Nat → Ledger η
  | 0, g => g
  | count + 1, g =>
    let logged := Usage.observe observer ⟨t, files, some p⟩ .phase g
    match t.step files p with
    | (_, _, .done _) => logged
    | (t, _, .more q) => t.logSteps files q count logged

variable {g : Nat → Ledger η} {count : Nat}

lemma exists_observe_eq (u : Usage η) (a : Act η) (g : Nat → Ledger η) (n : Nat) :
    ∃ more, u.observe observer a g n = g n ++ more := by
  rw [Usage.observe]
  cases u.stroke? a with
  | none => exact ⟨[], (List.append_nil _).symm⟩
  | some r => exact exists_log_eq _ _ _ g n

lemma exists_logSteps_eq (t : Transport η) (files : Config.Files) (p : Phase η) (count : Nat)
    (g : Nat → Ledger η) (n : Nat) : ∃ more, t.logSteps files p count g n = g n ++ more := by
  induction count generalizing t p g with
  | zero => exact ⟨[], (List.append_nil _).symm⟩
  | succ count ih =>
      obtain ⟨more, hmore⟩ := exists_observe_eq ⟨t, files, some p⟩ .phase g n
      rw [logSteps]
      rcases t.step files p with ⟨left, told, q | r⟩
      · obtain ⟨rest, hrest⟩ := ih left q (Usage.observe observer ⟨t, files, some p⟩ .phase g)
        rw [hmore, List.append_assoc] at hrest
        exact ⟨more ++ rest, hrest⟩
      · exact ⟨more, hmore⟩

/-- Where a call hands over no request, no client takes one. -/
lemma takings_logSteps (hp : p.request? = none) (n : Nat) :
    takings (t.logSteps files p count g n) = takings (g n) := by
  induction count generalizing t p g with
  | zero => rfl
  | succ count ih =>
      have hphase : takings (Usage.observe observer ⟨t, files, some p⟩ .phase g n)
          = takings (g n) := by
        have hstroke : Usage.stroke? ⟨t, files, some p⟩ .phase = p.stroke? := rfl
        rw [Usage.observe, hstroke]
        cases hs : p.stroke? with
        | none => rfl
        | some r =>
            obtain ⟨m, s⟩ := r
            rcases log_cases t.connections[m]? m s g with hsame | ⟨c, x, -, hx, hlog⟩
            · exact congrArg takings (congrFun hsame n)
            · by_cases hn : n = m
              · simp only [hn, hlog, Function.update_self, takings_concat]
                cases x with
                | accepted kind h =>
                    obtain ⟨r, rfl, -⟩ := accepted_of_entry? hs hx
                    cases hp
                | event _ | closed => exact List.append_nil _
              · simp only [hlog, Function.update_of_ne hn]
      rw [logSteps]
      rcases hstep : t.step files p with ⟨left, told, q | r⟩
      · exact (ih ((request?_step hstep rfl).trans hp)).trans hphase
      · exact hphase

/-- **Phases without a driver's turn** keep the trackers with the ledgers, and whatever handlers are
told is what the ledgers say. -/
theorem Usage.Booked.steps (h : Usage.Booked ⟨t, files, some p⟩ g)
    (hsteps : t.steps files p count = (t', told, progress))
    (hfair : ∀ n, Fair (t.logSteps files p count g n)) :
    Usage.Booked ⟨t', files, progress.phase?⟩ (t.logSteps files p count g) ∧
      ∀ x ∈ told, ∃ n, Justifies (t.logSteps files p count g n) x := by
  induction count generalizing t p g told with
  | zero =>
      cases hsteps
      exact ⟨h, List.forall_mem_nil _⟩
  | succ count ih =>
      rw [logSteps] at hfair ⊢
      rw [steps] at hsteps
      rcases hstep : t.step files p with ⟨after, first, q | r⟩
      · simp only [hstep] at hsteps hfair ⊢
        have hact : Usage.act ⟨t, files, some p⟩ .phase = some ⟨after, files, some q⟩ := by
          rw [Usage.act, Option.map_some, hstep]
          rfl
        have hphase : ∀ n, Fair (Usage.observe observer ⟨t, files, some p⟩ .phase g n) := by
          intro n
          obtain ⟨more, hmore⟩ := exists_logSteps_eq after files q count
            (Usage.observe observer ⟨t, files, some p⟩ .phase g) n
          exact Fair.of_append (hmore ▸ hfair n)
        rcases hrest : after.steps files q count with ⟨last, more, result⟩
        rw [hrest] at hsteps
        cases hsteps
        obtain ⟨hbooked, hmore⟩ := ih (h.act hact hphase) hrest hfair
        refine ⟨hbooked, fun x hx => ?_⟩
        rcases List.mem_append.mp hx with hx | hx
        · obtain ⟨n, hn⟩ := h.justified_phase hstep hphase x hx
          obtain ⟨rest, hrest⟩ := exists_logSteps_eq after files q count
            (Usage.observe observer ⟨t, files, some p⟩ .phase g) n
          exact ⟨n, hrest ▸ hn.append rest⟩
        · exact hmore x hx
      · simp only [hstep] at hsteps hfair ⊢
        cases hsteps
        have hact : Usage.act ⟨t, files, some p⟩ .phase = some ⟨t', files, none⟩ := by
          rw [Usage.act, Option.map_some, hstep]
          rfl
        exact ⟨h.act hact hfair, h.justified_phase hstep hfair⟩

end Transport

end DeviceLink
