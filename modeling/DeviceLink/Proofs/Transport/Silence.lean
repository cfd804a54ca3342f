import DeviceLink.Proofs.Transport.Diary
import DeviceLink.Proofs.Transport.Usage

/-!
# A connection that has been given up

A transport that starts another connection, or goes, gives up the one that it has: nobody wants to
be told of its end, its driver is told to stop, and the transport forgets it.  The driver is not
waited for.  It may be in the middle of an event, and as long as it waits it may take one event more
although it is told to stop, so it is silent only if it is not in the middle of anything and takes
nothing more that it has to tell of.

* `ClientEvent.tells`, `Driver.owed` — what there is to tell when nobody wants the end.
* **`Connection.owed_turn`** — a turn of the driver keeps the account.
* `Usage.Apart` — a transport has nothing more to do with a connection.
* `Usage.Silenced` — nobody wants to be told of the end of a connection that was given up.
* **`Usage.late_notices`** — how much is told of a connection after it has been given up.
* **`Usage.replaced_speaks`** — it may be something.
-/

namespace DeviceLink.Transport

variable {η : Type}

/-! ## What a driver has to tell -/

/-- A driver that takes the event tells the owner of the transport something for it. -/
def ClientEvent.tells (e : ClientEvent) : Bool := e.notice?.isSome || e.ending?.isSome

def Ending.owed : Ending → Nat
  | abandoned wanted => wanted.toNat
  | left | failed _ => 1

/-- How many notices the driver still gives if it takes no further event, when nobody wants the
connection to end. -/
def Driver.owed : Driver → Nat
  | waiting | cancelling | returned => 0
  | holding e => e.tells.toNat
  | announcing | judging _ => 1
  | ending why | lowering why | draining why _ => why.owed
  | closing last => last.toList.length

/-- The event that a driver takes in a turn. -/
def DriverTurn.event? : DriverTurn → Option ClientEvent
  | wake (.event e) => some e
  | wake .cancellation | advance => none

lemma Driver.owed_afterDraining (wasUp : Bool) (why : Ending) :
    (Connection.afterDraining wasUp why).owed = why.owed := by
  cases why with
  | abandoned wanted => cases wanted <;> rfl
  | left => rfl
  | failed f => cases wasUp <;> rfl

namespace ClientEvent

variable {e : ClientEvent}

lemma ending?_of_ack? {ack : AckKind × Nat × Except Fault Unit} (h : e.ack? = some ack) :
    e.ending? = none := by
  cases e with
  | arrived p => rfl
  | left d | failed f => cases h

/-- Of an event that ends the connection there is something to tell. -/
lemma owed_of_ending? {why : Ending} (h : e.ending? = some why) : why.owed = 1 := by
  cases e with
  | arrived p => cases h
  | left d =>
      cases d with
      | disconnect =>
          cases h
          rfl
      | request kind pkid | other => cases h
  | failed f =>
      cases h
      rfl

end ClientEvent

lemma filterMap_notice?_told (told : List (Told η)) :
    (told.map Effect.told).filterMap Effect.notice? = [] := by
  rw [List.filterMap_map, List.filterMap_eq_nil_iff]
  exact fun _ _ => rfl

/-- **A turn of the driver** of a connection whose end nobody wants: it gives what it owes, and owes
what it takes. -/
theorem Connection.owed_turn {c c' : Connection η} {t : DriverTurn} {effects : List (Effect η)}
    (h : c.Turns t c' effects) (hw : c.wanted = false) :
    c'.wanted = false ∧
      (effects.filterMap Effect.notice?).length + c'.driver.owed
        = c.driver.owed + t.event?.toList.countP ClientEvent.tells := by
  cases h with
  | take e here =>
      refine ⟨hw, ?_⟩
      rw [here]
      cases ht : e.tells <;> simp [Driver.owed, DriverTurn.event?, ht]
  | stop here cancelled =>
      rw [here]
      exact ⟨hw, rfl⟩
  | accept here | message here | announce here =>
      rw [here]
      exact ⟨hw, rfl⟩
  | @acknowledge e kind pkid outcome here ack =>
      refine ⟨hw, ?_⟩
      rw [here, withAcks, filterMap_notice?_told]
      change 0 = e.tells.toNat + 0
      rw [ClientEvent.tells, ClientEvent.notice?_of_ack? ack, ClientEvent.ending?_of_ack? ack]
      rfl
  | @depart kind pkid here =>
      refine ⟨hw, ?_⟩
      rw [here, withAcks, filterMap_notice?_told]
      rfl
  | @finish e why here ends =>
      refine ⟨hw, ?_⟩
      have howed : why.owed = 1 := ClientEvent.owed_of_ending? ends
      rw [here]
      change 0 + why.owed = e.tells.toNat + 0
      rw [howed, ClientEvent.tells, ends, Option.isSome_some, Bool.or_true]
      rfl
  | @pass e here noNotice noAck noDeparture noEnd =>
      refine ⟨hw, ?_⟩
      rw [here]
      change 0 = e.tells.toNat + 0
      rw [ClientEvent.tells, noNotice, noEnd]
      rfl
  | abandon here =>
      rw [here, hw]
      exact ⟨rfl, rfl⟩
  | mark here | lower here =>
      rw [here]
      exact ⟨hw, Nat.zero_add _⟩
  | @drain why wasUp here =>
      refine ⟨hw, ?_⟩
      rw [here, withAcks, filterMap_notice?_told, Driver.owed_afterDraining]
      exact Nat.zero_add _
  | judge here =>
      rw [here]
      exact ⟨hw, rfl⟩
  | @close last here =>
      refine ⟨hw, ?_⟩
      rw [here]
      cases last <;> rfl

/-- The end of a connection comes to be wanted only if somebody says so. -/
lemma Connection.wanted_stroke {c c' : Connection η} {s : Stroke η} {effects : List (Effect η)}
    (h : c.stroke s = some (c', effects)) (hw : c.wanted = false)
    (hs : s ≠ .touch (.want true)) : c'.wanted = false := by
  cases s with
  | turn t => exact (owed_turn (turns_of_drive h) hw).1
  | touch u =>
      cases h
      cases u with
      | want b =>
          cases b with
          | true => exact (hs rfl).elim
          | false => rfl
      | cancel | drain | room b => exact hw
      | leave =>
          rw [touch]
          split <;> exact hw
      | submit r =>
          rw [touch, Transport.submit]
          split <;> exact hw

namespace Diary

/-- A turn of the driver adds the event that it takes. -/
lemma taken_turn (c : Connection η) (t : DriverTurn) (effects : List (Effect η)) (d : Diary η) :
    (observer.note c (.turn t) effects d).taken = d.taken ++ t.event?.toList := by
  cases t with
  | wake w => cases w <;> simp [observer, hear, write, DriverTurn.event?]
  | advance =>
      simp only [observer, write]
      split <;> exact (List.append_nil _).symm

/-- A turn of the driver adds what it tells. -/
lemma notices_turn (c : Connection η) (t : DriverTurn) (effects : List (Effect η)) (d : Diary η) :
    (observer.note c (.turn t) effects d).notices
      = d.notices ++ effects.filterMap Effect.notice? := by
  cases t with
  | wake w => cases w <;> rfl
  | advance =>
      simp only [observer, write]
      split <;> rfl

end Diary

/-! ## What a transport does with a connection that it has given up -/

variable {t t' : Transport η} {files : Config.Files} {n : Nat}

namespace Usage

variable {u u' : Usage η} {a : Act η}

/-- **The transport has nothing more to do with a connection**: it is gone, and no call is giving it
up. -/
structure Apart (u : Usage η) (n : Nat) : Prop where
  gone : u.Gone n
  due : ∀ p, u.underway = some p → p.givingUp? ≠ some n

/-- What happens to such a connection is a turn of its driver, or the client's affair. -/
lemma Apart.stroke (h : u.Apart n) (ho : u.Orderly) {s : Stroke η}
    (hs : u.stroke? a = some (n, s)) : (∃ turn, s = .turn turn) ∨ ∃ b, s = .touch (.room b) := by
  cases a with
  | call c => cases hs
  | phase =>
      obtain ⟨p, hp, hstroke⟩ := Option.bind_eq_some_iff.mp hs
      obtain ⟨⟨m, touch⟩, htouch, hm⟩ := Option.map_eq_some_iff.mp hstroke
      cases hm
      rcases (ho.fits p hp).touched htouch with hc | hg
      · exact (h.gone.current hc).elim
      · exact (h.due p hp hg).elim
  | drive m turn =>
      cases hs
      exact .inl ⟨turn, rfl⟩
  | room m b =>
      cases hs
      exact .inr ⟨b, rfl⟩

/-- **A connection that was given up** stays so. -/
lemma Apart.act (h : u.Apart n) (ha : u.act a = some u') : u'.Apart n := by
  refine ⟨h.gone.act ha, ?_⟩
  cases a with
  | call c =>
      obtain ⟨-, rfl⟩ := call_cases ha
      rintro p ⟨⟩
      cases c <;> rintro ⟨⟩
  | phase =>
      obtain ⟨p, t', told, progress, hp, hs, rfl⟩ := phase_cases ha
      rcases current_step hs with ⟨-, hq⟩ | ⟨m, next, hm, -, rfl⟩ | ⟨-, rfl, -⟩
      · cases progress with
        | more q =>
            rintro r ⟨⟩
            rcases hq q rfl with hg | hg
            · exact hg ▸ h.due p hp
            · rw [hg]
              rintro ⟨⟩
        | done r => rintro q ⟨⟩
      · rintro q ⟨⟩ hg
        cases hg
        exact h.gone.current hm
      · rintro q ⟨⟩
  | drive m turn =>
      obtain ⟨r, -, rfl⟩ := Option.map_eq_some_iff.mp ha
      exact h.due
  | room m b =>
      cases ha
      exact h.due

/-- **Nobody wants to be told of the end of a connection that was given up.** -/
def Silenced (u : Usage η) : Prop :=
  ∀ n c, u.transport.connections[n]? = some c → u.transport.current ≠ some n →
    (∀ next, u.underway ≠ some (.silence n next)) → c.wanted = false

lemma wanted_of_step (h : u.act a = some u') {c : Connection η}
    (hc : u'.transport.connections[n]? = some c)
    (hbefore : ∀ c, u.transport.connections[n]? = some c → c.wanted = false)
    (hwant : u.stroke? a ≠ some (n, .touch (.want true))) : c.wanted = false := by
  have hstep := step_act (⟨(), fun _ _ _ _ => ()⟩ : Observer η Unit) h (fun _ => ()) n
  rw [hc] at hstep
  generalize hold : u.transport.connections[n]? = old at hstep
  cases hstep with
  | still => exact hbefore c hold
  | stroke g allowed happens =>
      refine Connection.wanted_stroke happens (hbefore _ hold) ?_
      rintro rfl
      exact hwant allowed
  | start => rfl

/-- **Everything that happens** leaves it so. -/
lemma Silenced.act (h : u.Silenced) (ho : u.Orderly) (ha : u.act a = some u') : u'.Silenced := by
  intro n c hc hcurrent hsilence
  cases a with
  | call call =>
      obtain ⟨hidle, rfl⟩ := call_cases ha
      refine h n c ?_ ?_ ?_
      · cases call <;> exact hc
      · cases call <;> exact hcurrent
      · rw [hidle]
        rintro next ⟨⟩
  | phase =>
      obtain ⟨p, t', told, progress, hp, hs, rfl⟩ := phase_cases ha
      by_cases hgive : ∃ next, p = .silence n next
      · obtain ⟨next, rfl⟩ := hgive
        cases hs
        obtain ⟨old, -, rfl⟩ := Option.map_eq_some_iff.mp
          ((List.getElem?_modify_eq _ _ _).symm.trans hc)
        rfl
      · have hold : u.transport.current ≠ some n := by
          rcases current_step hs with ⟨hsame, -⟩ | ⟨m, next, hm, -, rfl⟩ | ⟨-, -, password, rfl⟩
          · exact hsame ▸ hcurrent
          · rw [hm]
            rintro ⟨⟩
            exact hsilence next rfl
          · have hnone : u.transport.current = none := ho.fits _ hp
            rw [hnone]
            rintro ⟨⟩
        refine wanted_of_step ha hc (fun d hd => h n d hd hold ?_) ?_
        · intro next he
          cases hp.symm.trans he
          exact hgive ⟨next, rfl⟩
        · intro hstroke
          rw [stroke?, hp, Option.bind_some] at hstroke
          obtain ⟨⟨m, touch⟩, htouch, hm⟩ := Option.map_eq_some_iff.mp hstroke
          cases hm
          rcases (ho.fits p hp).touched htouch with hc | hg
          · exact hold hc
          · cases p <;> cases hg <;> cases htouch
  | drive m turn =>
      refine wanted_of_step ha hc (fun d hd => ?_) (by rintro ⟨⟩)
      obtain ⟨r, hr, rfl⟩ := Option.map_eq_some_iff.mp ha
      exact h n d hd ((drive_struck hr).2.2 ▸ hcurrent) hsilence
  | room m b =>
      refine wanted_of_step ha hc (fun d hd => ?_) (by rintro ⟨⟩)
      cases ha
      exact h n d hd hcurrent hsilence

/-! ## What is told of it -/

/-- A connection has been given up, and what has been told of it since, `late`, answers to what its
driver owed then and to the events that it has taken since. -/
structure Accounted (u : Usage η) (n : Nat) (d₁ : Diary η) (owed : Nat) (d : Diary η) : Prop where
  orderly : u.Orderly
  apart : u.Apart n
  account : ∃ c since late, u.transport.connections[n]? = some c ∧ c.wanted = false ∧
    d.taken = d₁.taken ++ since ∧ d.notices = d₁.notices ++ late ∧
    late.length + c.driver.owed = owed + since.countP ClientEvent.tells

lemma Accounted.act {d₁ : Diary η} {owed : Nat} {g : Nat → Diary η}
    (h : u.Accounted n d₁ owed (g n)) (ha : u.act a = some u') :
    u'.Accounted n d₁ owed (observe Diary.observer u a g n) := by
  refine ⟨h.orderly.act ha, h.apart.act ha, ?_⟩
  obtain ⟨c, since, late, hc, hw, htaken, hnotices, haccount⟩ := h.account
  have hstep := step_act Diary.observer ha g n
  rw [hc] at hstep
  generalize u'.transport.connections[n]? = new at hstep ⊢
  generalize observe Diary.observer u a g n = d' at hstep ⊢
  generalize g n = d at hstep htaken hnotices
  cases hstep with
  | still => exact ⟨c, since, late, rfl, hw, htaken, hnotices, haccount⟩
  | @stroke _ c' s effects _ allowed happens =>
      rcases h.apart.stroke h.orderly allowed with ⟨turn, rfl⟩ | ⟨b, rfl⟩
      · obtain ⟨hw', howed⟩ := Connection.owed_turn (Connection.turns_of_drive happens) hw
        refine ⟨c', since ++ turn.event?.toList, late ++ effects.filterMap Effect.notice?, rfl, hw',
          ?_, ?_, ?_⟩
        · rw [Diary.taken_turn, htaken, List.append_assoc]
        · rw [Diary.notices_turn, hnotices, List.append_assoc]
        · rw [List.length_append, List.countP_append]
          omega
      · cases happens
        exact ⟨_, since, late, rfl, hw, htaken, (List.append_nil _).trans hnotices, haccount⟩

/-- **How much is told of a connection after it has been given up**: from the moment that the call
which gives it up has returned, its driver gives one notice for each event that it takes and has to
tell of, and the one that it owed, if it owed one.  So it is silent just if it was not in the middle
of anything and takes nothing more that it has to tell of. -/
theorem late_notices {config : TransportConfig} {args : ConnectionArgs} {acts more : List (Act η)}
    {u₁ u₂ : Usage η} {g₁ g₂ : Nat → Diary η}
    (hbefore : run (observe Diary.observer) (new config args files, fun _ => {}) acts = (u₁, g₁))
    (hreturned : u₁.underway = none) {c₁ : Connection η}
    (hthere : u₁.transport.connections[n]? = some c₁) (hgone : u₁.transport.current ≠ some n)
    (hafter : run (observe Diary.observer) (u₁, g₁) more = (u₂, g₂)) :
    ∃ c₂ since late, u₂.transport.connections[n]? = some c₂ ∧
      (g₂ n).taken = (g₁ n).taken ++ since ∧ (g₂ n).notices = (g₁ n).notices ++ late ∧
      late.length + c₂.driver.owed = c₁.driver.owed + since.countP ClientEvent.tells ∧
      (c₂.driver = .waiting ∨ c₂.driver = .returned →
        (late = [] ↔ c₁.driver.owed = 0 ∧ ∀ e ∈ since, ¬ e.tells)) := by
  obtain ⟨horderly, hsilenced⟩ := runWith_induction_of_eq hbefore
    (fun u _ => u.Orderly ∧ u.Silenced) ⟨orderly_new config args files, by rintro n c ⟨⟩⟩
    fun _ _ _ _ hu ha => ⟨hu.1.act ha, hu.2.act hu.1 ha⟩
  have hwanted : c₁.wanted = false := by
    refine hsilenced n c₁ hthere hgone ?_
    rw [hreturned]
    rintro next ⟨⟩
  have hapart : u₁.Apart n := by
    refine ⟨⟨(List.getElem?_eq_some_iff.mp hthere).1, hgone⟩, ?_⟩
    rw [hreturned]
    rintro p ⟨⟩
  have haccounted := runWith_induction_of_eq hafter
    (fun u g => u.Accounted n (g₁ n) c₁.driver.owed (g n))
    ⟨horderly, hapart, c₁, [], [], hthere, hwanted, (List.append_nil _).symm,
      (List.append_nil _).symm, Nat.add_comm _ _⟩
    fun _ _ _ _ hu ha => hu.act ha
  obtain ⟨c₂, since, late, hc₂, -, htaken, hnotices, haccount⟩ := haccounted.account
  refine ⟨c₂, since, late, hc₂, htaken, hnotices, haccount, fun hrest => ?_⟩
  have hnothing : c₂.driver.owed = 0 := by
    rcases hrest with hrest | hrest <;> rw [hrest] <;> rfl
  rw [← List.length_eq_zero_iff, ← List.countP_eq_zero]
  omega

/-- A connection comes up and is replaced. -/
def replacing : List (Act Nat) :=
  [.call (.connect none none), .phase, .phase, .drive 0 (.wake (.event .acceptance)),
    .drive 0 .advance, .drive 0 .advance,
    .call (.reconnect none), .phase, .phase, .phase, .phase, .phase]

/-- Its driver, which is told to stop, takes one event more. -/
def losing : List (Act Nat) :=
  [.drive 0 (.wake (.event (.failed .networkTimeout))), .drive 0 .advance, .drive 0 .advance,
    .drive 0 .advance, .drive 0 .advance, .drive 0 .advance]

/-- The reconnect has returned, and then the end of the connection that it has replaced is told. -/
lemma losing_ends :
    let p := run (observe Diary.observer) (unsecured, fun _ => {}) replacing
    let q := run (observe Diary.observer) p losing
    p.1.underway = none ∧ p.1.transport.current = some 1 ∧
      (p.1.transport.connections[0]?.map (·.driver)) = some .waiting ∧
      (p.2 0).notices = [.connected] ∧
      (q.2 0).notices = [.connected, .disconnected (some (.connection .networkTimeout))] ∧
      (q.1.transport.connections[0]?.map (·.driver)) = some .returned := by
  refine ⟨by decide, by decide, by decide, by decide, by decide, by decide⟩

/-- A driver that waited when its connection was replaced, and then took the loss of it, has told
that one event and no other. -/
theorem late_notices_of_losing :
    let p := run (observe Diary.observer) (unsecured, fun _ => {}) replacing
    let q := run (observe Diary.observer) p losing
    p.1.underway = none ∧ p.1.transport.current ≠ some 0 ∧
      ∃ c₁ c₂ since late, p.1.transport.connections[0]? = some c₁ ∧
        q.1.transport.connections[0]? = some c₂ ∧ (q.2 0).taken = (p.2 0).taken ++ since ∧
        (q.2 0).notices = (p.2 0).notices ++ late ∧
        late.length + c₂.driver.owed = c₁.driver.owed + since.countP ClientEvent.tells ∧
        late = [.disconnected (some (.connection .networkTimeout))] := by
  obtain ⟨hreturned, hcurrent, hwaiting, hsaid, hlater, -⟩ := losing_ends
  have hgone : (run (observe Diary.observer) (unsecured, fun _ => {}) replacing).1.transport.current
      ≠ some 0 := by
    rw [hcurrent]
    rintro ⟨⟩
  obtain ⟨c₁, hthere, -⟩ := Option.map_eq_some_iff.mp hwaiting
  obtain ⟨c₂, since, late, hc₂, htaken, hnotices, haccount, -⟩ :=
    late_notices (Prod.eta _).symm hreturned hthere hgone
      (Prod.eta (run (observe Diary.observer) _ losing)).symm
  refine ⟨hreturned, hgone, c₁, c₂, since, late, hthere, hc₂, htaken, hnotices, haccount, ?_⟩
  have hboth := hlater.symm.trans (hnotices.trans (congrArg (· ++ late) hsaid))
  exact (List.cons.inj hboth).2.symm

/-- **A connection that was replaced is not silent**, even if its driver waited when the call that
replaced it returned. -/
theorem replaced_speaks :
    ¬ ∀ (acts more : List (Act Nat)) (u₁ u₂ : Usage Nat) (g₁ g₂ : Nat → Diary Nat) (n : Nat),
      run (observe Diary.observer) (unsecured, fun _ => {}) acts = (u₁, g₁) →
      u₁.underway = none → n < u₁.transport.connections.length → u₁.transport.current ≠ some n →
      run (observe Diary.observer) (u₁, g₁) more = (u₂, g₂) → (g₂ n).notices = (g₁ n).notices := by
  intro h
  obtain ⟨hreturned, hcurrent, hwaiting, hsaid, hlater, -⟩ := losing_ends
  obtain ⟨c, hthere, -⟩ := Option.map_eq_some_iff.mp hwaiting
  have hsame := h replacing losing _ _ _ _ 0 (Prod.eta _).symm hreturned
    (List.getElem?_eq_some_iff.mp hthere).1 (by rw [hcurrent]; rintro ⟨⟩) (Prod.eta _).symm
  rw [hsaid] at hsame
  cases hsame.symm.trans hlater

end Usage

end DeviceLink.Transport
