import DeviceLink.Proofs.Transport.Diary
import DeviceLink.Proofs.Transport.Usage

/-!
# A disconnect that was accepted

A disconnect says that the end of the connection is wanted, and then hands the client a disconnect,
or tells the driver of an attempt to stop.  The driver, which comes to its end, looks at that wish
once at most.  It may have looked before the wish was made known, and another disconnect, which is
refused, takes the wish back; so not every disconnect that was accepted is answered.

* `Diary.Answered` — the owner was told once that the connection ended, and not that it failed.
* **`Diary.At.answered_iff`** — that is so unless the driver has looked, and found no wish.
* `Diary.Heeded` — a wish that was made in time, and not taken back, is found.
* `Farewells` — the record of the disconnects.
* **`Usage.answered_of_accepted`** — a disconnect that was accepted in time is answered, if none was
  refused.
* **`Usage.accepted_unanswered`** — neither condition can be left out.
-/

namespace DeviceLink.Transport

variable {η : Type}

/-! ## The answer -/

/-- The owner of the transport is told that the connection ended. -/
def Notice.parting : Notice → Bool
  | disconnected _ => true
  | connected | connectionFailed _ | message _ _ => false

namespace Diary

variable {d : Diary η} {c c' : Connection η} {effects : List (Effect η)}

/-- **The owner was told once that the connection ended**, and not that it failed. -/
structure Answered (d : Diary η) : Prop where
  once : d.notices.countP Notice.parting = 1
  notFailed : ∀ f, .connectionFailed f ∉ d.notices

lemma countP_parting_heard (d : Diary η) : d.heard.countP Notice.parting = 0 := by
  rw [List.countP_eq_zero]
  intro n hn hparting
  refine not_final_of_mem_heard hn ?_
  cases n with
  | disconnected cause => rfl
  | connected | connectionFailed f | message topic payload => cases hparting

/-- **How a driver that has returned has answered**: as wanted, unless it has looked and found no
wish. -/
theorem At.answered_iff {up : Bool} (h : d.At .returned up) : d.Answered ↔ d.looks ≠ [false] := by
  cases h with
  | @returned last said verdict =>
      have hcount : d.notices.countP Notice.parting = last.toList.countP Notice.parting := by
        rw [said, List.countP_append, countP_parting_heard, Nat.zero_add]
      have hfailed : ∀ f, .connectionFailed f ∈ d.notices → last = some (.connectionFailed f) := by
        intro f hf
        rw [said, List.mem_append] at hf
        rcases hf with hf | hf
        · exact (not_final_of_mem_heard hf rfl).elim
        · simpa using hf
      cases verdict with
      | obeyed tells =>
          refine iff_of_true ⟨hcount, fun f hf => nomatch hfailed f hf⟩ ?_
          rw [tells.2]
          rintro ⟨⟩
      | dropped tells =>
          refine iff_of_false (fun hanswered => ?_) (fun hne => hne tells.2)
          cases hcount.symm.trans hanswered.once
      | parted tells | lost tells accepted =>
          refine iff_of_true ⟨hcount, fun f hf => nomatch hfailed f hf⟩ ?_
          rw [tells.1]
          rintro ⟨⟩
      | failed taken looks accepted =>
          refine iff_of_false (fun hanswered => ?_) (fun hne => hne looks)
          cases hcount.symm.trans hanswered.once
      | forgone taken looks accepted =>
          refine iff_of_true ⟨hcount, fun f hf => nomatch hfailed f hf⟩ ?_
          rw [looks]
          rintro ⟨⟩

/-! ## A wish that was made in time -/

/-- **A wish that was made in time**, and not taken back, stands until the driver makes up its mind,
and then the driver has not looked without finding it. -/
def Heeded (d : Diary η) (c : Connection η) : Prop :=
  d.asked → d.takenBack = false → if c.driver.undecided then c.wanted else d.looks ≠ [false]

/-- Such a wish stands as long as the driver is as far from making up its mind as it was. -/
lemma Heeded.of_eq (h : d.Heeded c) {d' : Diary η} (hasked : d'.asked = d.asked)
    (hback : d'.takenBack = d.takenBack) (hlooks : d'.looks = d.looks)
    (hundecided : c'.driver.undecided = c.driver.undecided) (hwanted : c'.wanted = c.wanted) :
    d'.Heeded c' := by
  intro ha hb
  rw [hundecided, hwanted, hlooks]
  exact h (hasked ▸ ha) (hback ▸ hb)

lemma heeded_touch (h : d.Heeded c) (u : Touch η) :
    (observer.note c (.touch u) ((c.touch u).2.map Effect.told) d).Heeded (c.touch u).1 := by
  cases u with
  | want b =>
      cases b with
      | true =>
          intro ha hb
          have hasked : (d.asked || c.driver.undecided) = true := ha
          change if c.driver.undecided then true = true else d.looks ≠ [false]
          cases hu : c.driver.undecided with
          | true => exact rfl
          | false =>
              rw [hu, Bool.or_false] at hasked
              have hlooks := h hasked hb
              rwa [hu] at hlooks
      | false =>
          intro ha hb
          cases hb
  | cancel | drain | room b => exact h.of_eq rfl rfl rfl rfl rfl
  | leave =>
      rw [Connection.touch]
      split <;> exact h.of_eq rfl rfl rfl rfl rfl
  | submit r =>
      rw [Connection.touch, Transport.submit]
      split <;> exact h.of_eq rfl rfl rfl rfl rfl

lemma undecided_of_ending? {e : ClientEvent} {why : Ending} (h : e.ending? = some why) :
    (Driver.ending why).undecided = true := by
  cases e with
  | arrived p => cases h
  | left d =>
      cases d with
      | disconnect =>
          cases h
          rfl
      | request kind pkid | other => cases h
  | failed f =>
      cases h
      rfl

/-- **A turn of the driver**: the wish stands, or the driver finds it. -/
lemma heeded_turn {t : DriverTurn} (h : d.Heeded c) (hat : d.At c.driver c.up)
    (ht : c.Turns t c' effects) : (observer.note c (.turn t) effects d).Heeded c' := by
  have hsame : ∀ {driver : Driver}, c.driver = driver → c'.driver.undecided = driver.undecided →
      c'.wanted = c.wanted → (observer.note c (.turn t) effects d).looks = d.looks →
      (observer.note c (.turn t) effects d).Heeded c' := by
    rintro driver rfl hundecided hwanted hlooks
    refine h.of_eq ?_ ?_ hlooks hundecided hwanted
    all_goals
      cases t with
      | wake w => cases w <;> rfl
      | advance =>
          simp only [observer, write]
          split <;> rfl
  generalize c.up = up at hat
  cases ht with
  | take e here | stop here cancelled => exact hsame here rfl rfl rfl
  | accept here | message here | acknowledge here ack | depart here
  | pass here noNotice noAck noDeparture noEnd | announce here | mark here | lower here
  | close here =>
      refine hsame here rfl rfl ?_
      simp only [observer, write, here]
      rfl
  | finish here ends =>
      refine hsame here (undecided_of_ending? ends) rfl ?_
      simp only [observer, write, here]
      rfl
  | abandon here =>
      -- the driver looks, and the wish still stands
      rw [here] at hat
      intro ha hb
      simp only [observer, write, here] at ha hb ⊢
      have hwanted : c.wanted = true := by
        have hstands := h ha hb
        rwa [here] at hstands
      cases hat with
      | cancelling said stopped looks flag =>
          change d.looks ++ [c.wanted] ≠ [false]
          rw [looks, hwanted]
          rintro ⟨⟩
  | @drain why wasUp here =>
      have hquiet : (observer.note c (.turn .advance) (c.withAcks c.acks.failAll
          (Connection.afterDraining wasUp why)).2 d).looks = d.looks := by
        simp only [observer, write, here]
        rfl
      -- the driver has not looked, and does not look any more
      have hdone : d.looks = [] → (Connection.afterDraining wasUp why).undecided = false →
          (observer.note c (.turn .advance) (c.withAcks c.acks.failAll
            (Connection.afterDraining wasUp why)).2 d).Heeded
            (c.withAcks c.acks.failAll (Connection.afterDraining wasUp why)).1 := by
        intro hlooks hdecided _ _
        change if (Connection.afterDraining wasUp why).undecided then _ else _
        rw [hdecided, hquiet, hlooks]
        rintro ⟨⟩
      rw [here] at hat
      cases hat with
      | draining said tells flag =>
          cases why with
          | abandoned wanted => exact hsame here (by cases wanted <;> rfl) rfl hquiet
          | left => exact hdone tells.1 rfl
          | failed f =>
              cases wasUp with
              | true => exact hdone tells.1 rfl
              | false => exact hsame here rfl rfl hquiet
  | judge here =>
      -- the same, when the attempt has failed
      rw [here] at hat
      intro ha hb
      simp only [observer, write, here] at ha hb ⊢
      have hwanted : c.wanted = true := by
        have hstands := h ha hb
        rwa [here] at hstands
      cases hat with
      | judging said tells accepted =>
          change d.looks ++ [c.wanted] ≠ [false]
          rw [tells.1, hwanted]
          rintro ⟨⟩

/-- A wish that was made in time was made in time. -/
lemma asked_note {s : Stroke η} (h : d.asked) : (observer.note c s effects d).asked := by
  cases s with
  | turn t =>
      cases t with
      | wake w => cases w <;> exact h
      | advance =>
          simp only [observer, write]
          split <;> exact h
  | touch u =>
      cases u with
      | want b =>
          cases b with
          | true => exact (Bool.or_eq_true _ _).mpr (.inl h)
          | false => exact h
      | cancel | drain | leave | submit r | room b => exact h

/-- Only whoever says so takes a wish back. -/
lemma takenBack_note {s : Stroke η} (h : (observer.note c s effects d).takenBack) :
    d.takenBack ∨ s = .touch (.want false) := by
  cases s with
  | turn t =>
      cases t with
      | wake w => cases w <;> exact .inl h
      | advance =>
          simp only [observer, write] at h
          split at h <;> exact .inl h
  | touch u =>
      cases u with
      | want b =>
          cases b with
          | true => exact .inl h
          | false => exact .inr rfl
      | cancel | drain | leave | submit r | room b => exact .inl h

end Diary

/-! ## The record of the disconnects -/

/-- The connection for which a disconnect is accepted or refused. -/
def Phase.parting? : Phase η → Option Nat
  | giveUp n | disconnect n | unwant n => some n
  | replace _ | silence _ _ | cancel _ _ | drain _ _ | start _ | beforeDisconnect | want _
  | wanted _ | beforeRequest _ | accepted _ _ | request _ _ => none

/-- The connection whose end a disconnect under way has said that it wants. -/
def Phase.wishing? : Phase η → Option Nat
  | wanted n | giveUp n | disconnect n | unwant n => some n
  | replace _ | silence _ _ | cancel _ _ | drain _ _ | start _ | beforeDisconnect | want _
  | beforeRequest _ | accepted _ _ | request _ _ => none

variable {t t' : Transport η} {files : Config.Files} {n : Nat}

lemma wishing?_of_parting? {p : Phase η} (h : p.parting? = some n) : p.wishing? = some n := by
  cases p with
  | giveUp m | disconnect m | unwant m => exact h
  | replace _ | silence _ _ | cancel _ _ | drain _ _ | start _ | beforeDisconnect | want _
  | wanted _ | beforeRequest _ | accepted _ _ | request _ _ => cases h

/-- A disconnect says what it wants before it is accepted or refused. -/
lemma wishing_step {p q : Phase η} {told : List (Told η)} (h : t.step files p = (t', told, .more q))
    (hq : q.wishing? = some n) : p = .want n ∨ p.wishing? = some n := by
  cases p <;> grind [Transport.step, start_of_progress, refused, submit, Phase.wishing?]

/-- The disconnect that comes to its end, if one does: of which connection, and whether it is
accepted. -/
def Usage.parted? (u : Usage η) : Act η → Option (Nat × Bool)
  | .phase =>
    match u.underway with
    | none => none
    | some p =>
      match p.parting?, (u.transport.step u.files p).2.2 with
      | some n, .done r => some (n, r.toBool)
      | _, _ => none
  | .call _ | .drive _ _ | .room _ _ => none

/-- The record of the disconnects of a transport in use. -/
structure Farewells (η : Type) where
  diaries : Nat → Diary η := fun _ => {}
  /-- The driver had not made up its mind when the disconnect under way said what it wants. -/
  timely : Bool := false
  /-- The connections whose disconnect was accepted, and whether it was timely. -/
  accepted : List (Nat × Bool) := []
  /-- The connections whose disconnect was refused. -/
  refused : List Nat := []

def Farewells.note (u : Usage η) (a : Act η) (g : Farewells η) : Farewells η where
  diaries := u.observe Diary.observer a g.diaries
  timely :=
    match u.stroke? a with
    | some (n, .touch (.want true)) => u.transport.connections[n]?.any (·.driver.undecided)
    | _ => g.timely
  accepted :=
    match u.parted? a with
    | some (n, true) => (n, g.timely) :: g.accepted
    | _ => g.accepted
  refused :=
    match u.parted? a with
    | some (n, false) => n :: g.refused
    | _ => g.refused

namespace Usage

variable {u u' : Usage η} {a : Act η} {g : Nat → Diary η}

lemma parted?_cases {b : Bool} (h : u.parted? a = some (n, b)) :
    ∃ p, u.underway = some p ∧ p.parting? = some n := by
  cases a with
  | phase =>
      rw [parted?] at h
      cases hp : u.underway with
      | none =>
          rw [hp] at h
          cases h
      | some p =>
          simp only [hp] at h
          split at h
          · next hparting _ =>
              cases h
              exact ⟨p, rfl, hparting⟩
          · cases h
  | call _ | drive _ _ | room _ _ => cases h

lemma asked_observe (h : (g n).asked) : (u.observe Diary.observer a g n).asked :=
  observe_cases Diary.observer u a g n (P := fun d => d.asked) h fun _ _ _ _ => Diary.asked_note h

lemma takenBack_observe (h : (u.observe Diary.observer a g n).takenBack) :
    (g n).takenBack ∨ u.stroke? a = some (n, .touch (.want false)) := by
  revert h
  refine observe_cases Diary.observer u a g n
    (P := fun d => d.takenBack → (g n).takenBack ∨ u.stroke? a = some (n, .touch (.want false)))
    .inl ?_
  intro c s effects hs h
  refine (Diary.takenBack_note h).imp_right ?_
  rintro rfl
  exact hs

/-- A wish of a disconnect is made in time if the driver has not made up its mind. -/
lemma asked_of_want (hs : u.stroke? a = some (n, .touch (.want true)))
    (hu : u.transport.connections[n]?.any (·.driver.undecided)) :
    (u.observe Diary.observer a g n).asked := by
  cases hc : u.transport.connections[n]? with
  | none =>
      rw [hc] at hu
      cases hu
  | some c =>
      rw [hc, Option.any_some] at hu
      simp only [observe, hs, hc]
      change (Function.update g n _ n).asked
      rw [Function.update_self]
      exact (Bool.or_eq_true _ _).mpr (.inr hu)

/-- **What the record says of the disconnects**: each diary says how its connection ends, and a wish
that was made in time stands unless a disconnect was refused. -/
structure Recorded (u : Usage η) (g : Farewells η) : Prop where
  orderly : u.Orderly
  diaries : ∀ n, Diary.observer.Holds (fun c d => d.At c.driver c.up ∧ d.Heeded c)
    u.transport.connections[n]? (g.diaries n)
  wished : g.timely → ∀ p n, u.underway = some p → p.wishing? = some n → (g.diaries n).asked
  accepted : ∀ n, (n, true) ∈ g.accepted → (g.diaries n).asked
  refused : ∀ n, (g.diaries n).takenBack → n ∈ g.refused ∨ u.Gone n

variable {g : Farewells η}

lemma timely_note (h : ∀ m, u.stroke? a ≠ some (m, .touch (.want true))) :
    (g.note u a).timely = g.timely := by
  rw [Farewells.note]
  split
  · next m hs => exact (h m hs).elim
  · rfl

lemma Recorded.wished_act (h : u.Recorded g) (ha : u.act a = some u') (ht : (g.note u a).timely)
    {q : Phase η} (hq : u'.underway = some q) (hwishing : q.wishing? = some n) :
    ((g.note u a).diaries n).asked := by
  cases a with
  | call c =>
      obtain ⟨-, rfl⟩ := call_cases ha
      cases hq
      cases c <;> cases hwishing
  | drive m turn =>
      obtain ⟨r, -, rfl⟩ := Option.map_eq_some_iff.mp ha
      rw [timely_note (by rintro k ⟨⟩)] at ht
      exact asked_observe (h.wished ht q n hq hwishing)
  | room m b =>
      cases ha
      rw [timely_note (by rintro k ⟨⟩)] at ht
      exact asked_observe (h.wished ht q n hq hwishing)
  | phase =>
      obtain ⟨p, t', told, progress, hp, hs, rfl⟩ := phase_cases ha
      have hstroke : u.stroke? .phase = p.stroke? := by rw [stroke?, hp, Option.bind_some]
      cases progress with
      | done r => cases hq
      | more next =>
          cases hq
          rcases wishing_step hs hwishing with rfl | hbefore
          · have hwant : u.stroke? .phase = some (n, .touch (.want true)) := hstroke
            simp only [Farewells.note, hwant] at ht
            exact asked_of_want hwant ht
          · have hne : ∀ m, u.stroke? .phase ≠ some (m, .touch (.want true)) := by
              intro m
              rw [hstroke]
              cases p <;> cases hbefore <;> rintro ⟨⟩
            rw [timely_note hne] at ht
            exact asked_observe (h.wished ht p n hp hbefore)

/-- A wish is taken back by a disconnect that is refused, or when the connection is given up. -/
lemma Recorded.takenBack (h : u.Recorded g) (ha : u.act a = some u')
    (hs : u.stroke? a = some (n, .touch (.want false))) :
    n ∈ (g.note u a).refused ∨ u'.Gone n := by
  cases a with
  | call _ | drive _ _ | room _ _ => cases hs
  | phase =>
      obtain ⟨p, hp, hstroke⟩ := Option.bind_eq_some_iff.mp hs
      cases p with
      | silence m next =>
          cases hstroke
          obtain ⟨hcurrent, hthere⟩ := h.orderly.fits _ hp
          refine .inr (Gone.act ⟨hthere, ?_⟩ ha)
          rw [hcurrent]
          rintro ⟨⟩
      | unwant m =>
          cases hstroke
          have hparted : u.parted? .phase = some (m, false) := by
            rw [parted?, hp]
            rfl
          refine .inl ?_
          simp only [Farewells.note, hparted]
          exact List.mem_cons_self
      | replace _ | cancel _ _ | drain _ _ | start _ | beforeDisconnect | want _ | wanted _
      | giveUp _ | disconnect _ | beforeRequest _ | accepted _ _ | request _ _ => cases hstroke

/-- **Everything that happens** is recorded. -/
theorem Recorded.act (h : u.Recorded g) (ha : u.act a = some u') : u'.Recorded (g.note u a) := by
  refine ⟨h.orderly.act ha, fun n => ?_, ?_, ?_, ?_⟩
  · refine Observer.Holds.step ?_ ?_ (h.diaries n) (step_act Diary.observer ha g.diaries n)
    · rintro c d s c' effects ⟨hat, hheeded⟩ hs
      cases s with
      | turn t =>
          have hturns := Connection.turns_of_drive hs
          exact ⟨Diary.at_turn hat hturns, Diary.heeded_turn hheeded hat hturns⟩
      | touch touch =>
          cases hs
          exact ⟨Diary.at_touch hat touch, Diary.heeded_touch hheeded touch⟩
    · refine ⟨.waiting rfl rfl (iff_of_false Bool.false_ne_true List.not_mem_nil), ?_⟩
      rintro ⟨⟩
  · exact fun ht q n hq hwishing => h.wished_act ha ht hq hwishing
  · intro n hn
    refine asked_observe ?_
    simp only [Farewells.note] at hn
    split at hn
    · next m hparted =>
        rcases List.mem_cons.mp hn with hn | hn
        · obtain ⟨hm, ht⟩ := Prod.mk.inj hn
          obtain ⟨p, hp, hparting⟩ := parted?_cases hparted
          exact h.wished ht.symm p n hp (hm ▸ wishing?_of_parting? hparting)
        · exact h.accepted n hn
    · exact h.accepted n hn
  · intro n hn
    rcases takenBack_observe hn with hn | hs
    · rcases h.refused n hn with hrefused | hgone
      · refine .inl ?_
        simp only [Farewells.note]
        split
        · exact List.mem_cons_of_mem _ hrefused
        · exact hrefused
      · exact .inr (hgone.act ha)
    · exact h.takenBack ha hs

/-- **A disconnect that was accepted.**  When the driver of a connection has returned, it has
answered as wanted unless it has looked and found no wish.  So a disconnect that was accepted is
answered if its wish was made before the driver had made up its mind, no disconnect of that
connection was refused, and the connection was neither replaced nor dropped. -/
theorem answered_of_accepted {config : TransportConfig} {args : ConnectionArgs}
    {acts : List (Act η)} {g : Farewells η}
    (hrun : run Farewells.note (new config args files, {}) acts = (u, g))
    {c : Connection η} (hthere : u.transport.connections[n]? = some c)
    (hreturned : c.driver = .returned) :
    ((g.diaries n).Answered ↔ (g.diaries n).looks ≠ [false]) ∧
      (u.transport.current = some n → (n, true) ∈ g.accepted → n ∉ g.refused →
        (g.diaries n).Answered) := by
  have hrecorded := runWith_induction_of_eq hrun Recorded
    ⟨orderly_new config args files, fun _ => rfl, by rintro ⟨⟩, by rintro n ⟨⟩, by rintro n ⟨⟩⟩
    fun _ _ _ _ hu ha => hu.act ha
  have hdiary := hrecorded.diaries n
  rw [hthere] at hdiary
  obtain ⟨hat, hheeded⟩ := hdiary
  rw [hreturned] at hat
  refine ⟨hat.answered_iff, fun hcurrent haccepted hrefused => hat.answered_iff.mpr ?_⟩
  have hback : (g.diaries n).takenBack = false := by
    by_contra hback
    rcases hrecorded.refused n (Bool.eq_true_of_not_eq_false hback) with hn | hgone
    · exact hrefused hn
    · exact hgone.current hcurrent
  have hlooks := hheeded (hrecorded.accepted n haccepted) hback
  rwa [hreturned] at hlooks

/-- An attempt is given up, and the broker accepts it all the same. -/
def givenUp : List (Act Nat) :=
  [.call (.connect none none), .phase, .phase,
    .call .disconnect, .phase, .phase, .phase, .phase,
    .drive 0 (.wake (.event .acceptance)), .drive 0 .advance, .drive 0 .advance]

/-- The driver sees that it is told to stop, and comes to its end. -/
def stopping : List (Act Nat) :=
  [.drive 0 (.wake .cancellation), .drive 0 .advance, .drive 0 .advance, .drive 0 .advance,
    .drive 0 .advance, .drive 0 .advance]

/-- The attempt that was given up is answered as wanted. -/
theorem answered_of_givenUp :
    let p := run Farewells.note (unsecured, {}) (givenUp ++ stopping)
    p.1.transport.current = some 0 ∧ p.2.accepted = [(0, true)] ∧ p.2.refused = [] ∧
      (p.2.diaries 0).notices = [.connected, .disconnected none] ∧ (p.2.diaries 0).Answered := by
  have hends : let p := run Farewells.note (unsecured, {}) (givenUp ++ stopping)
      p.1.transport.connections[0]?.map (·.driver) = some .returned ∧
        p.1.transport.current = some 0 ∧ p.2.accepted = [(0, true)] ∧ p.2.refused = [] := by
    refine ⟨by decide, by decide, by decide, by decide⟩
  obtain ⟨hdriver, hcurrent, haccepted, hrefused⟩ := hends
  obtain ⟨c, hthere, hreturned⟩ := Option.map_eq_some_iff.mp hdriver
  refine ⟨hcurrent, haccepted, hrefused, by decide, ?_⟩
  refine (answered_of_accepted (Prod.eta _).symm hthere hreturned).2 hcurrent ?_ ?_
  · exact haccepted ▸ List.mem_cons_self
  · exact hrefused ▸ List.not_mem_nil

/-- An attempt has failed and its driver comes to its end; a disconnect looks whether it has, and
says what it wants when the driver has made up its mind. -/
def tooLate : List (Act Nat) :=
  [.call (.connect none none), .phase, .phase,
    .drive 0 (.wake (.event (.failed .networkTimeout))), .drive 0 .advance,
    .call .disconnect, .phase,
    .drive 0 .advance, .drive 0 .advance, .drive 0 .advance, .drive 0 .advance,
    .phase, .phase, .phase, .drive 0 .advance]

/-- Another disconnect of the attempt that was given up is refused. -/
def refusing : List (Act Nat) :=
  [.room 0 false, .call .disconnect, .phase, .phase, .phase, .phase, .phase]

lemma tooLate_ends :
    let p := run Farewells.note (unsecured, {}) tooLate
    p.1.transport.current = some 0 ∧
      p.1.transport.connections[0]?.map (·.driver) = some .returned ∧
      p.2.accepted = [(0, false)] ∧ p.2.refused = [] ∧
      (p.2.diaries 0).notices = [.connectionFailed (.connection .networkTimeout)] := by
  refine ⟨by decide, by decide, by decide, by decide, by decide⟩

lemma refusing_ends :
    let p := run Farewells.note (unsecured, {}) (givenUp ++ refusing ++ stopping)
    p.1.transport.current = some 0 ∧
      p.1.transport.connections[0]?.map (·.driver) = some .returned ∧
      p.2.accepted = [(0, true)] ∧ p.2.refused = [0] ∧ (p.2.diaries 0).notices = [.connected] := by
  refine ⟨by decide, by decide, by decide, by decide, by decide⟩

/-- **A disconnect that was accepted is not always answered**: not if its wish comes too late,
although none was refused, and not if another is refused, although its own wish came in time. -/
theorem accepted_unanswered :
    (¬ ∀ (acts : List (Act Nat)) (u : Usage Nat) (g : Farewells Nat) (n : Nat) (c : Connection Nat),
      run Farewells.note (unsecured, {}) acts = (u, g) → u.transport.connections[n]? = some c →
      c.driver = .returned → u.transport.current = some n → (∃ timely, (n, timely) ∈ g.accepted) →
      n ∉ g.refused → (g.diaries n).Answered) ∧
    ¬ ∀ (acts : List (Act Nat)) (u : Usage Nat) (g : Farewells Nat) (n : Nat) (c : Connection Nat),
      run Farewells.note (unsecured, {}) acts = (u, g) → u.transport.connections[n]? = some c →
      c.driver = .returned → u.transport.current = some n → (n, true) ∈ g.accepted →
      (g.diaries n).Answered := by
  constructor
  · intro h
    obtain ⟨hcurrent, hdriver, haccepted, hrefused, hsaid⟩ := tooLate_ends
    obtain ⟨c, hthere, hreturned⟩ := Option.map_eq_some_iff.mp hdriver
    have hanswered := h tooLate _ _ 0 c (Prod.eta _).symm hthere hreturned hcurrent
      ⟨false, haccepted ▸ List.mem_cons_self⟩ (hrefused ▸ List.not_mem_nil)
    have honce := hanswered.once
    rw [hsaid] at honce
    cases honce
  · intro h
    obtain ⟨hcurrent, hdriver, haccepted, -, hsaid⟩ := refusing_ends
    obtain ⟨c, hthere, hreturned⟩ := Option.map_eq_some_iff.mp hdriver
    have hanswered := h _ _ _ 0 c (Prod.eta _).symm hthere hreturned hcurrent
      (haccepted ▸ List.mem_cons_self)
    have honce := hanswered.once
    rw [hsaid] at honce
    cases honce

end Usage

end DeviceLink.Transport
