import DeviceLink.Proofs.Transport.Life
import DeviceLink.Proofs.Transport.Tracker

/-!
# What a driver tells of its connection

The driver of a connection takes what the client under it reports, one event after the other, and
tells the owner of the transport as much of it as he has to know.  How it ends depends on the last
event, on whether the broker had accepted the connection, and on a flag that the transport may
change at any time, at which the driver looks once, if it looks at all.

* `Diary` — the record of one connection: the events that its driver has taken, what it found when
  it looked at the flag, what it has told the owner and the handlers.
* `Diary.Verdict` — how a connection ends, as far as its diary tells.
* `Diary.At` — what stands in the diary while the driver is where it is.
* `Diary.Settled` — whom the driver still has to tell that the connection is closed.
* **`at_watch`**, **`settled_watch`** — both hold in every life.
* **`proper_of_watch`** — the protocol of the notices, for every life of a connection.
-/

namespace DeviceLink.Transport

variable {η : Type}

/-! ## The diary -/

/-- The notice is the last one of its connection. -/
def Notice.final : Notice → Bool
  | connected | message _ _ => false
  | connectionFailed _ | disconnected _ => true

def Effect.notice? : Effect η → Option Notice
  | notice n => some n
  | told _ => none

def Effect.told? : Effect η → Option (Told η)
  | told t => some t
  | notice _ => none

/-- The driver has not yet made up its mind about the last notice. -/
def Driver.undecided : Driver → Bool
  | waiting | holding _ | announcing | cancelling | judging _ => true
  | ending why | lowering why | draining why _ =>
    match why with
    | .abandoned _ => false
    | .left | .failed _ => true
  | closing _ | returned => false

/-- The record of one connection. -/
structure Diary (η : Type) where
  /-- The events that the driver has taken. -/
  taken : List ClientEvent := []
  /-- The driver has seen that it is cancelled. -/
  stopped : Bool := false
  /-- What the driver has found, each time that it looked whether a disconnect is wanted. -/
  looks : List Bool := []
  /-- What the driver has told the owner of the transport. -/
  notices : List Notice := []
  /-- The handlers that waited when the connection was marked as ended. -/
  left : List η := []
  /-- What handlers have been told since then. -/
  told : List (Told η) := []
  /-- A disconnect was wanted while the driver had not yet made up its mind. -/
  asked : Bool := false
  /-- A disconnect was not wanted any more. -/
  takenBack : Bool := false

namespace Diary

def hear (d : Diary η) (effects : List (Effect η)) : Diary η :=
  { d with
    notices := d.notices ++ effects.filterMap Effect.notice?
    told := d.told ++ effects.filterMap Effect.told? }

/-- What is written down of a stroke. -/
def write (d : Diary η) (c : Connection η) : Stroke η → Diary η
  | .turn (.wake (.event e)) => { d with taken := d.taken ++ [e] }
  | .turn (.wake .cancellation) => { d with stopped := true }
  | .turn .advance =>
    match c.driver with
    | .cancelling | .judging _ => { d with looks := d.looks ++ [c.wanted] }
    | .ending _ => { d with left := c.acks.waiting, told := [] }
    | _ => d
  | .touch (.want true) => { d with asked := d.asked || c.driver.undecided }
  | .touch (.want false) => { d with takenBack := true }
  | .touch _ => d

def observer : Observer η (Diary η) where
  start := {}
  note c s effects d := (d.hear effects).write c s

/-- What the driver has to tell of the events that it has taken. -/
def heard (d : Diary η) : List Notice := d.taken.filterMap ClientEvent.notice?

/-- The broker has accepted the connection. -/
def Accepted (d : Diary η) : Prop := .acceptance ∈ d.taken

/-! ## How a connection ends -/

/-- What the diary says of it when a driver comes to its end. -/
def Tells (d : Diary η) : Ending → Prop
  | .abandoned wanted => d.stopped ∧ d.looks = [wanted]
  | .left => d.looks = [] ∧ ∃ before, d.taken = before ++ [.left .disconnect]
  | .failed f => d.looks = [] ∧ ∃ before, d.taken = before ++ [.failed f]

/-- **How a connection ends**, as far as its diary tells: the last notice, or none. -/
inductive Verdict (d : Diary η) : Option Notice → Prop where
  | obeyed (tells : d.Tells (.abandoned true)) : Verdict d (some (.disconnected none))
  | dropped (tells : d.Tells (.abandoned false)) : Verdict d none
  | parted (tells : d.Tells .left) : Verdict d (some (.disconnected none))
  | lost {f : ConnectionFault} (tells : d.Tells (.failed f)) (accepted : d.Accepted) :
      Verdict d (some (.disconnected (some (.connection f))))
  | failed {f : ConnectionFault} (taken : ∃ before, d.taken = before ++ [.failed f])
      (looks : d.looks = [false]) (accepted : ¬ d.Accepted) :
      Verdict d (some (.connectionFailed (.connection f)))
  /-- The attempt failed, and a disconnect was wanted. -/
  | forgone {f : ConnectionFault} (taken : ∃ before, d.taken = before ++ [.failed f])
      (looks : d.looks = [true]) (accepted : ¬ d.Accepted) :
      Verdict d (some (.disconnected none))

/-- **What stands in the diary** while the driver is where it is and the connection is up or not. -/
inductive At (d : Diary η) : Driver → Bool → Prop where
  | waiting {up : Bool} (said : d.notices = d.heard) (looks : d.looks = [])
      (flag : up ↔ d.Accepted) : At d .waiting up
  | holding {before : List ClientEvent} {e : ClientEvent} {up : Bool}
      (taken : d.taken = before ++ [e]) (said : d.notices = before.filterMap ClientEvent.notice?)
      (looks : d.looks = []) (flag : up ↔ .acceptance ∈ before) : At d (.holding e) up
  | announcing {before : List ClientEvent} (taken : d.taken = before ++ [.acceptance])
      (said : d.notices = before.filterMap ClientEvent.notice?) (looks : d.looks = []) :
      At d .announcing true
  | cancelling {up : Bool} (said : d.notices = d.heard) (stopped : d.stopped) (looks : d.looks = [])
      (flag : up ↔ d.Accepted) : At d .cancelling up
  | ending {why : Ending} {up : Bool} (said : d.notices = d.heard) (tells : d.Tells why)
      (flag : up ↔ d.Accepted) : At d (.ending why) up
  | lowering {why : Ending} {up : Bool} (said : d.notices = d.heard) (tells : d.Tells why)
      (flag : up ↔ d.Accepted) : At d (.lowering why) up
  | draining {why : Ending} {wasUp : Bool} (said : d.notices = d.heard) (tells : d.Tells why)
      (flag : wasUp ↔ d.Accepted) : At d (.draining why wasUp) false
  | judging {f : ConnectionFault} (said : d.notices = d.heard) (tells : d.Tells (.failed f))
      (accepted : ¬ d.Accepted) : At d (.judging f) false
  | closing {last : Option Notice} (said : d.notices = d.heard) (verdict : d.Verdict last) :
      At d (.closing last) false
  | returned {last : Option Notice} (said : d.notices = d.heard ++ last.toList)
      (verdict : d.Verdict last) : At d .returned false

variable {d d' : Diary η} {c c' : Connection η} {effects : List (Effect η)}

/-! ## Every stroke keeps what stands in the diary -/

lemma Tells.of_eq {why : Ending} (h : d.Tells why) (ht : d'.taken = d.taken)
    (hs : d'.stopped = d.stopped) (hl : d'.looks = d.looks) : d'.Tells why := by
  cases why with
  | abandoned wanted => exact ⟨hs ▸ h.1, hl ▸ h.2⟩
  | left | failed f => exact ⟨hl ▸ h.1, ht ▸ h.2⟩

/-- What stands in the diary of events, notices and looks decides. -/
lemma Verdict.of_eq {last : Option Notice} (h : d.Verdict last) (ht : d'.taken = d.taken)
    (hs : d'.stopped = d.stopped) (hl : d'.looks = d.looks) : d'.Verdict last := by
  have haccepted : d'.Accepted ↔ d.Accepted := by rw [Accepted, Accepted, ht]
  cases h with
  | obeyed tells => exact .obeyed (tells.of_eq ht hs hl)
  | dropped tells => exact .dropped (tells.of_eq ht hs hl)
  | parted tells => exact .parted (tells.of_eq ht hs hl)
  | lost tells accepted => exact .lost (tells.of_eq ht hs hl) (haccepted.mpr accepted)
  | failed taken looks accepted =>
      exact .failed (ht ▸ taken) (hl ▸ looks) (mt haccepted.mp accepted)
  | forgone taken looks accepted =>
      exact .forgone (ht ▸ taken) (hl ▸ looks) (mt haccepted.mp accepted)

lemma At.of_eq {driver : Driver} {up : Bool} (h : d.At driver up) (ht : d'.taken = d.taken)
    (hs : d'.stopped = d.stopped) (hl : d'.looks = d.looks) (hn : d'.notices = d.notices) :
    d'.At driver up := by
  have haccepted : d'.Accepted ↔ d.Accepted := by rw [Accepted, Accepted, ht]
  have hheard : d'.heard = d.heard := by rw [heard, heard, ht]
  cases h with
  | waiting said looks flag =>
      exact .waiting (by rw [hn, hheard, said]) (hl ▸ looks) (flag.trans haccepted.symm)
  | holding taken said looks flag => exact .holding (ht ▸ taken) (hn ▸ said) (hl ▸ looks) flag
  | announcing taken said looks => exact .announcing (ht ▸ taken) (hn ▸ said) (hl ▸ looks)
  | cancelling said stopped looks flag =>
      exact .cancelling (by rw [hn, hheard, said]) (hs ▸ stopped) (hl ▸ looks)
        (flag.trans haccepted.symm)
  | ending said tells flag =>
      exact .ending (by rw [hn, hheard, said]) (tells.of_eq ht hs hl) (flag.trans haccepted.symm)
  | lowering said tells flag =>
      exact .lowering (by rw [hn, hheard, said]) (tells.of_eq ht hs hl) (flag.trans haccepted.symm)
  | draining said tells flag =>
      exact .draining (by rw [hn, hheard, said]) (tells.of_eq ht hs hl) (flag.trans haccepted.symm)
  | judging said tells accepted =>
      exact .judging (by rw [hn, hheard, said]) (tells.of_eq ht hs hl) (mt haccepted.mp accepted)
  | closing said verdict =>
      exact .closing (by rw [hn, hheard, said]) (verdict.of_eq ht hs hl)
  | returned said verdict =>
      exact .returned (by rw [hn, hheard, said]) (verdict.of_eq ht hs hl)

/-- Handlers that are told something hear it, and nobody else. -/
lemma notices_hear_told (d : Diary η) (told : List (Told η)) :
    (d.hear (told.map Effect.told)).notices = d.notices := by
  have hnone : (told.map Effect.told).filterMap Effect.notice? = [] := by
    rw [List.filterMap_map, List.filterMap_eq_nil_iff]
    exact fun _ _ => rfl
  rw [hear, hnone, List.append_nil]

lemma at_touch (h : d.At c.driver c.up) (u : Touch η) :
    (observer.note c (.touch u) ((c.touch u).2.map Effect.told) d).At (c.touch u).1.driver
      (c.touch u).1.up := by
  obtain ⟨hdriver, hup, -⟩ := c.touch_eq u
  rw [hdriver, hup]
  have hnotices := notices_hear_told d (c.touch u).2
  refine h.of_eq ?_ ?_ ?_ (Eq.trans ?_ hnotices)
  all_goals
    cases u with
    | want b => cases b <;> rfl
    | cancel | drain | leave | submit r | room b => rfl

/-- What there is to tell of the last event comes last. -/
lemma heard_of_taken {before : List ClientEvent} {e : ClientEvent}
    (taken : d.taken = before ++ [e]) :
    d.heard = before.filterMap ClientEvent.notice? ++ e.notice?.toList := by
  rw [heard, taken, List.filterMap_append]
  cases hn : e.notice? <;> simp [hn]

lemma accepted_of_taken {before : List ClientEvent} {e : ClientEvent}
    (taken : d.taken = before ++ [e]) (he : e ≠ .acceptance) :
    d.Accepted ↔ .acceptance ∈ before := by
  rw [Accepted, taken, List.mem_append, List.mem_singleton]
  exact ⟨fun hmem => hmem.resolve_right fun hacc => he hacc.symm, .inl⟩

/-- A driver that goes on waiting has told what it had to tell of the event that it held. -/
lemma At.waiting_of_holding {before : List ClientEvent} {e : ClientEvent} {up : Bool}
    (taken : d.taken = before ++ [e])
    (said : d.notices = before.filterMap ClientEvent.notice? ++ e.notice?.toList)
    (looks : d.looks = []) (flag : up ↔ .acceptance ∈ before) (he : e ≠ .acceptance) :
    d.At .waiting up :=
  .waiting (said.trans (heard_of_taken taken).symm) looks
    (flag.trans (accepted_of_taken taken he).symm)

/-- An event that ends the connection is what the driver comes to its end for. -/
lemma tells_of_ending {before : List ClientEvent} {e : ClientEvent} {why : Ending}
    (taken : d.taken = before ++ [e]) (looks : d.looks = []) (ends : e.ending? = some why) :
    d.Tells why := by
  cases e with
  | arrived p => cases ends
  | left departure =>
      cases departure with
      | disconnect =>
          cases ends
          exact ⟨looks, before, taken⟩
      | request kind pkid | other => cases ends
  | failed f =>
      cases ends
      exact ⟨looks, before, taken⟩

/-- Once the handlers have been told, the last notice is known, unless the attempt failed. -/
lemma At.of_draining {why : Ending} {wasUp : Bool} (said : d.notices = d.heard)
    (tells : d.Tells why) (flag : wasUp ↔ d.Accepted) :
    d.At (Connection.afterDraining wasUp why) false := by
  cases why with
  | abandoned wanted =>
      cases wanted with
      | true => exact .closing said (.obeyed tells)
      | false => exact .closing said (.dropped tells)
  | left => exact .closing said (.parted tells)
  | failed f =>
      cases wasUp with
      | true => exact .closing said (.lost tells (flag.mp rfl))
      | false => exact .judging said tells fun haccepted => nomatch flag.mpr haccepted

/-- **A turn of the driver** keeps what stands in the diary. -/
lemma at_turn {t : DriverTurn} (h : d.At c.driver c.up) (ht : c.Turns t c' effects) :
    (observer.note c (.turn t) effects d).At c'.driver c'.up := by
  generalize hup : c.up = up at h
  cases ht with
  | take e here =>
      rw [here] at h
      cases h with
      | waiting said looks flag =>
          exact .holding rfl ((List.append_nil _).trans said) looks (hup ▸ flag)
  | stop here cancelled =>
      rw [here] at h
      cases h with
      | waiting said looks flag =>
          exact .cancelling ((List.append_nil _).trans said) rfl looks (hup ▸ flag)
  | accept here =>
      rw [here] at h
      simp only [observer, write, here]
      cases h with
      | holding taken said looks flag =>
          exact .announcing taken ((List.append_nil _).trans said) looks
  | message here =>
      rw [here] at h
      simp only [observer, write, here]
      cases h with
      | holding taken said looks flag =>
          refine At.waiting_of_holding taken ?_ looks (hup ▸ flag) (by rintro ⟨⟩)
          exact congrArg (· ++ _) said
  | @acknowledge e kind pkid outcome here ack =>
      rw [here] at h
      simp only [observer, write, here]
      have hnotices := notices_hear_told d (c.acks.acknowledged kind pkid outcome).2
      cases h with
      | holding taken said looks flag =>
          have hnone : e.notice? = none := ClientEvent.notice?_of_ack? ack
          refine At.waiting_of_holding taken ?_ looks (hup ▸ flag) ?_
          · rw [hnone, Option.toList_none, List.append_nil, ← said]
            exact hnotices
          · rintro rfl
            cases ack
  | @depart kind pkid here =>
      rw [here] at h
      simp only [observer, write, here]
      have hnotices := notices_hear_told d (c.acks.sent kind pkid).2
      cases h with
      | holding taken said looks flag =>
          refine At.waiting_of_holding taken ?_ looks (hup ▸ flag) (by rintro ⟨⟩)
          exact (hnotices.trans said).trans (List.append_nil _).symm
  | @finish e why here ends =>
      rw [here] at h
      simp only [observer, write, here]
      cases h with
      | holding taken said looks flag =>
          have hnone : e.notice? = none := ClientEvent.notice?_of_ending? ends
          have hne : e ≠ .acceptance := by
            rintro rfl
            cases ends
          refine .ending ?_ (tells_of_ending taken looks ends)
            (hup ▸ flag.trans (accepted_of_taken (d := d) taken hne).symm)
          have hheard := heard_of_taken taken
          rw [hnone, Option.toList_none, List.append_nil, ← said] at hheard
          exact (List.append_nil _).trans hheard.symm
  | @pass e here noNotice noAck noDeparture noEnd =>
      rw [here] at h
      simp only [observer, write, here]
      cases h with
      | holding taken said looks flag =>
          refine At.waiting_of_holding taken ?_ looks (hup ▸ flag) ?_
          · rw [noNotice, Option.toList_none, List.append_nil, ← said]
            exact List.append_nil _
          · rintro rfl
            cases noNotice
  | announce here =>
      rw [here] at h
      simp only [observer, write, here]
      cases h with
      | announcing taken said looks =>
          refine .waiting ?_ looks ?_
          · exact (congrArg (· ++ _) said).trans (heard_of_taken (d := d) taken).symm
          · rw [hup]
            refine iff_of_true rfl ?_
            rw [Accepted, hear, taken]
            exact List.mem_append_right _ List.mem_cons_self
  | abandon here =>
      rw [here] at h
      simp only [observer, write, here]
      cases h with
      | cancelling said stopped looks flag =>
          refine .ending ((List.append_nil _).trans said) ⟨stopped, ?_⟩ (hup ▸ flag)
          exact congrArg (· ++ _) looks
  | mark here =>
      rw [here] at h
      simp only [observer, write, here]
      cases h with
      | ending said tells flag =>
          exact .lowering ((List.append_nil _).trans said) (tells.of_eq rfl rfl rfl) (hup ▸ flag)
  | lower here =>
      rw [here] at h
      simp only [observer, write, here]
      cases h with
      | lowering said tells flag =>
          exact .draining ((List.append_nil _).trans said) (tells.of_eq rfl rfl rfl) (hup ▸ flag)
  | drain here =>
      rw [here] at h
      simp only [observer, write, here]
      have hnotices := notices_hear_told d c.acks.failAll.2
      cases h with
      | draining said tells flag =>
          change At _ (Connection.afterDraining _ _) c.up
          rw [hup]
          exact At.of_draining (hnotices.trans said) (tells.of_eq rfl rfl rfl) flag
  | judge here =>
      rw [here] at h
      simp only [observer, write, here]
      cases h with
      | judging said tells accepted =>
          rw [hup]
          refine .closing ((List.append_nil _).trans said) ?_
          have hlooks : ∀ b, c.wanted = b → d.looks ++ [c.wanted] = [b] := by
            rintro b rfl
            exact congrArg (· ++ _) tells.1
          cases hw : c.wanted with
          | true => exact .forgone tells.2 (hw ▸ hlooks true hw) accepted
          | false => exact .failed tells.2 (hw ▸ hlooks false hw) accepted
  | @close last here =>
      rw [here] at h
      simp only [observer, write, here]
      cases h with
      | closing said verdict =>
          rw [hup]
          have hlast : (last.toList.map (Effect.notice (η := η))).filterMap Effect.notice?
              = last.toList := by
            cases last <;> rfl
          have hsaid : (d.hear (last.toList.map Effect.notice)).notices
              = d.heard ++ last.toList := by
            rw [hear, hlast, said]
          exact .returned hsaid (verdict.of_eq rfl rfl rfl)

/-- **What stands in the diary**, in every life of a connection. -/
theorem at_watch (strokes : List (Stroke η)) :
    (observer.watch ({}, {}) strokes).2.At (observer.watch ({}, {}) strokes).1.driver
      (observer.watch ({}, {}) strokes).1.up := by
  refine Observer.Keeps.watch (P := fun c (d : Diary η) => d.At c.driver c.up) ?_ ?_ strokes
  · intro c d s c' effects h hs
    cases s with
    | turn t => exact at_turn h (Connection.turns_of_drive hs)
    | touch u =>
        cases hs
        exact at_touch h u
  · exact .waiting rfl rfl (iff_of_false Bool.false_ne_true List.not_mem_nil)

/-! ## Whom the driver has to tell -/

/-- The handlers that have been told something since the connection was marked as ended. -/
def informed (d : Diary η) : Multiset η := (d.told.map Prod.fst : List η)

/-- **Whom the driver still has to tell** that the connection is closed: every handler that waited
when the connection was marked as ended has been told something since, or waits still; and none of
them waits any more once the driver has told those who do. -/
def Settled (d : Diary η) (c : Connection η) : Prop :=
  match c.driver with
  | .waiting | .holding _ | .announcing | .cancelling | .ending _ => True
  | .lowering _ | .draining _ _ => c.ended ∧ (d.left : Multiset η) ≤ d.informed + c.acks.handlers
  | .judging _ | .closing _ | .returned => c.ended ∧ (d.left : Multiset η) ≤ d.informed

lemma informed_hear_told (d : Diary η) (told : List (Told η)) :
    (d.hear (told.map Effect.told)).informed = d.informed + (told.map Prod.fst : List η) := by
  have htold : (told.map Effect.told).filterMap Effect.told? = told := by
    rw [List.filterMap_map]
    exact List.filterMap_some
  rw [informed, hear, htold, List.map_append, ← Multiset.coe_add]
  rfl

/-- Whoever waits is told something by a touch, or waits after it. -/
lemma handlers_touch (c : Connection η) (u : Touch η) :
    c.acks.handlers ≤ ((c.touch u).2.map Prod.fst : List η) + (c.touch u).1.acks.handlers := by
  cases u with
  | want b | cancel | room b => exact le_of_eq (zero_add _).symm
  | drain =>
      rw [Connection.touch, AckTracker.told_failAll]
      exact Multiset.le_add_right _ _
  | leave =>
      rw [Connection.touch]
      split <;> exact le_of_eq (zero_add _).symm
  | submit r =>
      have hnil : (([] : List (Told η)).map Prod.fst : Multiset η) = 0 := rfl
      rw [Connection.touch, hnil, zero_add, Transport.submit]
      split
      · change _ ≤ (c.acks.enqueue r.kind r.handler).handlers
        rw [AckTracker.handlers_enqueue]
        exact Multiset.le_add_right _ _
      · change _ ≤ ((c.acks.enqueue r.kind r.handler).withdrawLast r.kind).2.handlers
        rw [AckTracker.withdrawLast_enqueue]

lemma settled_touch (h : d.Settled c) (u : Touch η) :
    (observer.note c (.touch u) ((c.touch u).2.map Effect.told) d).Settled (c.touch u).1 := by
  obtain ⟨hdriver, -, hended⟩ := c.touch_eq u
  have hleft : (observer.note c (.touch u) ((c.touch u).2.map Effect.told) d).left = d.left := by
    cases u with
    | want b => cases b <;> rfl
    | cancel | drain | leave | submit r | room b => rfl
  have hinformed : (observer.note c (.touch u) ((c.touch u).2.map Effect.told) d).informed
      = d.informed + ((c.touch u).2.map Prod.fst : List η) := by
    rw [← informed_hear_told]
    cases u with
    | want b => cases b <;> rfl
    | cancel | drain | leave | submit r | room b => rfl
  rw [Settled] at h ⊢
  rw [hdriver, hended, hleft, hinformed]
  cases hd : c.driver with
  | waiting | holding _ | announcing | cancelling | ending _ => trivial
  | lowering why | draining why wasUp =>
      rw [hd] at h
      refine ⟨h.1, h.2.trans ?_⟩
      rw [add_assoc]
      exact add_le_add_right (handlers_touch c u) _
  | judging f | closing last | returned =>
      rw [hd] at h
      exact ⟨h.1, h.2.trans (Multiset.le_add_right _ _)⟩

lemma settled_turn {t : DriverTurn} (h : d.Settled c) (ht : c.Turns t c' effects) :
    (observer.note c (.turn t) effects d).Settled c' := by
  cases ht with
  | take | stop | accept | message | acknowledge | depart | finish | pass | announce | abandon =>
      trivial
  | mark here =>
      simp only [observer, write, here]
      refine ⟨rfl, ?_⟩
      exact Multiset.le_add_left _ _
  | lower here =>
      rw [Settled, here] at h
      simp only [observer, write, here]
      have hinformed := informed_hear_told d []
      refine ⟨h.1, h.2.trans (le_of_eq ?_)⟩
      exact congrArg (· + _) (hinformed.trans (add_zero _)).symm
  | @drain why wasUp here =>
      rw [Settled, here] at h
      simp only [observer, write, here]
      have hinformed := informed_hear_told d c.acks.failAll.2
      rw [AckTracker.told_failAll] at hinformed
      have hleft : (d.left : Multiset η) ≤ (d.hear (c.acks.failAll.2.map Effect.told)).informed :=
        hinformed ▸ h.2
      rw [Settled]
      cases why with
      | abandoned wanted => cases wanted <;> exact ⟨h.1, hleft⟩
      | left => exact ⟨h.1, hleft⟩
      | failed f => cases wasUp <;> exact ⟨h.1, hleft⟩
  | judge here =>
      rw [Settled, here] at h
      simp only [observer, write, here]
      refine ⟨h.1, h.2.trans (le_of_eq ?_)⟩
      exact ((informed_hear_told d []).trans (add_zero _)).symm
  | @close last here =>
      rw [Settled, here] at h
      simp only [observer, write, here]
      refine ⟨h.1, h.2.trans (le_of_eq ?_)⟩
      cases last <;> exact ((informed_hear_told d []).trans (add_zero _)).symm

/-- **Whom the driver still has to tell**, in every life of a connection. -/
theorem settled_watch (strokes : List (Stroke η)) :
    (observer.watch ({}, {}) strokes).2.Settled (observer.watch ({}, {}) strokes).1 := by
  refine Observer.Keeps.watch (P := fun c (d : Diary η) => d.Settled c) ?_ ?_ strokes
  · intro c d s c' effects h hs
    cases s with
    | turn t => exact settled_turn h (Connection.turns_of_drive hs)
    | touch u =>
        cases hs
        exact settled_touch h u
  · trivial

/-! ## The protocol -/

lemma not_final_of_mem_heard {n : Notice} (h : n ∈ d.heard) : ¬ n.final := by
  obtain ⟨e, -, hn⟩ := List.mem_filterMap.mp h
  cases e with
  | arrived p =>
      cases p with
      | connAck code =>
          cases code with
          | success =>
              cases hn
              exact Bool.false_ne_true
          | refusedProtocolVersion | badClientId | serviceUnavailable | badUserNamePassword
          | notAuthorized => cases hn
      | publish topic payload =>
          cases hn
          exact Bool.false_ne_true
      | pubAck _ | pubComp _ | subAck _ _ | unsubAck _ | disconnect | other => cases hn
  | left _ | failed _ => cases hn

lemma Verdict.final {n : Notice} (h : d.Verdict (some n)) : n.final := by
  cases h <;> rfl

/-- What has been told answers the events in their order; only a driver that has returned may have
told more, which is the last notice. -/
lemma At.notices_eq {driver : Driver} {up : Bool} (h : d.At driver up) :
    ∃ (body : List Notice) (last : Option Notice), d.notices = body ++ last.toList ∧
      body <+: d.heard ∧ (driver = .waiting ∨ driver = .returned → body = d.heard) ∧
      (driver = .returned → d.Verdict last) ∧ (driver ≠ .returned → last = none) := by
  cases h with
  | waiting said =>
      exact ⟨d.heard, none, by simpa using said, List.prefix_rfl, fun _ => rfl, by rintro ⟨⟩,
        fun _ => rfl⟩
  | holding taken said =>
      refine ⟨_, none, by simpa using said, ?_, by rintro (⟨⟨⟩⟩ | ⟨⟨⟩⟩), by rintro ⟨⟩, fun _ => rfl⟩
      rw [heard_of_taken taken]
      exact List.prefix_append _ _
  | announcing taken said =>
      refine ⟨_, none, by simpa using said, ?_, by rintro (⟨⟨⟩⟩ | ⟨⟨⟩⟩), by rintro ⟨⟩, fun _ => rfl⟩
      rw [heard_of_taken taken]
      exact List.prefix_append _ _
  | cancelling said | ending said | lowering said | draining said | judging said | closing said =>
      exact ⟨d.heard, none, by simpa using said, List.prefix_rfl, fun _ => rfl, by rintro ⟨⟩,
        fun _ => rfl⟩
  | returned said verdict =>
      exact ⟨d.heard, _, said, List.prefix_rfl, fun _ => rfl, fun _ => verdict,
        fun hne => absurd rfl hne⟩

/-- A last notice is the verdict of the diary. -/
lemma At.verdict_of_mem {driver : Driver} {up : Bool} (h : d.At driver up) {n : Notice}
    (hn : n ∈ d.notices) (hfinal : n.final) : d.Verdict (some n) ∧ driver = .returned := by
  obtain ⟨body, last, hnotices, hbody, -, hreturned, hrunning⟩ := h.notices_eq
  rw [hnotices, List.mem_append] at hn
  have hlast : last = some n := by
    rcases hn with hn | hn
    · exact absurd hfinal (not_final_of_mem_heard (hbody.subset hn))
    · simpa using hn
  have hdriver : driver = .returned := by
    by_contra hne
    cases hlast.symm.trans (hrunning hne)
  exact ⟨hlast ▸ hreturned hdriver, hdriver⟩

/-- A connection is told of as accepted as often as the broker accepts it. -/
lemma count_connected_heard (taken : List ClientEvent) :
    (taken.filterMap ClientEvent.notice?).count .connected = taken.count .acceptance := by
  induction taken with
  | nil => rfl
  | cons e rest ih =>
      rw [List.count_cons, ← ih, List.filterMap_cons]
      by_cases he : e = .acceptance
      · subst he
        simp [ClientEvent.acceptance, ClientEvent.notice?]
      · have hother : e.notice? ≠ some .connected := by
          intro hn
          exact he (ClientEvent.eq_acceptance_of_notice? hn)
        cases hn : e.notice? with
        | none => simp [he]
        | some n =>
            have hne : n ≠ .connected := fun heq => hother (heq ▸ hn)
            simp [he, hne]

/-- **The protocol of the notices** of one connection. -/
structure Proper (d : Diary η) (c : Connection η) : Prop where
  /-- Every notice but the last answers a packet, and they come in the order of the packets.  The
  last one comes when the driver returns, and nothing after it. -/
  order : ∃ (body : List Notice) (last : Option Notice), d.notices = body ++ last.toList ∧
    body <+: d.heard ∧ (∀ n ∈ body, ¬ n.final) ∧ ∀ n ∈ last, n.final ∧ c.driver = .returned
  /-- The owner is told at most once that the broker has accepted the connection. -/
  once : d.notices.count .connected ≤ 1
  /-- While the driver waits, and when it has returned, no packet is left unanswered. -/
  complete : c.driver = .waiting ∨ c.driver = .returned → d.heard <+: d.notices
  /-- An attempt that failed had not been accepted, and no disconnect was wanted. -/
  failed : ∀ f, .connectionFailed f ∈ d.notices →
    ¬ d.Accepted ∧ d.looks = [false] ∧ ∃ why, f = .connection why ∧ .failed why ∈ d.taken
  /-- A connection that was lost had been accepted. -/
  lost : ∀ f, .disconnected (some f) ∈ d.notices →
    d.Accepted ∧ ∃ why, f = .connection why ∧ .failed why ∈ d.taken
  /-- A connection that ended as wanted had said goodbye, or a disconnect was wanted. -/
  parted : .disconnected none ∈ d.notices → .left .disconnect ∈ d.taken ∨ d.looks = [true]
  /-- A driver that ends without a last notice was cancelled, and no disconnect was wanted. -/
  silent : c.driver = .returned → (∀ n ∈ d.notices, ¬ n.final) → d.stopped ∧ d.looks = [false]
  /-- When the driver has returned, the connection is marked as ended and as down, and every handler
  that waited when it was marked has been told. -/
  ended : c.driver = .returned → c.ended ∧ c.up = false ∧ (d.left : Multiset η) ≤ d.informed

lemma At.order {driver : Driver} {up : Bool} (h : d.At driver up) :
    ∃ (body : List Notice) (last : Option Notice), d.notices = body ++ last.toList ∧
      body <+: d.heard ∧ (∀ n ∈ body, ¬ n.final) ∧ ∀ n ∈ last, n.final ∧ driver = .returned := by
  obtain ⟨body, last, hnotices, hbody, -, hreturned, hrunning⟩ := h.notices_eq
  refine ⟨body, last, hnotices, hbody, fun n hn => not_final_of_mem_heard (hbody.subset hn), ?_⟩
  rintro n rfl
  by_cases hd : driver = .returned
  · exact ⟨(hreturned hd).final, hd⟩
  · cases hrunning hd

lemma At.complete {driver : Driver} {up : Bool} (h : d.At driver up)
    (hrest : driver = .waiting ∨ driver = .returned) : d.heard <+: d.notices := by
  obtain ⟨body, last, hnotices, -, hbody, -⟩ := h.notices_eq
  rw [hnotices, hbody hrest]
  exact List.prefix_append _ _

lemma At.once {driver : Driver} {up : Bool} (h : d.At driver up) :
    d.notices.count .connected ≤ d.taken.count .acceptance := by
  obtain ⟨body, last, hnotices, hbody, -, hlast⟩ := h.order
  have hnone : last.toList.count .connected = 0 := by
    rw [List.count_eq_zero]
    intro hmem
    cases (hlast .connected (by simpa using hmem)).1
  rw [hnotices, List.count_append, hnone, Nat.add_zero, ← count_connected_heard]
  exact hbody.sublist.count_le _

/-- A driver that has returned without a last notice was told to stop, and found the flag down. -/
lemma At.silent {up : Bool} (h : d.At .returned up) (hn : ∀ n ∈ d.notices, ¬ n.final) :
    d.stopped ∧ d.looks = [false] := by
  cases h with
  | @returned last said verdict =>
      cases last with
      | none =>
          cases verdict with
          | dropped tells => exact tells
      | some n =>
          have hmem : n ∈ d.notices := by
            rw [said]
            exact List.mem_append_right _ List.mem_cons_self
          exact absurd verdict.final (hn n hmem)

/-- **The protocol of the notices**, for every life of a connection whose broker accepts it once at
most. -/
theorem proper_of_watch {strokes : List (Stroke η)}
    (hrun : observer.watch ({}, {}) strokes = (c, d)) (hone : d.taken.count .acceptance ≤ 1) :
    d.Proper c := by
  have hat := at_watch strokes
  have hsettled := settled_watch strokes
  rw [hrun] at hat hsettled
  have hmem : ∀ {e : ClientEvent}, (∃ before, d.taken = before ++ [e]) → e ∈ d.taken := by
    rintro e ⟨before, htaken⟩
    rw [htaken]
    exact List.mem_append_right _ List.mem_cons_self
  refine ⟨hat.order, hat.once.trans hone, hat.complete, ?_, ?_, ?_, ?_, ?_⟩
  · intro f hf
    cases (hat.verdict_of_mem hf rfl).1 with
    | failed taken looks accepted => exact ⟨accepted, looks, _, rfl, hmem taken⟩
  · intro f hf
    cases (hat.verdict_of_mem hf rfl).1 with
    | lost tells accepted => exact ⟨accepted, _, rfl, hmem tells.2⟩
  · intro hnone
    cases (hat.verdict_of_mem hnone rfl).1 with
    | obeyed tells => exact .inr tells.2
    | parted tells => exact .inl (hmem tells.2)
    | forgone taken looks accepted => exact .inr looks
  · intro hreturned hn
    rw [hreturned] at hat
    exact hat.silent hn
  · intro hreturned
    rw [Settled, hreturned] at hsettled
    refine ⟨hsettled.1, ?_, hsettled.2⟩
    rw [hreturned] at hat
    generalize c.up = up at hat
    cases hat
    rfl

/-- A connection is accepted, brings a message and is lost, while a request waits. -/
def lostInFlight : List (Stroke Nat) :=
  [.turn (.wake (.event .acceptance)), .turn .advance, .turn .advance,
    .turn (.wake (.event (.arrived (.publish "t" [])))),
    .touch (.submit ⟨.unsubscribe, .unsubscribe "t", 7⟩), .turn .advance,
    .turn (.wake (.event (.failed .networkTimeout))), .turn .advance,
    .touch (.want true), .turn .advance, .turn .advance, .turn .advance, .turn .advance]

/-- The whole protocol on a connection that is lost. -/
theorem proper_of_lostInFlight :
    let p := observer.watch ({}, {}) lostInFlight
    p.2.taken.count .acceptance ≤ 1 ∧ p.2.Proper p.1 ∧
      p.2.notices = [.connected, .message "t" [],
        .disconnected (some (.connection .networkTimeout))] ∧
      p.1.driver = .returned ∧ p.2.left = [7] := by
  refine ⟨by decide, proper_of_watch rfl (by decide), by decide, by decide, by decide⟩

end Diary

end DeviceLink.Transport
