import DeviceLink.Proofs.Dispatch.Register

/-!
# Panics in the background

Whoever calls a closure and goes on has a handle, to wait later or to drop.  When the closure
panics, the panic is raised again in the thread that waits on the handle; and it is logged if the
handle has been dropped by then.  A handle that is dropped after the closure has ended takes the
panic with it.

* `Course` — everything that can become of a queued call.
* `Machine.Told`, **`Told.happens`** — every call takes its course.
* `Machine.Heard` — a panic is raised again once, or logged once, unless its handle is dropped late.
* **`Machine.reported_follow`** — so it is in every run.
* **`Machine.unheard_of_lateDrop`** — a handle that is dropped late.
-/

namespace DeviceLink.Dispatch.Machine

variable {ν : Type} {m m' : Machine ν} {t : Thread} {c : Context} {k : Nat} {g : Register ν}

/-! ## The courses that a call can take -/

/-- **The course of a call** that was queued: what has become of it, in view of what it has come to
and of who can be told. -/
inductive Course (m : Machine ν) (c : Context) (k : Nat) : Option Report → List Mark → Prop where
  /-- Somebody is to be told, unless the worker has ended without it. -/
  | awaited (hheld : m.held k = true)
      (hholder : (m.boxes.get c).phase ≠ .exited → ∃ a, m.Holds a k) : Course m c k none []
  /-- Nobody is. -/
  | disowned (hheld : m.held k = false) : Course m c k none [.dropped]
  /-- Somebody can be told what it came to, -/
  | settled {r : Report} (hheld : m.held k = true) (hholder : ∃ a, m.Holds a k) :
      Course m c k (some r) [.ended r]
  /-- or was. -/
  | collected {r : Report} (t : Thread) (hheld : m.held k = true) (hnobody : ∀ a, ¬ m.Holds a k) :
      Course m c k (some r) [.ended r, .collected t r]
  /-- Nobody was to be told when it ended, -/
  | unheard {r : Report} (hheld : m.held k = false) :
      Course m c k (some r) (.dropped :: .ended r :: r.alarm.map .logged)
  /-- or nobody is any more. -/
  | abandoned {r : Report} (hheld : m.held k = false) : Course m c k (some r) [.ended r, .dropped]

/-- A call goes on along its course as long as nothing becomes of it. -/
lemma Course.of_same {o : Option Report} {own : List Mark} (h : m.Course c k o own)
    (hheld : m'.held k = m.held k)
    (hphase : (m.boxes.get c).phase = .exited → (m'.boxes.get c).phase = .exited)
    (hholds : (∃ a, m.Holds a k) → ∃ a, m'.Holds a k)
    (hback : ∀ a, m'.Holds a k → ∃ b, m.Holds b k) : m'.Course c k o own := by
  cases h with
  | awaited hown hholder =>
      refine .awaited (hheld.trans hown) fun hthere => hholds (hholder fun hgone => ?_)
      exact hthere (hphase hgone)
  | disowned hown => exact .disowned (hheld.trans hown)
  | settled hown hholder => exact .settled (hheld.trans hown) (hholds hholder)
  | collected t hown hnobody =>
      refine .collected t (hheld.trans hown) fun a ha => ?_
      obtain ⟨b, hb⟩ := hback a ha
      exact hnobody b hb
  | unheard hown => exact .unheard (hheld.trans hown)
  | abandoned hown => exact .abandoned (hheld.trans hown)

/-- What is known of a call when a thread makes a step that has something under way. -/
structure Moves (m m' : Machine ν) (t : Thread) (c : Context) (k : Nat) (o : Option Report) :
    Prop where
  phase : (m'.boxes.get c).phase = (m.boxes.get c).phase
  /-- Nobody comes to hold it, -/
  gains : m'.held k = true → m.held k = true
  /-- only whoever holds it drops it, and nobody who waits for it does, -/
  loses : m.held k = true → m'.held k = false → (∃ a, m.Holds a k) ∧ m.awaited? t ≠ some k
  /-- nobody holds it for whom the wait is over, -/
  back : ∀ a, m'.Holds a k → ∃ b, m.Holds b k ∧ b ≠ .thread t
  /-- and the others go on holding it, one at most. -/
  keeps : ∀ a, m.Holds a k → m'.held k = true → (∃ b, m'.Holds b k) ∨ m.awaited? t = some k
  unique : ∀ a b, m.Holds a k → m.Holds b k → a = b
  held : ∀ a, m.Holds a k → m.held k = true
  /-- Whoever holds it is told what it came to; -/
  told : m.held k = true → m.told? k = o
  /-- it comes to something once, on a worker that has not ended, -/
  once : o ≠ none → m.tells? t k = none
  here : m.tells? t k ≠ none → (m.boxes.get c).phase ≠ .exited
  /-- and who waits for it goes on then, or when it is lost. -/
  lost : o = none → m.awaited? t = some k →
    (m.boxes.get c).phase = .exited ∧ m.tells? t k = none
  lets : m.lets m' k = (m.held k && !m'.held k)

/-- **A call goes on along its course** when a thread makes a step. -/
lemma Course.moves {o : Option Report} {own : List Mark} (h : m.Course c k o own)
    (hm : m.Moves m' t c k o) : m'.Course c k (o.or (m.tells? t k)) (own ++ m.marksFor m' t k) := by
  have hunheld : m.held k = false → m'.held k = false ∧ m.awaited? t ≠ some k := by
    intro hnot
    refine ⟨?_, fun hwaits => ?_⟩
    · by_contra hheld
      cases hnot.symm.trans (hm.gains ((Bool.not_eq_false _).mp hheld))
    · cases hnot.symm.trans (hm.held _ (holds_of_awaited? hwaits))
  cases h with
  | awaited hheld hholder =>
      have htold := hm.told hheld
      cases htells : m.tells? t k with
      | none =>
          cases hafter : m'.held k with
          | true =>
              have hown : m.marksFor m' t k = [] := by
                simp [marksFor, hm.lets, hheld, hafter, htells, htold]
              rw [hown]
              refine .awaited hafter fun hthere => ?_
              rw [hm.phase] at hthere
              obtain ⟨a, ha⟩ := hholder hthere
              exact (hm.keeps a ha hafter).resolve_right fun hwaits =>
                hthere (hm.lost rfl hwaits).1
          | false =>
              have hown : m.marksFor m' t k = [.dropped] := by
                simp [marksFor, hm.lets, hheld, hafter, htells, htold]
              rw [hown]
              exact .disowned hafter
      | some r =>
          have hwaits : m.awaited? t ≠ some k := by
            intro hwaits
            cases htells.symm.trans (hm.lost rfl hwaits).2
          cases hafter : m'.held k with
          | true =>
              have hown : m.marksFor m' t k = [.ended r] := by
                simp [marksFor, hm.lets, hheld, hafter, htells, hwaits]
              obtain ⟨a, ha⟩ := hholder (hm.here (by simp [htells]))
              rw [hown]
              exact .settled hafter ((hm.keeps a ha hafter).resolve_right hwaits)
          | false =>
              have hown : m.marksFor m' t k = .dropped :: .ended r :: r.alarm.map .logged := by
                simp [marksFor, hm.lets, hheld, hafter, htells, hwaits]
              rw [hown]
              exact .unheard hafter
  | disowned hheld =>
      obtain ⟨hafter, hwaits⟩ := hunheld hheld
      cases htells : m.tells? t k with
      | none =>
          have hown : m.marksFor m' t k = [] := by
            simp [marksFor, hm.lets, hheld, hafter, htells, hwaits]
          rw [hown]
          exact .disowned hafter
      | some r =>
          have hown : m.marksFor m' t k = .ended r :: r.alarm.map .logged := by
            simp [marksFor, hm.lets, hheld, hafter, htells, hwaits]
          rw [hown]
          exact .unheard hafter
  | @settled r hheld hholder =>
      have htells := hm.once (by rintro ⟨⟩)
      have htold := hm.told hheld
      rw [htells]
      obtain ⟨a, ha⟩ := hholder
      by_cases hwaits : m.awaited? t = some k
      · have hthread := holds_of_awaited? hwaits
        have hafter : m'.held k = true := by
          by_contra hnot
          exact (hm.loses hheld ((Bool.not_eq_true _).mp hnot)).2 hwaits
        have hown : m.marksFor m' t k = [.collected t r] := by
          simp [marksFor, hm.lets, hheld, hafter, htells, hwaits, htold]
        rw [hown]
        refine .collected t hafter fun b hb => ?_
        obtain ⟨d, hd, hne⟩ := hm.back b hb
        exact hne (hm.unique _ _ hd hthread)
      · cases hafter : m'.held k with
        | true =>
            have hown : m.marksFor m' t k = [] := by
              simp [marksFor, hm.lets, hheld, hafter, htells, hwaits]
            rw [hown]
            exact .settled hafter ((hm.keeps a ha hafter).resolve_right hwaits)
        | false =>
            have hown : m.marksFor m' t k = [.dropped] := by
              simp [marksFor, hm.lets, hheld, hafter, htells, hwaits]
            rw [hown]
            exact .abandoned hafter
  | @collected r u hheld hnobody =>
      have htells := hm.once (by rintro ⟨⟩)
      have hwaits : m.awaited? t ≠ some k := fun hwaits => hnobody _ (holds_of_awaited? hwaits)
      have hafter : m'.held k = true := by
        by_contra hnot
        obtain ⟨a, ha⟩ := (hm.loses hheld ((Bool.not_eq_true _).mp hnot)).1
        exact hnobody a ha
      have hown : m.marksFor m' t k = [] := by
        simp [marksFor, hm.lets, hheld, hafter, htells, hwaits]
      rw [hown, htells]
      refine .collected u hafter fun b hb => ?_
      obtain ⟨d, hd, -⟩ := hm.back b hb
      exact hnobody d hd
  | @unheard r hheld =>
      have htells := hm.once (by rintro ⟨⟩)
      obtain ⟨hafter, hwaits⟩ := hunheld hheld
      have hown : m.marksFor m' t k = [] := by
        simp [marksFor, hm.lets, hheld, htells, hwaits]
      rw [hown, htells, List.append_nil]
      exact .unheard hafter
  | @abandoned r hheld =>
      have htells := hm.once (by rintro ⟨⟩)
      obtain ⟨hafter, hwaits⟩ := hunheld hheld
      have hown : m.marksFor m' t k = [] := by
        simp [marksFor, hm.lets, hheld, htells, hwaits]
      rw [hown, htells]
      exact .abandoned hafter

lemma lets_of_ticket {ticket : Ticket} (hticket : m.tickets[k]? = some ticket)
    (hk : k < m'.tickets.length) : m.lets m' k = (m.held k && !m'.held k) := by
  simp [lets, hk, hticket, held_of_getElem? hticket]

lemma told?_of_delivered (hd : m.Delivered g.toChronicle) {ticket : Ticket}
    (hticket : m.tickets[k]? = some ticket) (hheld : m.held k = true) :
    m.told? k = g.outcome? ticket.target k := by
  rw [held_of_getElem? hticket] at hheld
  rw [told?, hticket, Option.bind_some, hd k ticket hticket hheld, Chronicle.due]
  cases g.outcome? ticket.target k with
  | some r => exact r.report?_delivery
  | none =>
      dsimp only
      split <;> rfl

lemma outermost_of_tells? (h : m.tells? t k ≠ none) :
    outermost? (m.stack t) = some (.ticket k) := by
  by_contra hother
  exact h (if_neg hother)

/-- Who waits for a call that has not come to anything waits on, unless the worker has ended. -/
lemma exited_of_awaited (hd : m.Delivered g.toChronicle) {ticket : Ticket}
    (hticket : m.tickets[k]? = some ticket) (hheld : m.held k = true)
    (hnone : g.outcome? ticket.target k = none) (hwaits : m.awaited? t = some k)
    (hs : m.step t = some m') :
    (m.boxes.get ticket.target).phase = .exited ∧ m.tells? t k = none := by
  obtain ⟨below, hstack⟩ := exists_stack_of_awaited? hwaits
  have htold := told?_of_delivered hd hticket hheld
  rw [hnone, told?, hticket, Option.bind_some] at htold
  obtain ⟨target, held, delivery⟩ := ticket
  have hdue := hd k _ hticket ((held_of_getElem? hticket).symm.trans hheld)
  rw [Chronicle.due, hnone] at hdue
  unfold step at hs
  simp only [hstack, hticket] at hs
  refine ⟨?_, ?_⟩
  · by_contra hthere
    have hpending : delivery = .pending := hdue.trans (if_neg hthere)
    subst hpending
    cases hs
  · have hraises : m.raises? t = none := by
      rw [raises?, hstack]
      cases delivery <;> simp [hticket, Delivery.report?] at htold ⊢
    rw [tells?, ends?, hraises, hstack]
    exact ite_self _

/-- Only whoever holds a call drops it, and nobody who waits for it does. -/
lemma lost_of_prepares (hw : m.Waited) {waits : Option Nat} {m₀ : Machine ν}
    (hpre : Prepares m t waits m₀) (hbefore : m.held k = true) (hafter : m₀.held k = false) :
    (∃ a, m.Holds a k) ∧ m.awaited? t ≠ some k := by
  rcases hpre.exists_handle hbefore hafter with ⟨n, hn⟩ | ⟨panic, below, hstack⟩
  · refine ⟨⟨.handle n, hn⟩, fun hwaits => ?_⟩
    cases hw.unique (.handle n) _ k hn (holds_of_awaited? hwaits)
  · refine ⟨⟨.thread t, _, below, hstack, .discarding panic⟩, fun hwaits => ?_⟩
    obtain ⟨_, hother⟩ := exists_stack_of_awaited? hwaits
    cases hstack.symm.trans hother

/-- What is known of every call that was queued. -/
lemma moves_does (hc : m.Chronicled g.toChronicle) (hn : m.Numbered g.toChronicle)
    (hw : m.Waited) (hd : m.Delivered g.toChronicle) (hr : m.Reserved) (hne : m.stack t ≠ [])
    (hdoes : Does m t m') (hs : m.step t = some m') {ticket : Ticket}
    (hticket : m.tickets[k]? = some ticket) :
    m.Moves m' t ticket.target k (g.outcome? ticket.target k) := by
  obtain ⟨waits, m₀, hpre, hl⟩ := exists_completes_of_does hne hdoes
  obtain ⟨after, hafter, -⟩ := hdoes.exists_ticket hticket
  have hlt := (List.getElem?_eq_some_iff.mp hticket).1
  have hheld : ∀ a, m.Holds a k → m.held k = true := fun a ha => held_eq_true.mpr (hw.held a k ha)
  have hown : m.tells? t k ≠ none → ∃ c, t = .worker c ∧ g.outcome? c k = none ∧
      ticket.target = c := by
    intro htells
    obtain ⟨c, hself, hnone, htarget⟩ := hc.outcome?_of_outermost hn (outermost_of_tells? htells)
    exact ⟨c, hself, hnone, htarget ticket hticket⟩
  refine ⟨(hdoes.grows _).phase, fun hafter => ?_, fun hbefore hafter => ?_,
    fun a ha => hl.exists_holder hpre hlt ha, fun a ha hafter => ?_,
    fun a b => hw.unique a b k, hheld, told?_of_delivered hd hticket, fun hsome => ?_,
    fun htells => ?_, fun hnone hwaits => ?_, ?_⟩
  · exact hpre.held_of_after hlt ((hl.held_eq k).symm.trans hafter)
  · exact lost_of_prepares hw hpre hbefore ((hl.held_eq k).symm.trans hafter)
  · refine (exists_holder_happens (e := .move t) hr hc hs ha hafter).imp_right ?_
    rintro ⟨u, he, hwaits⟩
    cases he
    exact hwaits
  · by_contra htells
    obtain ⟨c, -, hnone, rfl⟩ := hown htells
    exact hsome hnone
  · obtain ⟨c, rfl, -, rfl⟩ := hown htells
    simp [hc.running _ hne]
  · exact exited_of_awaited hd hticket (hheld _ (holds_of_awaited? hwaits)) hnone hwaits hs
  · exact lets_of_ticket hticket (List.getElem?_eq_some_iff.mp hafter).1

/-- What has become of a call after a step. -/
lemma outcome?_of_does (hc : m.Chronicled g.toChronicle) (hn : m.Numbered g.toChronicle)
    (hne : m.stack t ≠ []) {ticket : Ticket} (hticket : m.tickets[k]? = some ticket) :
    (g.toChronicle.note (.move t) m m').outcome? ticket.target k
      = (g.outcome? ticket.target k).or (m.tells? t k) := by
  rw [hc.outcome?_does hne]
  cases htells : m.tells? t k with
  | none => rw [ite_self]
  | some r =>
      obtain ⟨c, rfl, -, htarget⟩ :=
        hc.outcome?_of_outermost hn (outermost_of_tells? (by rw [htells]; rintro ⟨⟩))
      rw [htarget ticket hticket, if_pos rfl]

/-! ## Every call takes its course -/

open Register in
/-- **Every call that was queued takes its course**, and all that is logged is part of it. -/
structure Told (m : Machine ν) (g : Register ν) : Prop where
  errors : m.errors = lines g.marks
  fresh : ∀ k, m.tickets.length ≤ k → marksOf g.marks k = []
  course : ∀ (k : Nat) ticket, m.tickets[k]? = some ticket →
    m.Course ticket.target k (g.outcome? ticket.target k) (marksOf g.marks k)

/-- Nothing becomes of a call when a worker turns to its mailbox or something begins outside. -/
lemma Course.still (hc : m.Chronicled g.toChronicle) (hw : m.Waited) (hr : m.Reserved)
    {e : Event ν} (hs : m.happens e = some m') (hk : k < m.tickets.length)
    (hidle : ∀ t, e = .move t → m.stack t = []) (hheld : m'.held k = m.held k)
    (hphase : (m.boxes.get c).phase = .exited → (m'.boxes.get c).phase = .exited)
    {o : Option Report} {own : List Mark} (h : m.Course c k o own) : m'.Course c k o own := by
  refine h.of_same hheld hphase ?_ fun a ha => ?_
  · rintro ⟨a, ha⟩
    refine (exists_holder_happens hr hc hs ha ?_).resolve_right ?_
    · exact hheld.trans (held_eq_true.mpr (hw.held a k ha))
    · rintro ⟨t, rfl, hwaits⟩
      obtain ⟨below, hstack⟩ := exists_stack_of_awaited? hwaits
      cases (hidle t rfl).symm.trans hstack
  · obtain ⟨t, waits, m₀, hpre, hl⟩ := hc.exists_completes hs
    obtain ⟨b, hb, -⟩ := hl.exists_holder hpre hk ha
    exact ⟨b, hb⟩

lemma exists_ticket_of_turns (hs : Turns m c m') {after : Ticket}
    (hafter : m'.tickets[k]? = some after) :
    ∃ ticket, m.tickets[k]? = some ticket ∧ after.target = ticket.target := by
  cases hs with
  | job hphase hqueue => exact ⟨after, by rwa [tickets_setStack] at hafter, rfl⟩
  | stop hphase hqueue log => exact ⟨after, hafter, rfl⟩
  | exit hphase =>
      rw [getElem?_foldl_told] at hafter
      obtain ⟨ticket, hticket, rfl⟩ := Option.map_eq_some_iff.mp hafter
      refine ⟨ticket, hticket, ?_⟩
      split <;> simp

lemma phase_of_turns (hs : Turns m c m') {d : Context}
    (h : (m.boxes.get d).phase = .exited) : (m'.boxes.get d).phase = .exited := by
  obtain ⟨box, hboxes, hthere, -⟩ := exists_box_of_turns hs
  rw [hboxes, PerContext.get_set]
  split
  · next he => exact (hthere (he ▸ h)).elim
  · exact h

lemma marksFor_of_idle (hidle : m.stack t = []) (hheld : m'.held = m.held)
    (hlength : m'.tickets.length = m.tickets.length) (k : Nat) : m.marksFor m' t k = [] := by
  have htells : m.tells? t k = none := by
    rw [tells?, ends?_of_idle hidle, ite_self]
  have hwaits : m.awaited? t ≠ some k := by
    unfold awaited?
    rw [hidle]
    rintro ⟨⟩
  have hlets : m.lets m' k = false := by
    cases hticket : m.tickets[k]? with
    | some ticket =>
        have hk := (List.getElem?_eq_some_iff.mp hticket).1
        rw [lets_of_ticket hticket (hlength ▸ hk), hheld]
        cases m.held k <;> rfl
    | none =>
        have hk := List.getElem?_eq_none_iff.mp hticket
        simp [lets, hlength, Nat.not_lt.mpr hk]
  simp [marksFor, hlets, htells, hwaits]

lemma length_turns (hs : Turns m c m') : m'.tickets.length = m.tickets.length := by
  cases hs with
  | job hphase hqueue => rw [tickets_setStack]
  | stop hphase hqueue log => rfl
  | exit hphase => exact length_foldl_told _ _

/-- The marks of one call after a step, once it is known what is logged. -/
lemma marksOf_note (herrors : m'.errors = m.errors ++ m.alarms m' t) (k : Nat) :
    Register.marksOf (g.note (.move t) m m').marks k
      = Register.marksOf g.marks k ++ m.marksFor m' t k :=
  (marksOf_append _ _ _).trans (congrArg _ (marksOf_marks herrors k))

lemma Told.turns (h : m.Told g) (hc : m.Chronicled g.toChronicle) (hw : m.Waited)
    (hr : m.Reserved) (hidle : m.stack (.worker c) = []) (hturns : Turns m c m')
    (hs : m.step (.worker c) = some m') : m'.Told (g.note (.move (.worker c)) m m') := by
  have hheld := held_turns hturns
  have hlength := length_turns hturns
  have herrors : m'.errors = m.errors ++ m.alarms m' (.worker c) := by
    rw [errors_turns hidle hs, alarms, closes?_of_quiet (ends?_of_idle hidle)]
    exact (List.append_nil _).symm
  have hown : ∀ k, Register.marksOf (g.note (.move (.worker c)) m m').marks k
      = Register.marksOf g.marks k := by
    intro k
    rw [marksOf_note herrors, marksFor_of_idle hidle hheld hlength, List.append_nil]
  refine ⟨?_, fun k hk => ?_, fun k after hafter => ?_⟩
  · rw [lines_marks herrors, h.errors]
    exact (lines_append _ _).symm
  · rw [hown]
    exact h.fresh k (hlength ▸ hk)
  · obtain ⟨ticket, hticket, htarget⟩ := exists_ticket_of_turns hturns hafter
    have houtcome : (g.note (.move (.worker c)) m m').outcome? after.target k
        = g.outcome? ticket.target k := htarget ▸ hc.outcome?_turns hidle _ k
    rw [hown, houtcome, htarget]
    refine (h.course k ticket hticket).still (e := .move (.worker c)) hc hw hr hs
      (List.getElem?_eq_some_iff.mp hticket).1 (fun t he => ?_) (by rw [hheld])
      (phase_of_turns hturns)
    cases he
    exact hidle

lemma Told.begin (h : m.Told g) (hc : m.Chronicled g.toChronicle) (hw : m.Waited)
    (hr : m.Reserved) {n : Nat} (hidle : m.stack (.outside n) = []) (a : Action ν) :
    (m.begin n a).Told g := by
  have htickets : (m.begin n a).tickets = m.tickets := tickets_setStack _ _ _
  refine ⟨?_, fun k hk => h.fresh k (htickets ▸ hk), fun k ticket hticket => ?_⟩
  · have hlog : (m.begin n a).log = m.log := log_setStack _ _ _
    exact (congrArg (List.filter _) hlog).trans h.errors
  · rw [htickets] at hticket
    have hs : m.happens (.begin n a) = some (m.begin n a) :=
      if_pos (List.isEmpty_iff.mpr hidle)
    exact (h.course k ticket hticket).still hc hw hr hs (List.getElem?_eq_some_iff.mp hticket).1
      (by rintro t ⟨⟩) (by rw [held, held, htickets]) id

/-- Nothing becomes of a call that is not queued. -/
lemma marksFor_of_ge (hw : m.Waited) (hk : m.tickets.length ≤ k)
    (hknown : ∀ k, outermost? (m.stack t) = some (.ticket k) → k < m.tickets.length) :
    m.marksFor m' t k = if m.lets m' k then [.dropped] else [] := by
  have htells : m.tells? t k = none := by
    by_contra hsome
    exact Nat.not_lt.mpr hk (hknown k (outermost_of_tells? hsome))
  have hwaits : m.awaited? t ≠ some k :=
    fun hwaits => Nat.not_lt.mpr hk (hw.lt_length (holds_of_awaited? hwaits))
  simp [marksFor, htells, hwaits]

/-- A call that is queued begins its course. -/
lemma course_new (hc : m.Chronicled g.toChronicle) (hn : m.Numbered g.toChronicle)
    (hw : m.Waited) (hne : m.stack t ≠ []) (hdoes : Does m t m') {after : Ticket}
    (hafter : m'.tickets[m.tickets.length]? = some after) :
    m'.Course after.target m.tickets.length
      ((g.toChronicle.note (.move t) m m').outcome? after.target m.tickets.length)
      (m.marksFor m' t m.tickets.length) := by
  have hknown : ∀ k, outermost? (m.stack t) = some (.ticket k) → k < m.tickets.length :=
    fun k => hn.lt_of_outermost hc
  have hfresh : g.outcome? after.target m.tickets.length = none := by
    refine outcome?_eq_none fun hmem => ?_
    obtain ⟨call, hcall, hself⟩ := List.mem_map.mp hmem
    have hlt := hn.lt_length ((hc.order _).prefix_jobs.subset hcall)
    exact Nat.lt_irrefl _ (hself ▸ hlt)
  have htells : m.tells? t m.tickets.length = none := by
    by_contra hsome
    exact Nat.lt_irrefl _ (hknown _ (outermost_of_tells? hsome))
  have hlets : m.lets m' m.tickets.length = !m'.held m.tickets.length := by
    simp [lets, (List.getElem?_eq_some_iff.mp hafter).1]
  have houtcome : (g.toChronicle.note (.move t) m m').outcome? after.target m.tickets.length
      = none := by
    rw [hc.outcome?_does hne, hfresh, htells, ite_self]
    rfl
  rw [houtcome, marksFor_of_ge hw (Nat.le_refl _) hknown, hlets]
  cases hheld : m'.held m.tickets.length with
  | true =>
      obtain ⟨waits, m₀, hpre, hl⟩ := exists_completes_of_does hne hdoes
      exact .awaited hheld fun _ => hl.exists_newHolder hpre hheld
  | false => exact .disowned hheld

lemma Told.does (h : m.Told g) (hc : m.Chronicled g.toChronicle) (hn : m.Numbered g.toChronicle)
    (hw : m.Waited) (hd : m.Delivered g.toChronicle) (hr : m.Reserved) (hne : m.stack t ≠ [])
    (hdoes : Does m t m') (hs : m.step t = some m') : m'.Told (g.note (.move t) m m') := by
  have hknown : ∀ k, outermost? (m.stack t) = some (.ticket k) → k < m.tickets.length :=
    fun k => hn.lt_of_outermost hc
  have herrors := errors_does hs hdoes hknown
  have hlength : m.tickets.length ≤ m'.tickets.length ∧
      m'.tickets.length ≤ m.tickets.length + 1 := by
    cases hdoes.issues hknown with
    | none _ htickets => omega
    | one _ _ _ _ htickets _ => omega
  refine ⟨?_, fun k hk => ?_, fun k after hafter => ?_⟩
  · rw [lines_marks herrors, h.errors]
    exact (lines_append _ _).symm
  · have hge : m.tickets.length ≤ k := Nat.le_trans hlength.1 hk
    rw [marksOf_note herrors, h.fresh k hge, marksFor_of_ge hw hge hknown]
    simp [lets, Nat.not_lt.mpr hk]
  · rw [marksOf_note herrors]
    cases hticket : m.tickets[k]? with
    | some ticket =>
        obtain ⟨found, hfound, htarget, -⟩ := hdoes.exists_ticket hticket
        cases hafter.symm.trans hfound
        have hcourse := (h.course k ticket hticket).moves
          (moves_does hc hn hw hd hr hne hdoes hs hticket)
        rw [htarget, show (g.note (.move t) m m').outcome? ticket.target k
          = (g.outcome? ticket.target k).or (m.tells? t k) from outcome?_of_does hc hn hne hticket]
        exact hcourse
    | none =>
        have hge := List.getElem?_eq_none_iff.mp hticket
        have hlt := (List.getElem?_eq_some_iff.mp hafter).1
        have hk : k = m.tickets.length := by omega
        subst hk
        rw [h.fresh _ hge]
        exact course_new hc hn hw hne hdoes hafter

/-! ## Every run -/

/-- What has become of a call whose closure has panicked. -/
inductive Fate (m : Machine ν) (k : Nat) (p : Panic) : List Mark → Prop where
  /-- Somebody waits for it, or has its handle still. -/
  | due (a : Holder) (h : m.Holds a k) : Fate m k p [.ended (.panicked p)]
  /-- The one who has waited for it has raised the panic again. -/
  | raised (t : Thread) : Fate m k p [.ended (.panicked p), .collected t (.panicked p)]
  /-- Its handle was dropped before, and the panic was logged once. -/
  | logged : Fate m k p
      [.dropped, .ended (.panicked p), .logged (.error (Unhandled.lineOf p.message))]
  /-- Its handle was dropped afterwards, and nobody learns of the panic. -/
  | missed : Fate m k p [.ended (.panicked p), .dropped]

/-- **A panic in the background is raised again once, or logged once**, unless the handle is dropped
after the closure has ended. -/
structure Heard (m : Machine ν) (g : Register ν) : Prop where
  /-- A call whose closure has panicked has one of four fates. -/
  fate : ∀ c (i : Nat) call p, (g.begun c)[i]? = some call →
    (g.ended c)[i]? = some (.panicked p) →
    m.Fate call.ticket p (Register.marksOf g.marks call.ticket)
  /-- Who waits for it raises the panic in its next step. -/
  raises : ∀ t k below p, m.stack t = .awaiting k :: below →
    .ended (.panicked p) ∈ Register.marksOf g.marks k → m.step t = some (m.unwind t p below)
  /-- The errors in the log are those that are marked, -/
  errors : m.errors = Register.lines g.marks
  /-- and each of them is the panic of a call whose handle was dropped before. -/
  alone : ∀ k line, .logged line ∈ Register.marksOf g.marks k →
    ∃ (c : Context) (i : Nat) (call : Call ν) (p : Panic), (g.begun c)[i]? = some call ∧
      (g.ended c)[i]? = some (.panicked p) ∧ call.ticket = k ∧ Register.marksOf g.marks k
        = [.dropped, .ended (.panicked p), .logged (.error (Unhandled.lineOf p.message))]

/-- The course of a call whose closure has panicked. -/
lemma Course.fate {p : Panic} {own : List Mark} (h : m.Course c k (some (.panicked p)) own) :
    m.Fate k p own := by
  cases h with
  | settled hheld hholder =>
      obtain ⟨a, ha⟩ := hholder
      exact .due a ha
  | collected t hheld hnobody => exact .raised t
  | unheard hheld => exact .logged
  | abandoned hheld => exact .missed

/-- A call that a worker has begun at some place came to what it ended with there. -/
lemma outcome?_of_index (hc : m.Chronicled g.toChronicle) (hn : m.Numbered g.toChronicle) {i : Nat}
    {call : Call ν} {r : Report} (hcall : (g.begun c)[i]? = some call)
    (hr : (g.ended c)[i]? = some r) : g.outcome? c call.ticket = some r := by
  obtain ⟨other, hother⟩ :=
    Option.ne_none_iff_exists'.mp (outcome?_isSome_of_index hcall hr)
  have hmem := (hc.order c).prefix_jobs.subset (List.mem_of_getElem? hcall)
  obtain ⟨j, hj, hended⟩ := exists_index_of_outcome? hn hc hmem hother
  have hlt := (List.getElem?_eq_some_iff.mp hcall).1
  have hnodup := (hn.nodup_begun hc c).of_map
  have hsame : i = j := (List.getElem?_inj hlt hnodup).mp (hcall.trans hj.symm)
  subst hsame
  rw [hother, ← hended, hr]

/-- Who waits for a call goes on with what it has been told. -/
lemma step_of_told {below : List (Frame ν)} {r : Report} (hstack : m.stack t = .awaiting k :: below)
    (htold : m.told? k = some r) : m.step t = some (m.resume t below r) := by
  obtain ⟨ticket, hticket, hreport⟩ := Option.bind_eq_some_iff.mp htold
  obtain ⟨target, held, delivery⟩ := ticket
  unfold step
  simp only [hstack, hticket]
  cases delivery <;> cases hreport <;> rfl

/-- **Everything that happens** is part of the course of a call. -/
lemma Told.happens (h : m.Told g) (hk : m.Kept g.toChronicle) (hr : m.Reserved) {e : Event ν}
    (hs : m.happens e = some m') : m'.Told (g.note e m m') := by
  cases hk.chronicled.follows hs with
  | begin hidle a => exact h.begin hk.chronicled hk.waited hr hidle a
  | does hne hdoes =>
      exact h.does hk.chronicled hk.numbered hk.waited hk.delivered hr hne hdoes hs
  | turns hidle hturns => exact h.turns hk.chronicled hk.waited hr hidle hturns hs

lemma told_start (names : String) (threads : Nat) :
    (start names threads : Machine ν).Told {} := by
  refine ⟨?_, fun k _ => rfl, ?_⟩
  · simp [errors, start, startLine, LogLine.debug, Register.lines]
  · rintro k ticket ⟨⟩

lemma Told.heard (h : m.Told g) (hc : m.Chronicled g.toChronicle) (hn : m.Numbered g.toChronicle)
    (hw : m.Waited) (hd : m.Delivered g.toChronicle) : m.Heard g := by
  have hticket : ∀ k mark, mark ∈ Register.marksOf g.marks k →
      ∃ ticket, m.tickets[k]? = some ticket := by
    intro k mark hmem
    rw [← Option.ne_none_iff_exists']
    intro hnone
    rw [h.fresh k (List.getElem?_eq_none_iff.mp hnone)] at hmem
    cases hmem
  refine ⟨fun c i call p hcall hr => ?_, fun t k below p hstack hmem => ?_, h.errors,
    fun k line hmem => ?_⟩
  · have hsent := (hc.order c).prefix_jobs.subset (List.mem_of_getElem? hcall)
    obtain ⟨ticket, hticket, rfl⟩ := hn.ticket c call hsent
    have hcourse := h.course _ ticket hticket
    rw [outcome?_of_index hc hn hcall hr] at hcourse
    exact hcourse.fate
  · obtain ⟨ticket, hticket⟩ := hticket k _ hmem
    have hholds : m.Holds (.thread t) k := ⟨_, below, hstack, .awaiting⟩
    have hheld := held_eq_true.mpr (hw.held _ k hholds)
    have htold := told?_of_delivered hd hticket hheld
    have hcourse := h.course k ticket hticket
    generalize g.outcome? ticket.target k = o at htold hcourse
    generalize Register.marksOf g.marks k = own at hmem hcourse
    cases hcourse with
    | awaited _ _ | disowned _ => simp at hmem
    | settled _ _ =>
        cases List.mem_singleton.mp hmem
        exact step_of_told hstack htold
    | collected _ _ hnobody => exact (hnobody _ hholds).elim
    | unheard hnot | abandoned hnot => cases hheld.symm.trans hnot
  · obtain ⟨ticket, hticket⟩ := hticket k _ hmem
    have hcourse := h.course k ticket hticket
    obtain ⟨call, hcall, rfl⟩ := hn.call k ticket hticket
    generalize hr : g.outcome? ticket.target call.ticket = o at hcourse
    generalize Register.marksOf g.marks call.ticket = own at hmem hcourse ⊢
    cases hcourse with
    | awaited _ _ | disowned _ | settled _ _ | collected _ _ _ | abandoned _ => simp at hmem
    | @unheard r _ =>
        cases r with
        | value v => simp [Report.alarm] at hmem
        | panicked p =>
            obtain ⟨i, hbegun, hended⟩ := exists_index_of_outcome? hn hc hcall hr
            exact ⟨_, i, call, p, hbegun, hended, rfl, rfl⟩

lemma told_follow (names : String) (threads : Nat) (events : List (Event ν)) :
    let r := follow Register.note (start names threads, {}) events
    r.1.Kept r.2.toChronicle ∧ r.1.Reserved ∧ r.1.Told r.2 := by
  refine runWith_induction
    (fun (m : Machine ν) g => m.Kept g.toChronicle ∧ m.Reserved ∧ m.Told g) ?_
    ⟨kept_start names threads, ?_, told_start names threads⟩
  · rintro e - m g next ⟨hk, hr, htold⟩ hs
    have hnote : (g.note e m next).toChronicle = g.toChronicle.note e m next := by
      cases e <;> rfl
    exact ⟨hnote ▸ hk.happens hs, hr.happens hk.chronicled hs, htold.happens hk hr hs⟩
  · rintro t n ⟨frame, hframe, -⟩
    rw [stack_start] at hframe
    cases hframe

/-- **In every run a panic in the background is heard once**, unless the handle is dropped after the
closure has ended. -/
theorem reported_follow (names : String) (threads : Nat) (events : List (Event ν)) :
    (follow Register.note (start names threads, {}) events).1.Heard
      (follow Register.note (start names threads, {}) events).2 := by
  obtain ⟨hk, -, htold⟩ := told_follow names threads events
  exact htold.heard hk.chronicled hk.numbered hk.waited hk.delivered

/-- A closure that panics is called on the pipeline; its handle is dropped when it has ended. -/
def lateDrop : List (Event Nat) :=
  [.begin 0 (.call .keeping none .pipeline [.panic (.text "boom")]),
    .move (.outside 0), .move (.outside 0), .move (.worker .pipeline), .move (.worker .pipeline),
    .begin 0 (.forget 0), .move (.outside 0), .move (.outside 0)]

/-- **A handle that is dropped late takes the panic with it**: nothing is logged, nobody has raised
it again, and nobody can. -/
theorem unheard_of_lateDrop :
    let r := follow Register.note (start "" 1, {}) lateDrop
    r.2.begun .pipeline = [⟨0, [.panic (.text "boom")]⟩] ∧
      r.2.ended .pipeline = [.panicked (.text "boom")] ∧
      Register.marksOf r.2.marks 0 = [.ended (.panicked (.text "boom")), .dropped] ∧
      r.1.errors = [] ∧ r.1.held 0 = false :=
  ⟨rfl, rfl, rfl, rfl, rfl⟩

end DeviceLink.Dispatch.Machine
