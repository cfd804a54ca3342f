import DeviceLink.Proofs.Dispatch.Calls

/-!
# Who can be told

Whoever waits for a call holds it, and so does whoever keeps its handle.  As long as its ticket says
that somebody does, there is one: a handle is passed on to the wait for it, and only the end of that
wait, or dropping the handle, lets go of the call.

* `Machine.held` — what a call's ticket says.
* `Machine.Reserved`, **`Reserved.happens`** — a closure that runs on the spot has its handle to
  itself.
* `Completes.exists_holder` — nobody comes to hold a call that was queued before.
* **`Machine.exists_holder_happens`** — whoever holds a call goes on holding it.
-/

namespace DeviceLink.Dispatch

variable {ν : Type}

/-! ## Tickets that are held -/

namespace Machine

variable {m m' m₀ : Machine ν} {t : Thread} {c : Context} {k : Nat}

/-- Somebody can be told what a call comes to. -/
def held (m : Machine ν) (k : Nat) : Bool := m.tickets[k]?.any Ticket.held

/-- The call that a thread waits for. -/
def awaited? (m : Machine ν) (t : Thread) : Option Nat :=
  match m.stack t with
  | .awaiting k :: _ => some k
  | _ => none

lemma held_eq_true : m.held k = true ↔
    ∃ ticket, m.tickets[k]? = some ticket ∧ ticket.held = true := by
  rw [held, Option.any_eq_true]

lemma held_of_getElem? {ticket : Ticket} (h : m.tickets[k]? = some ticket) :
    m.held k = ticket.held := by
  rw [held, h, Option.any_some]

@[simp] lemma held_setStack (m : Machine ν) (t : Thread) (frames : List (Frame ν)) :
    (m.setStack t frames).held = m.held := by
  cases t <;> rfl

lemma held_deliver (m : Machine ν) (j : Nat) (d : Delivery) (k : Nat) :
    (m.deliver j d).held k = m.held k := by
  obtain ⟨log, heq, -⟩ := m.exists_deliver_eq j d
  rw [held, held, heq, List.getElem?_modify]
  cases m.tickets[k]? with
  | none => rfl
  | some ticket => by_cases hself : j = k <;> simp [hself]

lemma held_turns (hs : Turns m c m') : m'.held = m.held := by
  cases hs with
  | job hphase hqueue => exact held_setStack _ _ _
  | stop hphase hqueue log => rfl
  | exit hphase =>
      funext k
      rw [held, held, getElem?_foldl_told]
      cases m.tickets[k]? with
      | none => rfl
      | some ticket =>
          rw [Option.map_some, Option.any_some, Option.any_some]
          split <;> simp

end Machine

/-! ## Calls and handles that are prepared -/

/-- A closure runs whose value is to be kept under a handle. -/
def Frame.Keeps (n : Nat) (frame : Frame ν) : Prop := frame.goal? = some (.keep (some n))

section Effects

variable {m m₀ : Machine ν} {waits : Option Nat} {n k : Nat}

lemma Prepares.length_handles (h : Prepares m t waits m₀) :
    m.handles.length ≤ m₀.handles.length := by
  cases h with
  | same _ _ _ hlength _ => exact hlength
  | forgets _ _ | takes _ => exact Nat.le_of_eq List.length_set.symm
  | lets _ _ | queues _ _ => exact Nat.le_refl _
  | keeps body hopen => simp

/-- Only a call that is queued has a handle that can be waited on, and a new one. -/
lemma Prepares.pending (h : Prepares m t waits m₀) (hk : m₀.handles[n]? = some (.pending k)) :
    m.handles[n]? = some (.pending k) ∨ n = m.handles.length ∧ k = m.tickets.length := by
  cases h with
  | same _ _ _ _ hhandles => exact .inl (hhandles n k hk)
  | forgets _ _ | takes _ => exact .inl (Machine.pending_of_set (by rintro k ⟨⟩) hk)
  | lets _ _ | queues _ _ => exact .inl hk
  | keeps body hopen =>
      rw [List.getElem?_append] at hk
      split at hk
      · exact .inl hk
      · rw [List.getElem?_singleton] at hk
        split at hk
        · cases hk
          exact .inr ⟨by omega, rfl⟩
        · cases hk

/-- Nobody can be told any more of a call whose handle is dropped: a kept one, or one that the
thread has just got. -/
lemma Prepares.exists_handle (h : Prepares m t waits m₀) (hheld : m.held k = true)
    (hafter : m₀.held k = false) : (∃ n : Nat, m.handles[n]? = some (.pending k)) ∨
      ∃ panic below, m.stack t = .discarding k panic :: below := by
  obtain ⟨ticket, hticket, hown⟩ := Machine.held_eq_true.mp hheld
  have hlt := (List.getElem?_eq_some_iff.mp hticket).1
  have hkept : m₀.tickets[k]? ≠ some ticket := by
    intro hsame
    rw [Machine.held_of_getElem? hsame, hown] at hafter
    cases hafter
  cases h with
  | same _ _ _ _ _ | takes _ => exact (hkept hticket).elim
  | queues body hopen | keeps body hopen =>
      exact (hkept ((List.getElem?_append_left hlt).trans hticket)).elim
  | @lets other dropped panic below hstack hdropped =>
      by_cases hself : other = k
      · exact .inr ⟨panic, below, hself ▸ hstack⟩
      · exact (hkept ((List.getElem?_set_ne hself).trans hticket)).elim
  | @forgets n other dropped hhandle hdropped =>
      by_cases hself : other = k
      · exact .inl ⟨n, hself ▸ hhandle⟩
      · exact (hkept ((List.getElem?_set_ne hself).trans hticket)).elim

/-- A closure that begins inside has room for its value; the others have run before. -/
lemma Goes.keeps {handles : List Handle} {old frames : List (Frame ν)}
    (h : Goes handles old waits frames) (hkeeps : ∃ frame ∈ frames, frame.Keeps n) :
    (∃ frame ∈ old, frame.Keeps n) ∨ handles[n]? = some .empty := by
  cases h with
  | enters hinside hroom =>
      simp only [List.mem_cons, exists_eq_or_imp, Frame.Keeps, Frame.goal?, Option.some.injEq]
        at hkeeps ⊢
      exact hkeeps.elim (fun hnew => .inr (hroom n hnew)) .inl
  | awaits hframe =>
      obtain ⟨frame, hmem, hkeeps⟩ := hkeeps
      rcases List.mem_cons.mp hmem with rfl | hmem
      · cases hframe.standing.goal?_eq_none.symm.trans hkeeps
      · rcases List.mem_cons.mp hmem with rfl | hmem
        · exact .inl ⟨_, List.mem_cons_self, hkeeps⟩
        · exact .inl ⟨frame, List.mem_cons_of_mem _ hmem, hkeeps⟩
  | acts _ | halts | leaves _ _ | resumes _ _ =>
      refine .inl ?_
      simp only [List.mem_cons, exists_eq_or_imp, Frame.Keeps, Frame.goal?, Option.some.injEq,
        reduceCtorEq, false_or] at hkeeps ⊢
      tauto

/-- A ticket that there was says that somebody holds it only if it has said so before. -/
lemma Prepares.held_of_after (h : Prepares m t waits m₀) (hk : k < m.tickets.length)
    (hafter : m₀.held k = true) : m.held k = true := by
  obtain ⟨after, hticket, -, -, hheld⟩ := h.exists_ticket (List.getElem?_eq_getElem hk)
  rw [Machine.held_of_getElem? hticket] at hafter
  rw [Machine.held_of_getElem? (List.getElem?_eq_getElem hk)]
  exact hheld hafter

end Effects

namespace Machine

variable {m m' m₀ : Machine ν} {t u : Thread} {c : Context} {k n : Nat} {g : Chronicle ν}
  {waits : Option Nat} {a : Holder}

lemma Completes.held_eq (h : m.Completes m₀ m' t waits) (k : Nat) : m'.held k = m₀.held k := by
  cases hticket : m₀.tickets[k]? with
  | some ticket =>
      obtain ⟨after, hafter, hsame⟩ := h.held k ticket hticket
      rw [held_of_getElem? hticket, held_of_getElem? hafter, hsame]
  | none =>
      have hge := List.getElem?_eq_none_iff.mp hticket
      rw [Machine.held, Machine.held, hticket, List.getElem?_eq_none (h.length ▸ hge)]

/-- Who holds a call that there was has held it before, or another did who is not the thread that
has made the step. -/
lemma Completes.exists_holder (h : m.Completes m₀ m' t waits) (hpre : Prepares m t waits m₀)
    (hk : k < m.tickets.length) (ha : m'.Holds a k) : ∃ b, m.Holds b k ∧ b ≠ .thread t := by
  cases a with
  | handle n =>
      have hn : m₀.handles[n]? = some (.pending k) := h.handles ▸ ha
      rcases hpre.pending hn with hold | ⟨-, rfl⟩
      · exact ⟨.handle n, hold, by rintro ⟨⟩⟩
      · exact (Nat.lt_irrefl _ hk).elim
  | thread u =>
      rcases h.holds_thread ha with ⟨hold, hne⟩ | ⟨rfl, hwaits⟩
      · exact ⟨.thread u, hold, fun he => hne (Holder.thread.inj he)⟩
      · cases hpre with
        | same _ _ _ _ _ | lets _ _ | forgets _ _ | keeps _ _ => cases hwaits
        | takes hhandle =>
            cases hwaits
            exact ⟨.handle _, hhandle, by rintro ⟨⟩⟩
        | queues body hopen =>
            cases hwaits
            exact (Nat.lt_irrefl _ hk).elim

/-- Whoever queues a call has its handle, or keeps it. -/
lemma Completes.exists_newHolder (h : m.Completes m₀ m' t waits) (hpre : Prepares m t waits m₀)
    (hheld : m'.held m.tickets.length = true) : ∃ a, m'.Holds a m.tickets.length := by
  rw [h.held_eq] at hheld
  obtain ⟨ticket, hticket, hown⟩ := held_eq_true.mp hheld
  have hlt := (List.getElem?_eq_some_iff.mp hticket).1
  cases hpre with
  | same _ _ _ _ _ | takes _ => exact (Nat.lt_irrefl _ hlt).elim
  | lets _ _ | forgets _ _ =>
      rw [List.length_set] at hlt
      exact (Nat.lt_irrefl _ hlt).elim
  | queues body hopen => exact ⟨.thread t, h.waiting _ rfl⟩
  | keeps body hopen =>
      refine ⟨.handle m.handles.length, ?_⟩
      rw [Holds, h.handles]
      exact List.getElem?_concat_length

/-! ### A closure that runs on the spot -/

/-- **A closure that runs on the spot has its handle to itself**: nobody waits on that before. -/
def Reserved (m : Machine ν) : Prop :=
  ∀ t (n : Nat), (∃ frame ∈ m.stack t, frame.Keeps n) →
    n < m.handles.length ∧ ∀ k, m.handles[n]? ≠ some (.pending k)

/-- A closure whose value is to be kept has run before, or there is room for its value. -/
lemma keeps_happens (hc : m.Chronicled g) {e : Event ν} (hs : m.happens e = some m')
    (hkeeps : ∃ frame ∈ m'.stack u, frame.Keeps n) :
    (∃ t, ∃ frame ∈ m.stack t, frame.Keeps n) ∨ m'.handles[n]? = some .empty := by
  have hstack : ∀ {k : Machine ν} {t : Thread} (frames : List (Frame ν)), m.stack t ≠ [] →
      (∀ u, k.stack u = m.stack u) → (k.setStack t frames).stack t = frames := by
    intro k t frames hne hk
    exact stack_setStack_of_ne_nil (by rw [hk]; exact hne) frames
  cases hc.follows hs with
  | @begin i hidle a =>
      by_cases hself : u = .outside i
      · subst hself
        rcases stack_begin hidle a with hnew | hnew
        · rw [hnew] at hkeeps
          simp [Frame.Keeps, Frame.goal?] at hkeeps
        · rw [hnew] at hkeeps
          simp at hkeeps
      · rw [show (m.begin i a).stack u = m.stack u from stack_setStack_of_ne hself _] at hkeeps
        exact .inl ⟨u, hkeeps⟩
  | @turns c _ hidle hturns =>
      by_cases hself : u = .worker c
      · subst hself
        rcases stack_worker_of_turns hidle hturns with ⟨call, hnew⟩ | hnew
        · rw [hnew] at hkeeps
          simp [Frame.Keeps, Frame.goal?] at hkeeps
        · rw [hnew] at hkeeps
          simp at hkeeps
      · rw [stack_of_turns hturns hself] at hkeeps
        exact .inl ⟨u, hkeeps⟩
  | @does t _ hne hdoes =>
      by_cases hself : u = t
      · subst hself
        cases hdoes with
        | goes hpre hgoes hends =>
            rw [hstack _ hne hpre.stack_eq] at hkeeps
            rw [handles_setStack]
            exact (hgoes.keeps hkeeps).imp_left fun hold => ⟨u, hold⟩
        | @orders c todo below next hfront hnext log =>
            rw [hstack _ hne fun v => by cases v <;> rfl] at hkeeps
            refine .inl ⟨u, ?_⟩
            rw [hfront]
            rcases hnext with ⟨rfl, -⟩ | ⟨rfl, -⟩ <;>
              simpa [Frame.Keeps, Frame.goal?] using hkeeps
        | joined hfront hexited log =>
            rw [hstack _ hne fun v => by cases v <;> rfl] at hkeeps
            refine .inl ⟨u, ?_⟩
            rw [hfront]
            simpa [Frame.Keeps, Frame.goal?] using hkeeps
        | @ends m₀ goal report hpre cells hlast hgoal hends =>
            obtain ⟨tickets, results, log, heq⟩ := exists_tell_eq { m₀ with cells } u goal report
            rw [hstack _ hne fun v => by rw [heq, ← hpre.stack_eq]; cases v <;> rfl] at hkeeps
            simp at hkeeps
      · rw [hdoes.stack_of_ne hself] at hkeeps
        exact .inl ⟨u, hkeeps⟩

/-- **Everything that happens** leaves such a closure its handle. -/
lemma Reserved.happens (h : m.Reserved) (hc : m.Chronicled g) {e : Event ν}
    (hs : m.happens e = some m') : m'.Reserved := by
  obtain ⟨t, waits, m₀, hpre, hl⟩ := hc.exists_completes hs
  intro u n hkeeps
  rcases keeps_happens hc hs hkeeps with ⟨v, hold⟩ | hempty
  · obtain ⟨hlt, hnone⟩ := h v n hold
    refine ⟨hl.handles ▸ Nat.lt_of_lt_of_le hlt hpre.length_handles, fun k hk => ?_⟩
    rcases hpre.pending (hl.handles ▸ hk) with hbefore | ⟨rfl, -⟩
    · exact hnone k hbefore
    · exact Nat.lt_irrefl _ hlt
  · refine ⟨(List.getElem?_eq_some_iff.mp hempty).1, fun k hk => ?_⟩
    cases hempty.symm.trans hk

/-! ### Whoever holds a call goes on holding it -/

lemma held_give (m : Machine ν) (t : Thread) (v : Value) (below : List (Frame ν)) :
    (m.give t v below).held = m.held := by
  unfold give
  split <;> exact held_setStack _ _ _

lemma held_unwind (m : Machine ν) (t : Thread) (p : Panic) (frames : List (Frame ν)) :
    (m.unwind t p frames).held = m.held := by
  induction frames generalizing m with
  | nil => exact held_setStack _ _ _
  | cons frame below ih =>
      cases frame with
      | awaiting _ | discarding _ _ | stopping _ | joining _ _ => exact ih m
      | running _ _ _ goal =>
          cases goal with
          | value | task | keep _ => exact ih m
          | leave cell => exact ih _
          | ticket k => exact (held_setStack _ _ _).trans (funext fun j => held_deliver m k _ j)
          | result =>
              cases t with
              | outside _ | worker _ => exact held_setStack _ _ _

/-- Nobody is told of a call whose handle is dropped. -/
lemma held_letGo (m : Machine ν) (k : Nat) : (m.letGo k).held k = false := by
  cases hticket : m.tickets[k]? with
  | none => rw [letGo_of_none hticket, held, hticket, Option.any_none]
  | some ticket =>
      have hset : (m.tickets.set k { ticket with held := false })[k]? =
          some { ticket with held := false } :=
        List.getElem?_set_self (List.getElem?_eq_some_iff.mp hticket).1
      rw [letGo_of_some hticket]
      exact congrArg (Option.any Ticket.held) hset

lemma held_forget (hn : m.handles[n]? = some (.pending k)) : (m.forget n).held k = false := by
  unfold forget
  rw [hn]
  exact held_letGo _ k

lemma held_discard (m : Machine ν) (t : Thread) (k : Nat) (panic : Option Panic)
    (below : List (Frame ν)) : (m.discard t k panic below).held k = false := by
  cases panic with
  | none => rw [discard, held_give, held_letGo]
  | some p => rw [discard, held_unwind, held_letGo]

/-- A handle that is used is waited on, or dropped. -/
lemma held_of_uses (hr : m.Reserved) (huses : Uses n (m.stack t))
    (hn : m.handles[n]? = some (.pending k)) (hs : m.step t = some m') :
    m'.Holds (.thread t) k ∨ m'.held k = false := by
  have hkeeps : ¬ ∃ frame ∈ m.stack t, frame.Keeps n := fun hkeeps => (hr t n hkeeps).2 k hn
  generalize hstack : m.stack t = frames at huses
  have hne : m.stack t ≠ [] := by
    rw [hstack]
    cases huses <;> exact List.cons_ne_nil _ _
  cases huses with
  | waits =>
      rw [step_of_running hstack, perform, wait] at hs
      simp only [hn, Option.some.injEq] at hs
      split at hs
      · rw [← hs, held_unwind]
        exact .inr (held_forget hn)
      · rw [← hs]
        exact .inl ⟨_, _, stack_setStack_of_ne_nil (by cases t <;> exact hne) _, .awaiting⟩
  | forgets =>
      rw [step_of_running hstack, perform, Option.some.injEq] at hs
      rw [← hs, held_give]
      exact .inr (held_forget hn)
  | returns | fails =>
      rw [hstack] at hkeeps
      simp [Frame.Keeps, Frame.goal?] at hkeeps

lemma exists_stack_of_awaited? (h : m.awaited? t = some k) :
    ∃ below, m.stack t = .awaiting k :: below := by
  unfold awaited? at h
  split at h
  · next hstack =>
      cases h
      exact ⟨_, hstack⟩
  · cases h

lemma holds_of_awaited? (h : m.awaited? t = some k) : m.Holds (.thread t) k := by
  obtain ⟨below, hstack⟩ := exists_stack_of_awaited? h
  exact ⟨_, below, hstack, .awaiting⟩

/-- Whoever has the handle of a call waits for it, or nobody is told of it after the next step. -/
lemma awaited?_or_held_eq_false (ha : m.Holds (.thread t) k) (hs : m.step t = some m') :
    m.awaited? t = some k ∨ m'.held k = false := by
  obtain ⟨frame, below, hstack, hhas⟩ := ha
  cases hhas with
  | awaiting => exact .inl (by rw [awaited?, hstack])
  | discarding panic =>
      unfold step at hs
      rw [hstack] at hs
      cases hs
      exact .inr (held_discard m t k panic below)

/-- **Whoever holds a call goes on holding it**, or waits on the handle, until the wait is over or
the handle is dropped. -/
lemma exists_holder_happens (hr : m.Reserved) (hc : m.Chronicled g) {e : Event ν}
    (hs : m.happens e = some m') (ha : m.Holds a k) (hheld : m'.held k = true) :
    (∃ b, m'.Holds b k) ∨ ∃ t, e = .move t ∧ m.awaited? t = some k := by
  cases a with
  | handle n =>
      cases e with
      | begin i x =>
          cases hc.follows hs
          exact .inl ⟨.handle n, (congrArg (·[n]?) (handles_setStack _ _ _)).trans ha⟩
      | move t =>
          rcases kept_step hs ha with hkept | huses
          · exact .inl ⟨.handle n, hkept⟩
          · rcases held_of_uses hr huses ha hs with hwaits | hdropped
            · exact .inl ⟨_, hwaits⟩
            · cases hheld.symm.trans hdropped
  | thread u =>
      obtain ⟨frame, below, hbelow, hhas⟩ := ha
      have hsame : m'.stack u = m.stack u → ∃ b, m'.Holds b k :=
        fun h => ⟨.thread u, frame, below, h.trans hbelow, hhas⟩
      have hbusy : ∀ {v : Thread}, m.stack v = [] → u ≠ v := by
        rintro v hidle rfl
        cases hidle.symm.trans hbelow
      cases hc.follows hs with
      | begin hidle x => exact .inl (hsame (stack_setStack_of_ne (hbusy hidle) _))
      | turns hidle hturns => exact .inl (hsame (stack_of_turns hturns (hbusy hidle)))
      | @does t _ hne hdoes =>
          by_cases hself : u = t
          · subst hself
            rcases awaited?_or_held_eq_false ⟨frame, below, hbelow, hhas⟩ hs with hwaits | hdropped
            · exact .inr ⟨u, rfl, hwaits⟩
            · cases hheld.symm.trans hdropped
          · exact .inl (hsame (hdoes.stack_of_ne hself))

end Machine

end DeviceLink.Dispatch
