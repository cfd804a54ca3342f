import DeviceLink.Proofs.Dispatch.Chronicle
import Mathlib.Data.List.Nodup

/-!
# What callers are told

Every queued call has a ticket, whose number no other call has.  Whoever has its handle, to wait
now, to wait later, or to drop it at once, is the only one who does, and the ticket says so; and as
long as it does, what the ticket says of the call is what has become of it.

* `Machine.Numbered`, **`Numbered.happens`** — every queued call has a ticket of its own.
* `Machine.Holds`, `Machine.Waited`, **`Waited.happens`** — nobody else has the same handle.
* `Chronicle.due`, `Machine.Delivered`, **`Delivered.happens`** — whoever waits is told what has
  become of the call.
-/

namespace DeviceLink.Dispatch

variable {ν : Type}

/-! ## What was begun was sent -/

section Orders

variable {J : Type} {box : Mailbox J} {commands : List (Command J)} {begun : List J}

lemma jobs_map_run_append (js : List J) (rest : List (Command J)) :
    Mailbox.jobs (js.map .run ++ rest) = js ++ Mailbox.jobs rest := by
  simp [Mailbox.jobs, List.filterMap_append, List.filterMap_map]

lemma InOrder.prefix_jobs (h : InOrder box commands begun) : begun <+: Mailbox.jobs commands := by
  cases h with
  | running _ h | stopped _ h | exited _ _ _ h =>
      rw [h, jobs_map_run_append]
      exact List.prefix_append _ _

/-- What was sent was begun, or waits, as long as the worker is there. -/
lemma InOrder.jobs_eq (h : InOrder box commands begun) (hphase : box.phase ≠ .exited) :
    Mailbox.jobs commands = begun ++ Mailbox.jobs box.queue := by
  cases h with
  | running _ h => rw [h, jobs_map_run_append]
  | stopped _ h =>
      rw [h, jobs_map_run_append]
      rfl
  | exited hexited _ _ _ => exact (hphase hexited).elim

end Orders

/-! ## What a step does to tickets -/

namespace Machine

/-- The calls that have come into a worker's mailbox, and the tickets for them. -/
inductive Issues (m m' : Machine ν) : Prop where
  | none (hsends : ∀ c, Mailbox.jobs (m.sends m' c) = [])
      (htickets : m'.tickets.length = m.tickets.length)
  | one (target : Context) (body : List (Action ν))
      (hopen : (m.boxes.get target).phase ≠ .exited)
      (hsends : ∀ c, Mailbox.jobs (m.sends m' c)
        = if c = target then [⟨m.tickets.length, body⟩] else [])
      (htickets : m'.tickets.length = m.tickets.length + 1)
      (hnew : ∃ ticket, m'.tickets[m.tickets.length]? = some ticket ∧ ticket.target = target ∧
        ticket.delivery = .pending)

/-- What a thread's outermost closure comes to, if it ends in the next step and is the one that a
ticket is for. -/
def tells? (m : Machine ν) (t : Thread) (k : Nat) : Option Report :=
  if outermost? (m.stack t) = some (.ticket k) then m.ends? t else none

end Machine

section Effects

variable {m m' m₀ : Machine ν} {t u : Thread} {c : Context} {waits : Option Nat}

lemma Busy.exists_outermost? {P : Origin → List (Action ν) → Goal → Prop} {frames : List (Frame ν)}
    (h : Busy P frames) :
    ∃ origin rest goal, P origin rest goal ∧ outermost? frames = some goal := by
  cases h with
  | running h => exact h.exists_outermost?
  | standing hframe h =>
      rw [outermost?_cons _ h.ne_nil]
      exact h.exists_outermost?

/-- A ticket that there was is there still, for the same worker. -/
lemma Prepares.exists_ticket (h : Prepares m t waits m₀) {k : Nat} {ticket : Ticket}
    (hk : m.tickets[k]? = some ticket) :
    ∃ after, m₀.tickets[k]? = some after ∧ after.target = ticket.target ∧
      after.delivery = ticket.delivery ∧ (after.held = true → ticket.held = true) := by
  have hlt := (List.getElem?_eq_some_iff.mp hk).1
  cases h with
  | same _ _ _ _ _ | takes _ => exact ⟨ticket, hk, rfl, rfl, id⟩
  | queues body hopen | keeps body hopen =>
      exact ⟨ticket, (List.getElem?_append_left hlt).trans hk, rfl, rfl, id⟩
  | @lets other dropped _ _ _ hother | @forgets _ other dropped _ hother =>
      by_cases he : other = k
      · subst he
        cases hk.symm.trans hother
        exact ⟨_, List.getElem?_set_self hlt, rfl, rfl, by rintro ⟨⟩⟩
      · exact ⟨ticket, (List.getElem?_set_ne he).trans hk, rfl, rfl, id⟩

lemma Prepares.issues (h : Prepares m t waits m₀) : m.Issues m₀ := by
  have hsame : ∀ {k : Machine ν}, k.boxes = m.boxes → ∀ c, Mailbox.jobs (m.sends k c) = [] := by
    intro k hk c
    rw [Machine.sends_of_boxes_eq hk]
    rfl
  have hone : ∀ {k : Machine ν} {target : Context} {body : List (Action ν)},
      k.boxes = m.boxes.set target { m.boxes.get target with
        queue := (m.boxes.get target).queue ++ [.run ⟨m.tickets.length, body⟩] } →
      ∀ c, Mailbox.jobs (m.sends k c)
        = if c = target then [⟨m.tickets.length, body⟩] else [] := by
    intro k target body hk c
    rw [Machine.sends_of_boxes_set hk rfl]
    split <;> rfl
  cases h with
  | same _ _ _ _ _ | takes _ => exact .none (hsame rfl) rfl
  | lets _ _ | forgets _ _ => exact .none (hsame rfl) (List.length_set)
  | queues body hopen | keeps body hopen =>
      exact .one _ body hopen (hone rfl) List.length_append
        ⟨_, List.getElem?_concat_length, rfl, rfl⟩

/-- Whoever holds the ticket of a closure that ends is told. -/
lemma Machine.getElem?_tell {goal : Goal} (hgoal : goal.Of t) (m : Machine ν) (r : Report)
    (k : Nat) : (m.tell t goal r).tickets[k]?
      = m.tickets[k]?.map fun ticket =>
          if goal = .ticket k then ticket.told r.delivery else ticket := by
  cases t with
  | outside n =>
      cases goal <;> first | exact hgoal.elim | simp [tell, conclude]
  | worker c =>
      cases goal <;> try exact hgoal.elim
      next other =>
        obtain ⟨log, heq, -⟩ := m.exists_deliver_eq other r.delivery
        rw [tell, heq, List.getElem?_modify]
        simp only [Goal.ticket.injEq]
        rfl

@[simp] lemma Machine.tickets_setStack (m : Machine ν) (t : Thread) (frames : List (Frame ν)) :
    (m.setStack t frames).tickets = m.tickets := by
  cases t <;> rfl

@[simp] lemma Machine.handles_setStack (m : Machine ν) (t : Thread) (frames : List (Frame ν)) :
    (m.setStack t frames).handles = m.handles := by
  cases t <;> rfl

@[simp] lemma Ticket.target_told (d : Delivery) (ticket : Ticket) :
    (ticket.told d).target = ticket.target := by
  rw [told]
  split <;> rfl

@[simp] lemma Ticket.held_told (d : Delivery) (ticket : Ticket) :
    (ticket.told d).held = ticket.held := by
  rw [told]
  split <;> rfl

lemma Ticket.delivery_told (d : Delivery) {ticket : Ticket} (h : ticket.held = true) :
    (ticket.told d).delivery = d := by
  rw [told, if_pos h]

/-- **What a step does to a ticket** that there was: whoever holds it is told if the closure that it
is for ends. -/
lemma Does.exists_ticket (h : Does m t m') {k : Nat} {ticket : Ticket}
    (hk : m.tickets[k]? = some ticket) :
    ∃ after, m'.tickets[k]? = some after ∧ after.target = ticket.target ∧
      (after.held = true → ticket.held = true ∧ after.delivery = match m.tells? t k with
        | some r => r.delivery
        | none => ticket.delivery) := by
  have hnone : m.ends? t = none → m.tells? t k = none := by
    intro hends
    rw [Machine.tells?, hends, ite_self]
  cases h with
  | goes hpre hgoes hends =>
      obtain ⟨after, hafter, htarget, hdelivery, hheld⟩ := hpre.exists_ticket hk
      rw [Machine.tickets_setStack, hnone hends]
      exact ⟨after, hafter, htarget, fun hh => ⟨hheld hh, hdelivery⟩⟩
  | orders hstack hnext log | joined hstack hexited log =>
      have hends : m.ends? t = none := by rw [Machine.ends?, Machine.raises?, hstack]
      rw [Machine.tickets_setStack, hnone hends]
      exact ⟨ticket, hk, rfl, fun hh => ⟨hh, rfl⟩⟩
  | @ends m₀ goal report hpre cells hlast hgoal hends =>
      obtain ⟨after, hafter, htarget, hdelivery, hheld⟩ := hpre.exists_ticket hk
      have htell := Machine.getElem?_tell hgoal { m₀ with cells } report k
      rw [Machine.tickets_setStack, htell]
      simp only [hafter, Option.map_some]
      refine ⟨_, rfl, ?_, ?_⟩
      · split <;> simp [htarget]
      · rw [Machine.tells?, hlast, hends]
        by_cases hself : goal = .ticket k
        · rw [if_pos hself, if_pos (congrArg some hself)]
          intro hh
          rw [Ticket.held_told] at hh
          exact ⟨hheld hh, Ticket.delivery_told _ hh⟩
        · rw [if_neg hself, if_neg fun he => hself (Option.some.inj he)]
          exact fun hh => ⟨hheld hh, hdelivery⟩

lemma Machine.length_tell {goal : Goal} (hgoal : goal.Of t) (m : Machine ν) (r : Report) :
    (m.tell t goal r).tickets.length = m.tickets.length := by
  cases t with
  | outside n =>
      cases goal <;> first | exact hgoal.elim | rfl
  | worker c =>
      cases goal <;> try exact hgoal.elim
      next other =>
        obtain ⟨log, heq, -⟩ := m.exists_deliver_eq other r.delivery
        rw [tell, heq]
        exact List.length_modify _ _ _

lemma Machine.Issues.of_eq (h : m.Issues m₀) (hboxes : m'.boxes = m₀.boxes)
    (hlength : m'.tickets.length = m₀.tickets.length)
    (hnew : m'.tickets[m.tickets.length]? = m₀.tickets[m.tickets.length]?) : m.Issues m' := by
  have hsends : ∀ c, m.sends m' c = m.sends m₀ c := by
    intro c
    rw [sends, sends, hboxes]
  cases h with
  | none hnone htickets =>
      exact .none (fun c => hsends c ▸ hnone c) (hlength.trans htickets)
  | one target body hopen hone htickets hticket =>
      exact .one target body hopen (fun c => hsends c ▸ hone c) (hlength.trans htickets)
        (hnew ▸ hticket)

/-- **What a step does to calls**: it queues one at most, under a new ticket. -/
lemma Does.issues (h : Does m t m')
    (hknown : ∀ k, outermost? (m.stack t) = some (.ticket k) → k < m.tickets.length) :
    m.Issues m' := by
  cases h with
  | goes hpre hgoes hends =>
      exact hpre.issues.of_eq (Machine.boxes_setStack _ _ _) (by rw [Machine.tickets_setStack])
        (by rw [Machine.tickets_setStack])
  | @orders c todo below next hstack hnext log =>
      refine .none (fun d => ?_) (by rw [Machine.tickets_setStack])
      rw [Machine.sends_of_boxes_set (Machine.boxes_setStack _ _ _) (grows_order _).queue]
      split
      · split <;> rfl
      · rfl
  | joined hstack hexited log =>
      exact (Machine.prepares_refl m (t := t)).issues.of_eq (Machine.boxes_setStack _ _ _)
        (by rw [Machine.tickets_setStack]) (by rw [Machine.tickets_setStack])
  | @ends m₀ goal report hpre cells hlast hgoal hends =>
      obtain ⟨tickets, results, log, heq⟩ := Machine.exists_tell_eq { m₀ with cells } t goal report
      refine hpre.issues.of_eq ?_ ?_ ?_
      · rw [Machine.boxes_setStack, heq]
      · rw [Machine.tickets_setStack, Machine.length_tell hgoal]
      · have hother : goal ≠ .ticket m.tickets.length := by
          rintro rfl
          exact Nat.lt_irrefl _ (hknown _ hlast)
        rw [Machine.tickets_setStack, Machine.getElem?_tell hgoal]
        simp [hother]

end Effects

/-! ## Every call has a ticket of its own -/

namespace Machine

variable {m m' : Machine ν} {t : Thread} {c : Context} {g : Chronicle ν}

/-- **Every queued call has a ticket of its own**, for the worker that it was sent to. -/
structure Numbered (m : Machine ν) (g : Chronicle ν) : Prop where
  ticket : ∀ c, ∀ call ∈ Mailbox.jobs (g.commands c), ∃ ticket,
    m.tickets[call.ticket]? = some ticket ∧ ticket.target = c
  distinct : ∀ c, ((Mailbox.jobs (g.commands c)).map Call.ticket).Nodup
  call : ∀ (k : Nat) ticket, m.tickets[k]? = some ticket →
    ∃ call ∈ Mailbox.jobs (g.commands ticket.target), call.ticket = k

lemma Numbered.lt_length (h : m.Numbered g) {call : Call ν}
    (hcall : call ∈ Mailbox.jobs (g.commands c)) : call.ticket < m.tickets.length := by
  obtain ⟨ticket, hticket, -⟩ := h.ticket c call hcall
  exact (List.getElem?_eq_some_iff.mp hticket).1

/-- The same numbers, while tickets stay for the same workers. -/
lemma Numbered.of_issues (h : m.Numbered g) {g' : Chronicle ν}
    (hcommands : ∀ c, g'.commands c = g.commands c ++ m.sends m' c)
    (hkept : ∀ (k : Nat) ticket, m.tickets[k]? = some ticket →
      ∃ after, m'.tickets[k]? = some after ∧ after.target = ticket.target)
    (hissues : m.Issues m') : m'.Numbered g' := by
  have hjobs : ∀ c, Mailbox.jobs (g'.commands c)
      = Mailbox.jobs (g.commands c) ++ Mailbox.jobs (m.sends m' c) := by
    intro c
    rw [hcommands, Mailbox.jobs, List.filterMap_append]
    rfl
  have hold : ∀ c, ∀ call ∈ Mailbox.jobs (g.commands c), ∃ ticket,
      m'.tickets[call.ticket]? = some ticket ∧ ticket.target = c := by
    intro c call hcall
    obtain ⟨ticket, hticket, htarget⟩ := h.ticket c call hcall
    obtain ⟨after, hafter, hsame⟩ := hkept _ ticket hticket
    exact ⟨after, hafter, hsame.trans htarget⟩
  have hcall : ∀ (k : Nat) ticket, m'.tickets[k]? = some ticket → k < m.tickets.length →
      ∃ call ∈ Mailbox.jobs (g.commands ticket.target), call.ticket = k := by
    intro k ticket hticket hlt
    obtain ⟨after, hafter, hsame⟩ := hkept k _ (List.getElem?_eq_getElem hlt)
    cases hticket.symm.trans hafter
    rw [hsame]
    exact h.call k _ (List.getElem?_eq_getElem hlt)
  cases hissues with
  | none hsends htickets =>
      have hsame : ∀ c, Mailbox.jobs (g'.commands c) = Mailbox.jobs (g.commands c) := by
        intro c
        rw [hjobs, hsends, List.append_nil]
      refine ⟨fun c => ?_, fun c => ?_, fun k ticket hticket => ?_⟩ <;> rw [hsame]
      · exact hold c
      · exact h.distinct c
      · exact hcall k ticket hticket (htickets ▸ (List.getElem?_eq_some_iff.mp hticket).1)
  | one target body hopen hsends htickets hnew =>
      obtain ⟨new, hnew, rfl, -⟩ := hnew
      refine ⟨fun c call hmem => ?_, fun c => ?_, fun k ticket hticket => ?_⟩
      · rw [hjobs, hsends] at hmem
        rcases List.mem_append.mp hmem with hmem | hmem
        · exact hold c call hmem
        · split at hmem
          · next he =>
              cases List.mem_singleton.mp hmem
              exact ⟨new, hnew, he.symm⟩
          · cases hmem
      · rw [hjobs, hsends, List.map_append]
        refine List.nodup_append.mpr ⟨h.distinct c, ?_, ?_⟩
        · split <;> simp
        · intro k hk other hother he
          obtain ⟨call, hmem, rfl⟩ := List.mem_map.mp hk
          have hlt := h.lt_length hmem
          split at hother
          · rw [he, List.mem_singleton.mp hother] at hlt
            exact Nat.lt_irrefl _ hlt
          · cases hother
      · rw [hjobs, hsends]
        rcases Nat.lt_or_ge k m.tickets.length with hlt | hge
        · obtain ⟨call, hmem, hk⟩ := hcall k ticket hticket hlt
          exact ⟨call, List.mem_append_left _ hmem, hk⟩
        · have hk : k = m.tickets.length := by
            have hlt := (List.getElem?_eq_some_iff.mp hticket).1
            omega
          subst hk
          cases hticket.symm.trans hnew
          exact ⟨⟨m.tickets.length, body⟩, List.mem_append_right _ (by simp), rfl⟩

/-- The outermost closure of a worker is the call that it has begun last. -/
lemma Chronicled.exists_call (h : m.Chronicled g) {k : Nat}
    (hlast : outermost? (m.stack t) = some (.ticket k)) :
    ∃ c call, t = .worker c ∧ (g.begun c).getLast? = some call ∧ call.ticket = k := by
  have hne : m.stack t ≠ [] := by
    intro hnil
    rw [hnil] at hlast
    cases hlast
  obtain ⟨origin, rest, goal, hout, hgoal⟩ := (h.shape t hne).exists_outermost?
  cases hgoal.symm.trans hlast
  cases t with
  | worker c =>
      obtain ⟨call, hcall, -, -, hk⟩ := hout
      exact ⟨c, call, rfl, hcall, (Goal.ticket.inj hk).symm⟩
  | outside n => cases hout

lemma Numbered.lt_of_outermost (h : m.Numbered g) (hc : m.Chronicled g) {k : Nat}
    (hlast : outermost? (m.stack t) = some (.ticket k)) : k < m.tickets.length := by
  obtain ⟨c, call, -, hcall, rfl⟩ := hc.exists_call hlast
  exact h.lt_length ((hc.order c).prefix_jobs.subset (List.mem_of_getLast? hcall))

/-- Those whose calls are dropped are told so, and nobody else. -/
lemma getElem?_foldl_told (calls : List (Call ν)) (tickets : List Ticket) (k : Nat) :
    (calls.foldl (fun tickets call => tickets.modify call.ticket (Ticket.told .lost)) tickets)[k]?
      = tickets[k]?.map fun ticket =>
          if k ∈ calls.map Call.ticket then ticket.told .lost else ticket := by
  have htwice : ∀ ticket : Ticket, (ticket.told .lost).told .lost = ticket.told .lost := by
    intro ticket
    cases hheld : ticket.held <;> simp [Ticket.told, hheld]
  induction calls generalizing tickets with
  | nil => simp
  | cons call rest ih =>
      rw [List.foldl_cons, ih, List.getElem?_modify]
      cases tickets[k]? with
      | none => rfl
      | some ticket =>
          by_cases hcall : k = call.ticket
          · subst hcall
            simp [htwice]
          · simp [hcall, Ne.symm hcall]

lemma length_foldl_told (calls : List (Call ν)) (tickets : List Ticket) :
    (calls.foldl (fun tickets call => tickets.modify call.ticket (Ticket.told .lost))
      tickets).length = tickets.length := by
  induction calls generalizing tickets with
  | nil => rfl
  | cons call rest ih => rw [List.foldl_cons, ih, List.length_modify]

/-- **Everything that happens** keeps every call its ticket. -/
theorem Numbered.happens (h : m.Numbered g) (hc : m.Chronicled g) {e : Event ν}
    (hs : m.happens e = some m') : m'.Numbered (g.note e m m') := by
  cases hc.follows hs with
  | @begin n _ a =>
      have htickets : (m.begin n a).tickets = m.tickets := tickets_setStack _ _ _
      exact ⟨by rw [htickets]; exact h.ticket, h.distinct, by rw [htickets]; exact h.call⟩
  | does hne hdoes =>
      refine h.of_issues (commands_note g _ m m') (fun k ticket hk => ?_)
        (hdoes.issues fun k hlast => h.lt_of_outermost hc hlast)
      obtain ⟨after, hafter, htarget, -⟩ := hdoes.exists_ticket hk
      exact ⟨after, hafter, htarget⟩
  | @turns c _ hidle hturns =>
      have hsends := sends_of_turns hturns
      refine h.of_issues (commands_note g _ m m') (fun k ticket hk => ?_)
        (.none (fun d => by rw [hsends]; rfl) ?_)
      · cases hturns with
        | job _ _ => exact ⟨ticket, by rwa [tickets_setStack], rfl⟩
        | stop _ _ _ => exact ⟨ticket, hk, rfl⟩
        | exit _ =>
            refine ⟨_, by rw [getElem?_foldl_told, hk]; rfl, ?_⟩
            split <;> simp
      · cases hturns with
        | job _ _ => rw [tickets_setStack]
        | stop _ _ _ => rfl
        | exit _ => exact length_foldl_told _ _

/-! ## Nobody else has the same handle -/

/-- Who can have the handle of a call: whoever keeps it, and a thread. -/
inductive Holder where
  | handle (n : Nat)
  | thread (t : Thread)

/-- Somebody has the handle of a call: keeps it to wait later, waits, or is about to drop it. -/
def Holds (m : Machine ν) : Holder → Nat → Prop
  | .handle n, k => m.handles[n]? = some (.pending k)
  | .thread t, k => ∃ frame below, m.stack t = frame :: below ∧ frame.Has k

/-- **Only one has the handle of a call**, and its ticket says that somebody does. -/
structure Waited (m : Machine ν) : Prop where
  unique : ∀ (a b : Holder) (k : Nat), m.Holds a k → m.Holds b k → a = b
  held : ∀ (a : Holder) (k : Nat), m.Holds a k →
    ∃ ticket, m.tickets[k]? = some ticket ∧ ticket.held = true

lemma Waited.lt_length (h : m.Waited) {a : Holder} {k : Nat} (ha : m.Holds a k) :
    k < m.tickets.length := by
  obtain ⟨ticket, hticket, -⟩ := h.held a k ha
  exact (List.getElem?_eq_some_iff.mp hticket).1

/-- At most one of those who have a handle has not had it before, and nobody else has that one. -/
lemma Waited.of_holds (h : m.Waited) (R : Holder → Nat → Prop)
    (hold : ∀ a k, R a k → m.Holds a k ∧
      ∀ ticket, m.tickets[k]? = some ticket → ticket.held = true →
        ∃ after, m'.tickets[k]? = some after ∧ after.held = true)
    (x : Holder) (k : Nat) (hfresh : ∀ a, ¬ R a k)
    (hholds : ∀ a j, m'.Holds a j → R a j ∨ a = x ∧ j = k)
    (hnew : m'.Holds x k → ∃ ticket, m'.tickets[k]? = some ticket ∧ ticket.held = true) :
    m'.Waited := by
  refine ⟨fun a b j ha hb => ?_, fun a j ha => ?_⟩
  · rcases hholds a j ha with hra | ⟨rfl, rfl⟩ <;> rcases hholds b j hb with hrb | ⟨rfl, hj⟩
    · exact h.unique a b j (hold a j hra).1 (hold b j hrb).1
    · exact (hfresh a (hj ▸ hra)).elim
    · exact (hfresh b hrb).elim
    · rfl
  · rcases hholds a j ha with hra | ⟨rfl, rfl⟩
    · obtain ⟨hm, hkept⟩ := hold a j hra
      obtain ⟨ticket, hticket, hheld⟩ := h.held a j hm
      exact hkept ticket hticket hheld
    · exact hnew ha

/-- What a thread's step makes of the machine in which calls and handles are prepared: those stay,
and so do the other threads; the thread itself has the handle of the prepared call or none. -/
structure Completes (m m₀ m' : Machine ν) (t : Thread) (waits : Option Nat) : Prop where
  handles : m'.handles = m₀.handles
  length : m'.tickets.length = m₀.tickets.length
  held : ∀ (k : Nat) ticket, m₀.tickets[k]? = some ticket →
    ∃ after, m'.tickets[k]? = some after ∧ after.held = ticket.held
  waiting : ∀ k, waits = some k → m'.Holds (.thread t) k
  thread : ∀ k, m'.Holds (.thread t) k → waits = some k
  others : ∀ u ≠ t, m'.stack u = m.stack u

section Completes

variable {m₀ : Machine ν} {waits : Option Nat} {u : Thread} {k n j : Nat}

/-- Who has a handle is the thread itself, or has had it before. -/
lemma Completes.holds_thread (h : m.Completes m₀ m' t waits) (hu : m'.Holds (.thread u) k) :
    m.Holds (.thread u) k ∧ u ≠ t ∨ u = t ∧ waits = some k := by
  by_cases hself : u = t
  · exact .inr ⟨hself, h.thread k (hself ▸ hu)⟩
  · obtain ⟨frame, below, hstack, hframe⟩ := hu
    exact .inl ⟨⟨frame, below, (h.others u hself).symm.trans hstack, hframe⟩, hself⟩

/-- If it prepares no call, it has had it before. -/
lemma Completes.holds_thread_of_none (h : m.Completes m₀ m' t none)
    (hu : m'.Holds (.thread u) k) : m.Holds (.thread u) k ∧ u ≠ t :=
  (h.holds_thread hu).resolve_right (by rintro ⟨-, ⟨⟩⟩)

lemma Completes.exists_held (h : m.Completes m₀ m' t waits) {ticket : Ticket}
    (hticket : m₀.tickets[k]? = some ticket) (hheld : ticket.held = true) :
    ∃ after, m'.tickets[k]? = some after ∧ after.held = true := by
  obtain ⟨after, hafter, hsame⟩ := h.held k ticket hticket
  exact ⟨after, hafter, hsame.trans hheld⟩

/-- A handle that is used up is not one of those that are kept. -/
lemma holds_of_emptied (hset : m'.handles = m.handles.set n .empty)
    (hj : m'.Holds (.handle j) k) : m.Holds (.handle j) k ∧ Holder.handle j ≠ .handle n := by
  rw [Holds, hset] at hj
  by_cases he : n = j
  · subst he
    rw [List.getElem?_set] at hj
    split at hj
    · split at hj <;> cases hj
    · exact absurd rfl ‹_›
  · exact ⟨(List.getElem?_set_ne he).symm.trans hj, fun hh => he (Holder.handle.inj hh).symm⟩

/-- A handle that is one more is the last. -/
lemma holds_of_added (hset : m'.handles = m.handles ++ [.pending n])
    (hj : m'.Holds (.handle j) k) :
    m.Holds (.handle j) k ∨ Holder.handle j = .handle m.handles.length ∧ k = n := by
  rw [Holds, hset] at hj
  rcases Nat.lt_trichotomy j m.handles.length with hlt | rfl | hgt
  · exact .inl ((List.getElem?_append_left hlt).symm.trans hj)
  · rw [List.getElem?_concat_length] at hj
    cases hj
    exact .inr ⟨rfl, rfl⟩
  · rw [List.getElem?_eq_none (by rw [List.length_append]; exact hgt)] at hj
    cases hj

end Completes

/-- A thread has the handle of a call only where it has got it. -/
lemma waits_of_goes {handles : List Handle} {old below : List (Frame ν)} {frame : Frame ν}
    {waits : Option Nat} {k : Nat} (h : Goes handles old waits (frame :: below))
    (hframe : frame.Has k) : waits = some k := by
  cases h with
  | awaits hown =>
      cases hown <;> cases hframe <;> rfl
  | acts _ | enters _ _ | halts | leaves _ _ | resumes _ _ => cases hframe

lemma exists_of_goes {handles : List Handle} {old frames : List (Frame ν)} {k : Nat}
    (h : Goes handles old (some k) frames) :
    ∃ frame below, frames = frame :: below ∧ frame.Has k := by
  cases h with
  | awaits hframe => exact ⟨_, _, rfl, hframe⟩

lemma has_of_holds {frame : Frame ν} {below : List (Frame ν)} {k : Nat}
    (hstack : m.stack t = frame :: below) (h : m.Holds (.thread t) k) : frame.Has k := by
  obtain ⟨other, rest, hother, hhas⟩ := h
  cases hstack.symm.trans hother
  exact hhas

lemma not_holds_of_idle {k : Nat} (hidle : m.stack t = []) : ¬ m.Holds (.thread t) k := by
  rintro ⟨frame, below, hstack, -⟩
  cases hidle.symm.trans hstack

/-- A step of a thread that has something under way prepares calls and handles, and no more. -/
lemma exists_completes_of_does (hne : m.stack t ≠ []) (hs : Does m t m') :
    ∃ waits m₀, Prepares m t waits m₀ ∧ m.Completes m₀ m' t waits := by
  have hothers : ∀ u ≠ t, m'.stack u = m.stack u := fun u hu => hs.stack_of_ne hu
  have hstack : ∀ {k : Machine ν} (frames : List (Frame ν)), (∀ u, k.stack u = m.stack u) →
      (k.setStack t frames).stack t = frames := by
    intro k frames hk
    exact stack_setStack_of_ne_nil (by rw [hk]; exact hne) frames
  cases hs with
  | @goes waits m₀ frames hpre hgoes hends =>
      have hnow := hstack frames hpre.stack_eq
      refine ⟨waits, m₀, hpre, handles_setStack _ _ _, by rw [tickets_setStack],
        fun k ticket hk => ⟨ticket, ?_, rfl⟩, fun k hk => ?_, fun k hk => ?_, hothers⟩
      · rwa [tickets_setStack]
      · obtain ⟨frame, below, rfl, hframe⟩ := exists_of_goes (hk ▸ hgoes)
        exact ⟨frame, below, hnow, hframe⟩
      · obtain ⟨frame, below, hbelow, hframe⟩ := hk
        cases hnow.symm.trans hbelow
        exact waits_of_goes hgoes hframe
  | @orders c todo below next hstack' hnext log =>
      refine ⟨none, m, prepares_refl m, handles_setStack _ _ _, by rw [tickets_setStack],
        fun k ticket hk => ⟨ticket, ?_, rfl⟩, by rintro k ⟨⟩, fun k hk => ?_, hothers⟩
      · rwa [tickets_setStack]
      · have hframe := has_of_holds (hstack _ fun u => by cases u <;> rfl) hk
        rcases hnext with ⟨rfl, -⟩ | ⟨rfl, -⟩ <;> cases hframe
  | joined hstack' hexited log =>
      refine ⟨none, m, prepares_refl m, handles_setStack _ _ _, by rw [tickets_setStack],
        fun k ticket hk => ⟨ticket, ?_, rfl⟩, by rintro k ⟨⟩, fun k hk => ?_, hothers⟩
      · rwa [tickets_setStack]
      · cases has_of_holds (hstack _ fun u => by cases u <;> rfl) hk
  | @ends m₀ goal report hpre cells hlast hgoal hends =>
      obtain ⟨tickets, results, log, heq⟩ := exists_tell_eq { m₀ with cells } t goal report
      refine ⟨none, m₀, hpre, ?_, ?_, fun k ticket hk => ?_, by rintro k ⟨⟩,
        fun k hk => ?_, hothers⟩
      · rw [handles_setStack, heq]
      · rw [tickets_setStack, length_tell hgoal]
      · rw [tickets_setStack, getElem?_tell hgoal]
        refine ⟨_, by rw [hk]; rfl, ?_⟩
        split <;> simp
      · refine (not_holds_of_idle (hstack _ fun u => ?_) hk).elim
        rw [heq, ← hpre.stack_eq]
        cases u <;> rfl

/-- So does whatever happens. -/
lemma Chronicled.exists_completes (hc : m.Chronicled g) {e : Event ν} (hs : m.happens e = some m') :
    ∃ t waits m₀, Prepares m t waits m₀ ∧ m.Completes m₀ m' t waits := by
  cases hc.follows hs with
  | @begin n hidle a =>
      refine ⟨.outside n, none, m, prepares_refl m, handles_setStack _ _ _,
        by rw [Machine.begin, push, tickets_setStack], fun k ticket hk => ⟨ticket, ?_, rfl⟩,
        by rintro k ⟨⟩, fun k hk => ?_, fun u hu => stack_setStack_of_ne hu _⟩
      · rwa [Machine.begin, push, tickets_setStack]
      · rcases stack_begin hidle a with hstack | hstack
        · cases has_of_holds hstack hk
        · exact (not_holds_of_idle hstack hk).elim
  | does hne hdoes => exact ⟨_, exists_completes_of_does hne hdoes⟩
  | @turns c _ hidle hturns =>
      have hothers : ∀ u ≠ .worker c, m'.stack u = m.stack u := fun u hu => stack_of_turns hturns hu
      have hnone : ∀ k, ¬ m'.Holds (.thread (.worker c)) k := by
        intro k hk
        rcases stack_worker_of_turns hidle hturns with ⟨call, hstack⟩ | hstack
        · cases has_of_holds hstack hk
        · exact not_holds_of_idle hstack hk
      refine ⟨.worker c, none, m, prepares_refl m, ?_⟩
      cases hturns with
      | job hphase hqueue =>
          refine ⟨handles_setStack _ _ _, by rw [tickets_setStack],
            fun k ticket hk => ⟨ticket, ?_, rfl⟩, by rintro k ⟨⟩,
            fun k hk => (hnone k hk).elim, hothers⟩
          rwa [tickets_setStack]
      | stop hphase hqueue log =>
          exact ⟨rfl, rfl, fun k ticket hk => ⟨ticket, hk, rfl⟩, by rintro k ⟨⟩,
            fun k hk => (hnone k hk).elim, hothers⟩
      | exit hphase =>
          refine ⟨rfl, length_foldl_told _ _, fun k ticket hk => ?_, by rintro k ⟨⟩,
            fun k hk => (hnone k hk).elim, hothers⟩
          refine ⟨_, by rw [getElem?_foldl_told, hk]; rfl, ?_⟩
          split <;> simp

/-- **A thread lets handles go, or takes them**, and the others do not. -/
lemma Waited.prepares (h : m.Waited) {waits : Option Nat} {m₀ : Machine ν}
    (hpre : Prepares m t waits m₀) (hl : m.Completes m₀ m' t waits) : m'.Waited := by
  have hfree : ∀ a, ¬ m.Holds a m.tickets.length :=
    fun a ha => Nat.lt_irrefl _ (h.lt_length ha)
  cases hpre with
  | same cells handles record hlength hsub =>
      refine h.of_holds m.Holds (fun a k ha => ⟨ha, fun ticket => hl.exists_held⟩) (.thread t) _
        hfree (fun a k ha => .inl ?_) fun ha => (hfree _ (hl.holds_thread_of_none ha).1).elim
      cases a with
      | handle n => exact hsub n k ((congrArg (·[n]?) hl.handles).symm.trans ha)
      | thread u => exact (hl.holds_thread_of_none ha).1
  | @lets k₀ dropped panic below hstack hdropped =>
      have hown : m.Holds (.thread t) k₀ := ⟨_, below, hstack, .discarding panic⟩
      refine h.of_holds (fun a k => m.Holds a k ∧ a ≠ .thread t) (fun a k ha => ⟨ha.1, ?_⟩)
        (.thread t) _ (fun a ha => hfree a ha.1) (fun a k ha => .inl ?_)
        fun ha => (hfree _ (hl.holds_thread_of_none ha).1).elim
      · intro ticket hticket
        have hne : k₀ ≠ k := fun he => ha.2 (h.unique a _ k ha.1 (he ▸ hown))
        exact hl.exists_held ((List.getElem?_set_ne hne).trans hticket)
      · cases a with
        | thread u =>
            obtain ⟨hold, hne⟩ := hl.holds_thread_of_none ha
            exact ⟨hold, fun he => hne (Holder.thread.inj he)⟩
        | handle j => exact ⟨(congrArg (·[j]?) hl.handles).symm.trans ha, by rintro ⟨⟩⟩
  | @forgets n k₀ dropped hhandle hdropped =>
      refine h.of_holds (fun a k => m.Holds a k ∧ a ≠ .handle n) (fun a k ha => ⟨ha.1, ?_⟩)
        (.thread t) _ (fun a ha => hfree a ha.1) (fun a k ha => .inl ?_)
        fun ha => (hfree _ (hl.holds_thread_of_none ha).1).elim
      · intro ticket hticket
        have hne : k₀ ≠ k := fun he => ha.2 (h.unique a _ k ha.1 (he ▸ hhandle))
        exact hl.exists_held ((List.getElem?_set_ne hne).trans hticket)
      · cases a with
        | thread u => exact ⟨(hl.holds_thread_of_none ha).1, by rintro ⟨⟩⟩
        | handle j => exact holds_of_emptied hl.handles ha
  | @takes n k₀ hhandle =>
      refine h.of_holds (fun a k => m.Holds a k ∧ a ≠ .handle n)
        (fun a k ha => ⟨ha.1, fun ticket => hl.exists_held⟩) (.thread t) k₀
        (fun a ha => ha.2 (h.unique a _ k₀ ha.1 hhandle)) (fun a k ha => ?_) (fun _ => ?_)
      · cases a with
        | thread u =>
            rcases hl.holds_thread ha with ⟨hold, -⟩ | ⟨rfl, hwaits⟩
            · exact .inl ⟨hold, by rintro ⟨⟩⟩
            · exact .inr ⟨rfl, (Option.some.inj hwaits).symm⟩
        | handle j => exact .inl (holds_of_emptied hl.handles ha)
      · obtain ⟨ticket, hticket, hheld⟩ := h.held (.handle n) k₀ hhandle
        exact hl.exists_held hticket hheld
  | @queues target body hopen =>
      refine h.of_holds m.Holds (fun a k ha => ⟨ha, fun ticket hticket => ?_⟩) (.thread t) _ hfree
        (fun a k ha => ?_) (fun _ => hl.exists_held List.getElem?_concat_length rfl)
      · exact hl.exists_held ((List.getElem?_append_left (h.lt_length ha)).trans hticket)
      · cases a with
        | thread u =>
            rcases hl.holds_thread ha with ⟨hold, -⟩ | ⟨rfl, hwaits⟩
            · exact .inl hold
            · exact .inr ⟨rfl, (Option.some.inj hwaits).symm⟩
        | handle j => exact .inl ((congrArg (·[j]?) hl.handles).symm.trans ha)
  | @keeps target body hopen =>
      refine h.of_holds m.Holds (fun a k ha => ⟨ha, fun ticket hticket => ?_⟩)
        (.handle m.handles.length) _ hfree (fun a k ha => ?_) (fun _ => ?_)
      · exact hl.exists_held ((List.getElem?_append_left (h.lt_length ha)).trans hticket)
      · cases a with
        | thread u => exact .inl (hl.holds_thread_of_none ha).1
        | handle j => exact holds_of_added hl.handles ha
      · exact hl.exists_held List.getElem?_concat_length rfl

/-- **Everything that happens** leaves one at most the handle of a call. -/
theorem Waited.happens (h : m.Waited) (hc : m.Chronicled g) {e : Event ν}
    (hs : m.happens e = some m') : m'.Waited := by
  obtain ⟨t, waits, m₀, hpre, hcompletes⟩ := hc.exists_completes hs
  exact h.prepares hpre hcompletes

end Machine

/-! ## Whoever waits is told what has become of the call -/

/-- What has become of a call on a worker: the calls that the worker has begun, with what they came
to as far as they have ended. -/
def Chronicle.outcome? (g : Chronicle ν) (c : Context) (k : Nat) : Option Report :=
  (((g.begun c).map Call.ticket).zip (g.ended c)).lookup k

/-- What whoever waits for a call is told: what it came to, that it is lost if the worker has ended
without it, and else nothing yet. -/
def Chronicle.due (g : Chronicle ν) (phase : Phase) (c : Context) (k : Nat) : Delivery :=
  match g.outcome? c k with
  | some r => r.delivery
  | none => if phase = .exited then .lost else .pending

namespace Machine

variable {m m' : Machine ν} {t : Thread} {c : Context} {g : Chronicle ν}

/-- **Whoever waits for a call is told what has become of it.** -/
def Delivered (m : Machine ν) (g : Chronicle ν) : Prop :=
  ∀ (k : Nat) ticket, m.tickets[k]? = some ticket → ticket.held = true →
    ticket.delivery = g.due (m.boxes.get ticket.target).phase ticket.target k

lemma outcome?_eq_none {k : Nat} (h : k ∉ (g.begun c).map Call.ticket) :
    g.outcome? c k = none := by
  refine List.lookup_eq_none_iff.mpr fun p hp => ?_
  simp only [bne_iff_ne, ne_eq]
  rintro rfl
  exact h (List.of_mem_zip hp).1

/-- A worker that has nothing under way has ended all that it has begun. -/
lemma Chronicled.length_of_idle (h : m.Chronicled g) (hidle : m.stack (.worker c) = []) :
    (g.begun c).length = (g.ended c).length := by
  rw [h.single c, hidle]
  rfl

/-- A worker that has something under way has ended all the others that it has begun. -/
lemma Chronicled.exists_last (h : m.Chronicled g) (hne : m.stack (.worker c) ≠ []) :
    ∃ others call, g.begun c = others ++ [call] ∧ others.length = (g.ended c).length ∧
      outermost? (m.stack (.worker c)) = some (.ticket call.ticket) := by
  obtain ⟨origin, rest, goal, ⟨call, hlast, -, -, rfl⟩, hgoal⟩ := (h.shape _ hne).exists_outermost?
  have hbegun := List.dropLast_append_getLast? call hlast
  have hsingle := h.single c
  rw [List.isEmpty_eq_false_iff.mpr hne, ← hbegun, List.length_append] at hsingle
  exact ⟨_, call, hbegun.symm, Nat.add_right_cancel hsingle, hgoal⟩

lemma Numbered.nodup_begun (h : m.Numbered g) (hc : m.Chronicled g) (c : Context) :
    ((g.begun c).map Call.ticket).Nodup :=
  ((hc.order c).prefix_jobs.sublist.map _).nodup (h.distinct c)

/-- What has become of a call after a step of a thread that has something under way. -/
lemma Chronicled.outcome?_does (h : m.Chronicled g) (hne : m.stack t ≠ []) (k : Nat) :
    (g.note (.move t) m m').outcome? c k
      = (g.outcome? c k).or (if t = .worker c then m.tells? t k else none) := by
  have hbegun := begun_note_of_ne_nil g hne m'
  rw [Chronicle.outcome?, hbegun]
  by_cases hself : t = .worker c
  · subst hself
    obtain ⟨others, call, hcall, hlength, hgoal⟩ := h.exists_last hne
    have hends : (g.note (.move (.worker c)) m m').ended c
        = g.ended c ++ (m.ends? (.worker c)).toList := by simp [Chronicle.note]
    have hzip : ∀ more, ((g.begun c).map Call.ticket).zip (g.ended c ++ more)
        = (others.map Call.ticket).zip (g.ended c) ++ [call.ticket].zip more := by
      intro more
      rw [hcall, List.map_append, List.zip_append (by rw [List.length_map, hlength])]
      rfl
    have hold := hzip []
    rw [List.append_nil, List.zip_nil_right, List.append_nil] at hold
    rw [hends, hzip, List.lookup_append, Chronicle.outcome?, hold, if_pos rfl, tells?, hgoal]
    cases m.ends? (.worker c) with
    | none => simp
    | some r =>
        by_cases hk : call.ticket = k
        · subst hk
          simp
        · have hbeq : (k == call.ticket) = false := by simpa using Ne.symm hk
          simp [hk, hbeq, List.lookup_cons]
  · rw [if_neg hself, Option.or_none]
    simp [Chronicle.note, hself, Chronicle.outcome?]

/-- A worker that turns to its mailbox ends nothing. -/
lemma Chronicled.outcome?_turns (h : m.Chronicled g) (hidle : m.stack (.worker c) = [])
    (d : Context) (k : Nat) :
    (g.note (.move (.worker c)) m m').outcome? d k = g.outcome? d k := by
  have hended : (g.note (.move (.worker c)) m m').ended d = g.ended d := by
    simp [Chronicle.note, ends?_of_idle hidle]
  rw [Chronicle.outcome?, hended, Chronicle.outcome?]
  by_cases hd : d = c
  · subst hd
    have hzip : ((g.begun d ++ (m.takes? (.worker d) d).toList).map Call.ticket).zip
        (g.ended d ++ []) = ((g.begun d).map Call.ticket).zip (g.ended d) := by
      rw [List.map_append,
        List.zip_append (by rw [List.length_map, h.length_of_idle hidle]), List.zip_nil_right,
        List.append_nil]
    rw [List.append_nil] at hzip
    exact congrArg (List.lookup k) hzip
  · simp [Chronicle.note, takes?_of_turns hidle, hd]

/-- The call that a worker has under way is for that worker, and has not come to anything yet. -/
lemma Chronicled.outcome?_of_outermost (h : m.Chronicled g) (hn : m.Numbered g) {k : Nat}
    (hlast : outermost? (m.stack t) = some (.ticket k)) :
    ∃ c, t = .worker c ∧ g.outcome? c k = none ∧
      ∀ ticket, m.tickets[k]? = some ticket → ticket.target = c := by
  obtain ⟨c, call, rfl, hcall, rfl⟩ := h.exists_call hlast
  have hne : m.stack (.worker c) ≠ [] := by
    intro hnil
    rw [hnil] at hlast
    cases hlast
  obtain ⟨others, last, hbegun, hlength, -⟩ := h.exists_last hne
  have hlast' : last = call := by
    rw [hbegun, List.getLast?_concat] at hcall
    exact Option.some.inj hcall
  subst hlast'
  refine ⟨c, rfl, ?_, ?_⟩
  · have hnodup := hn.nodup_begun h c
    rw [hbegun, List.map_append, List.nodup_append] at hnodup
    have hzip : (others.map Call.ticket ++ [last.ticket]).zip (g.ended c ++ [])
        = (others.map Call.ticket).zip (g.ended c) ++ [last.ticket].zip [] :=
      List.zip_append ((List.length_map _).trans hlength)
    rw [List.append_nil, List.zip_nil_right, List.append_nil] at hzip
    rw [Chronicle.outcome?, hbegun, List.map_append, List.map_singleton, hzip]
    refine List.lookup_eq_none_iff.mpr fun p hp => ?_
    simp only [bne_iff_ne, ne_eq]
    intro he
    exact hnodup.2.2 _ (List.of_mem_zip hp).1 _ (List.mem_singleton_self _) he.symm
  · intro ticket hticket
    obtain ⟨own, hown, htarget⟩ :=
      hn.ticket c last ((h.order c).prefix_jobs.subset (List.mem_of_getLast? hcall))
    cases hticket.symm.trans hown
    exact htarget

/-- A thread that has something under way tells those who wait for its outermost closure what that
comes to, when it ends. -/
lemma Delivered.does (h : m.Delivered g) (hc : m.Chronicled g) (hn : m.Numbered g)
    (hne : m.stack t ≠ []) (hs : Does m t m') :
    m'.Delivered (g.note (.move t) m m') := by
  intro k after hafter hheld
  rw [(hs.grows _).phase, Chronicle.due, hc.outcome?_does hne]
  cases hticket : m.tickets[k]? with
  | some ticket =>
      obtain ⟨found, hfound, htarget, htold⟩ := hs.exists_ticket hticket
      cases hafter.symm.trans hfound
      obtain ⟨hheld, hdelivery⟩ := htold hheld
      rw [hdelivery, htarget]
      cases htells : m.tells? t k with
      | none =>
          rw [ite_self, Option.or_none]
          exact h k ticket hticket hheld
      | some r =>
          have hlast : outermost? (m.stack t) = some (.ticket k) := by
            by_contra hother
            rw [tells?, if_neg hother] at htells
            cases htells
          obtain ⟨c, rfl, hnone, hown⟩ := hc.outcome?_of_outermost hn hlast
          rw [hown ticket hticket, hnone, if_pos rfl]
          rfl
  | none =>
      have hge := List.getElem?_eq_none_iff.mp hticket
      have hlt := (List.getElem?_eq_some_iff.mp hafter).1
      have hknown : ∀ j, outermost? (m.stack t) = some (.ticket j) → j < m.tickets.length :=
        fun j => hn.lt_of_outermost hc
      cases hs.issues hknown with
      | none hsends htickets => omega
      | one target body hopen hsends htickets hnew =>
          obtain ⟨new, hnew, htarget, hpending⟩ := hnew
          have hk : k = m.tickets.length := by omega
          subst hk
          cases hafter.symm.trans hnew
          have hfresh : g.outcome? after.target m.tickets.length = none := by
            refine outcome?_eq_none fun hmem => ?_
            obtain ⟨call, hcall, hself⟩ := List.mem_map.mp hmem
            have hlt := hn.lt_length ((hc.order _).prefix_jobs.subset hcall)
            exact Nat.lt_irrefl _ (hself ▸ hlt)
          have htells : m.tells? t m.tickets.length = none := by
            rw [tells?, if_neg fun hlast => Nat.lt_irrefl _ (hknown _ hlast)]
          rw [hpending, hfresh, htells, ite_self, Option.or_none, htarget]
          exact (if_neg hopen).symm

/-- What a worker has begun that has nothing under way has come to something. -/
lemma Chronicled.exists_outcome? (h : m.Chronicled g) (hidle : m.stack (.worker c) = []) {k : Nat}
    (hk : k ∈ (g.begun c).map Call.ticket) : ∃ r, g.outcome? c k = some r := by
  rw [← Option.ne_none_iff_exists']
  intro hnone
  have hfst : (((g.begun c).map Call.ticket).zip (g.ended c)).map Prod.fst
      = (g.begun c).map Call.ticket :=
    List.map_fst_zip (Nat.le_of_eq ((List.length_map _).trans (h.length_of_idle hidle)))
  rw [← hfst] at hk
  obtain ⟨p, hp, rfl⟩ := List.mem_map.mp hk
  have hne := List.lookup_eq_none_iff.mp hnone p hp
  simp at hne

/-- A call was begun, or waits, as long as the worker is there. -/
lemma Numbered.begun_or_waits (hn : m.Numbered g) (hc : m.Chronicled g)
    (hphase : (m.boxes.get c).phase ≠ .exited) {k : Nat}
    (hk : k ∈ (Mailbox.jobs (g.commands c)).map Call.ticket) :
    k ∈ (g.begun c).map Call.ticket ∧
        k ∉ (Mailbox.jobs (m.boxes.get c).queue).map Call.ticket ∨
      k ∉ (g.begun c).map Call.ticket ∧
        k ∈ (Mailbox.jobs (m.boxes.get c).queue).map Call.ticket := by
  have hnodup := hn.distinct c
  rw [(hc.order c).jobs_eq hphase, List.map_append] at hk hnodup
  have hapart := (List.nodup_append.mp hnodup).2.2
  rcases List.mem_append.mp hk with hbegun | hwaits
  · exact .inl ⟨hbegun, fun hwaits => hapart k hbegun k hwaits rfl⟩
  · exact .inr ⟨fun hbegun => hapart k hbegun k hwaits rfl, hwaits⟩

/-- A worker that ends tells those who wait for calls that it has not begun that these are lost. -/
lemma Delivered.turns (h : m.Delivered g) (hc : m.Chronicled g) (hn : m.Numbered g)
    (hidle : m.stack (.worker c) = []) (hs : Turns m c m') :
    m'.Delivered (g.note (.move (.worker c)) m m') := by
  intro k after hafter hheld
  rw [Chronicle.due, hc.outcome?_turns hidle]
  have hkeep : ∀ ticket, m.tickets[k]? = some ticket → ticket.held = true →
      ((m'.boxes.get ticket.target).phase = .exited ↔
        (m.boxes.get ticket.target).phase = .exited) →
      ticket.delivery = match g.outcome? ticket.target k with
        | some r => r.delivery
        | none => if (m'.boxes.get ticket.target).phase = .exited then .lost else .pending := by
    intro ticket hticket hh hphase
    rw [h k ticket hticket hh, Chronicle.due]
    simp only [hphase]
  cases hs with
  | job hphase hqueue =>
      rw [tickets_setStack] at hafter
      refine hkeep after hafter hheld ?_
      rw [boxes_setStack, PerContext.get_set]
      split
      · next he => rw [he]
      · rfl
  | stop hphase hqueue log =>
      refine hkeep after hafter hheld ?_
      rw [PerContext.get_set]
      split
      · next he => simp [he, hphase]
      · rfl
  | exit hphase =>
      rw [getElem?_foldl_told] at hafter
      obtain ⟨ticket, hticket, rfl⟩ := Option.map_eq_some_iff.mp hafter
      by_cases hd : ticket.target = c
      · subst hd
        obtain ⟨call, hcall, rfl⟩ := hn.call k ticket hticket
        rcases hn.begun_or_waits hc (by simp [hphase]) (List.mem_map_of_mem hcall)
          with ⟨hbegun, hnot⟩ | ⟨hnot, hwaits⟩
        · rw [if_neg hnot] at hheld ⊢
          obtain ⟨r, hr⟩ := hc.exists_outcome? hidle hbegun
          have htold := h _ ticket hticket hheld
          rw [Chronicle.due, hr] at htold
          rw [hr]
          exact htold
        · rw [if_pos hwaits] at hheld ⊢
          rw [Ticket.held_told] at hheld
          rw [Ticket.target_told, Ticket.delivery_told _ hheld, outcome?_eq_none hnot,
            PerContext.get_set, if_pos rfl]
          exact (if_pos rfl).symm
      · have hnot : k ∉ (Mailbox.jobs (m.boxes.get c).queue).map Call.ticket := by
          intro hmem
          obtain ⟨call, hcall, rfl⟩ := List.mem_map.mp hmem
          have hphase' : (m.boxes.get c).phase ≠ .exited := by simp [hphase]
          obtain ⟨own, hown, htarget⟩ := hn.ticket c call (by
            rw [(hc.order c).jobs_eq hphase']
            exact List.mem_append_right _ hcall)
          cases hticket.symm.trans hown
          exact hd htarget
        rw [if_neg hnot] at hheld ⊢
        refine hkeep ticket hticket hheld ?_
        rw [PerContext.get_set, if_neg hd]

/-- **Everything that happens** is told to whoever waits for it. -/
theorem Delivered.happens (h : m.Delivered g) (hc : m.Chronicled g) (hn : m.Numbered g)
    {e : Event ν} (hs : m.happens e = some m') : m'.Delivered (g.note e m m') := by
  cases hc.follows hs with
  | @begin n hidle a =>
      have htickets : (m.begin n a).tickets = m.tickets := tickets_setStack _ _ _
      intro k ticket hk hheld
      rw [htickets] at hk
      exact h k ticket hk hheld
  | does hne hdoes => exact h.does hc hn hne hdoes
  | turns hidle hturns => exact h.turns hc hn hidle hturns

end Machine

end DeviceLink.Dispatch
