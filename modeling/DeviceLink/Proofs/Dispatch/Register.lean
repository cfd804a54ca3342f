import DeviceLink.Proofs.Dispatch.Holders

/-!
# What becomes of queued calls

An observer of a dispatcher writes down what becomes of every call that was queued: that its handle
is dropped, that its closure ends and what is logged then, and that whoever has waited for it goes
on.  All errors in the log are among this.

* `Mark`, `Register` — the record of a run.
* `Machine.marksFor`, **`Machine.marksOf_marks`** — what a step makes of one call.
* `errors_does`, **`Machine.lines_marks`** — what is logged as an error.
-/

namespace DeviceLink.Dispatch

variable {ν : Type}

/-! ## The record of a run -/

/-- What becomes of a queued call. -/
inductive Mark where
  /-- Its handle is dropped, so nobody can be told any more what it comes to. -/
  | dropped
  /-- Its closure ends. -/
  | ended (r : Report)
  /-- An error is logged when its closure ends. -/
  | logged (line : LogLine)
  /-- A thread that has waited for it goes on with what it came to. -/
  | collected (t : Thread) (r : Report)

def Mark.line? : Mark → Option LogLine
  | logged line => some line
  | dropped | ended _ | collected _ _ => none

/-- What a call came to, if it came to anything. -/
def Delivery.report? : Delivery → Option Report
  | value v => some (.value v)
  | panicked p => some (.panicked p)
  | pending | lost => none

@[simp] lemma Report.report?_delivery (r : Report) : r.delivery.report? = some r := by
  cases r <;> rfl

/-- What is logged of a closure that nobody is told of. -/
def Report.alarm : Report → List LogLine
  | panicked p => [.error (Unhandled.lineOf p.message)]
  | value _ => []

namespace Machine

/-- The errors that were logged. -/
def errors (m : Machine ν) : List LogLine := m.log.filter (·.level = .error)

/-- The calls that nobody can be told of any more after a step, among them any that are new. -/
def drops (before after : Machine ν) : List Nat :=
  (List.range after.tickets.length).filter fun k =>
    before.tickets[k]?.all Ticket.held && !after.held k

/-- The call whose closure ends when a thread makes a step, and what it comes to. -/
def closes? (m : Machine ν) (t : Thread) : Option (Nat × Report) :=
  match outermost? (m.stack t) with
  | some (.ticket k) => (m.ends? t).map (k, ·)
  | _ => none

/-- What whoever waits for a call has been told that it came to. -/
def told? (m : Machine ν) (k : Nat) : Option Report :=
  m.tickets[k]?.bind fun ticket => ticket.delivery.report?

/-- What a step of a thread makes of the calls: handles are dropped, a closure ends, and the thread
goes on with what it has waited for. -/
def marks (before after : Machine ν) (t : Thread) : List (Nat × Mark) :=
  (before.drops after).map (·, .dropped)
    ++ ((before.closes? t).toList.flatMap fun (k, r) =>
      (.ended r :: (after.errors.drop before.errors.length).map .logged).map (k, ·))
    ++ (before.awaited? t).toList.flatMap fun k =>
      (before.told? k).toList.map fun r => (k, .collected t r)

end Machine

/-- The record of a run. -/
structure Register (ν : Type) extends Chronicle ν where
  /-- What has become of the calls, oldest first. -/
  marks : List (Nat × Mark) := []

namespace Register

/-- What the observer writes down. -/
def note : Event ν → Machine ν → Machine ν → Register ν → Register ν
  | .begin _ _, _, _, g => g
  | .move t, before, after, g =>
    { toChronicle := g.toChronicle.note (.move t) before after
      marks := g.marks ++ before.marks after t }

/-- What has become of one call. -/
def marksOf (marks : List (Nat × Mark)) (k : Nat) : List Mark :=
  marks.filterMap fun p => if p.1 = k then some p.2 else none

/-- What has been logged. -/
def lines (marks : List (Nat × Mark)) : List LogLine := marks.filterMap fun p => p.2.line?

end Register

/-! ## What is logged -/

lemma Prepares.log_eq {m m₀ : Machine ν} {waits : Option Nat} (h : Prepares m t waits m₀) :
    m₀.log = m.log := by
  cases h <;> rfl

namespace Machine

variable {m m' m₀ : Machine ν} {t u : Thread} {c : Context} {k : Nat} {g : Register ν}
  {waits : Option Nat}

@[simp] lemma log_setStack (m : Machine ν) (t : Thread) (frames : List (Frame ν)) :
    (m.setStack t frames).log = m.log := by
  cases t <;> rfl

lemma log_give (m : Machine ν) (t : Thread) (v : Value) (below : List (Frame ν)) :
    (m.give t v below).log = m.log := by
  unfold give
  split <;> exact log_setStack _ _ _

/-- A panic is logged if nobody can be told of it, and nothing else is. -/
lemma errors_deliver (hk : k < m.tickets.length) (r : Report) :
    (m.deliver k r.delivery).errors = m.errors ++ if m.held k then [] else r.alarm := by
  have hticket := List.getElem?_eq_getElem hk
  rw [held_of_getElem? hticket]
  unfold deliver
  simp only [hticket]
  cases m.tickets[k].held with
  | true => exact (List.append_nil _).symm
  | false => cases r <;> simp [errors, Report.delivery, Report.alarm, write, LogLine.error]

lemma errors_write {line : LogLine} (h : line.level ≠ .error) (m : Machine ν) :
    (m.write line).errors = m.errors := by
  simp [errors, write, h]

lemma errors_stopNext (m : Machine ν) (t : Thread) (todo : List Context) (below : List (Frame ν)) :
    (m.stopNext t todo below).errors = m.errors := by
  cases todo with
  | nil => rw [errors, stopNext, log_give]; rfl
  | cons c todo =>
      unfold stopNext
      dsimp only
      split
      · rw [errors, log_setStack]; rfl
      · split
        · rw [errors, log_setStack]
          exact errors_write (by rintro ⟨⟩) _
        · rw [errors, log_setStack]; rfl

/-- What is logged when a thread makes a step. -/
def alarms (before after : Machine ν) (t : Thread) : List LogLine :=
  (before.closes? t).toList.flatMap fun (k, r) => if after.held k then [] else r.alarm

lemma closes?_of_quiet (h : m.ends? t = none) : m.closes? t = none := by
  unfold closes?
  rw [h]
  split <;> rfl

lemma closes?_eq_some {r : Report} (h : m.closes? t = some (k, r)) :
    outermost? (m.stack t) = some (.ticket k) ∧ m.ends? t = some r := by
  unfold closes? at h
  split at h
  · next j hlast =>
      obtain ⟨r', hends, he⟩ := Option.map_eq_some_iff.mp h
      cases he
      exact ⟨hlast, hends⟩
  · cases h

lemma closes?_of_last {r : Report} (hlast : outermost? (m.stack t) = some (.ticket k))
    (hends : m.ends? t = some r) : m.closes? t = some (k, r) := by
  unfold closes?
  rw [hlast, hends]
  rfl

/-- **What a thread logs as an error** that has something under way: the panic with which its
outermost closure ends, if nobody can be told. -/
lemma errors_does (hs : m.step t = some m') (hdoes : Does m t m')
    (hknown : ∀ k, outermost? (m.stack t) = some (.ticket k) → k < m.tickets.length) :
    m'.errors = m.errors ++ m.alarms m' t := by
  have hquiet : m.ends? t = none → m'.errors = m.errors →
      m'.errors = m.errors ++ m.alarms m' t := by
    intro hends hsame
    rw [alarms, closes?_of_quiet hends, hsame]
    exact (List.append_nil _).symm
  cases hdoes with
  | goes hpre hgoes hends =>
      refine hquiet hends ?_
      rw [errors, log_setStack, hpre.log_eq]
      rfl
  | @orders c todo below next hstack hnext log =>
      refine hquiet (by rw [ends?, raises?, hstack]) ?_
      unfold step at hs
      rw [hstack] at hs
      rw [← Option.some.inj hs]
      exact errors_stopNext m t _ _
  | @joined c todo below hstack hexited log =>
      refine hquiet (by rw [ends?, raises?, hstack]) ?_
      unfold step at hs
      rw [hstack] at hs
      simp only [hexited] at hs
      rw [← Option.some.inj hs, errors, log_setStack]
      exact errors_write (by rintro ⟨⟩) m
  | @ends m₀ goal report hpre cells hlast hgoal hends =>
      have hlog : ({ m₀ with cells } : Machine ν).errors = m.errors := by
        rw [errors, errors, ← hpre.log_eq]
      cases t with
      | outside n =>
          cases goal <;> try exact hgoal.elim
          have hnone : m.closes? (.outside n) = none := by
            unfold closes?
            rw [hlast]
          rw [alarms, hnone]
          exact hlog.trans (List.append_nil _).symm
      | worker c =>
          cases goal <;> try exact hgoal.elim
          next k =>
            obtain ⟨after, hafter, -⟩ :=
              hpre.exists_ticket (List.getElem?_eq_getElem (hknown k hlast))
            have hk := (List.getElem?_eq_some_iff.mp hafter).1
            rw [alarms, closes?_of_last hlast hends]
            rw [errors, log_setStack, held_setStack]
            refine (errors_deliver (m := { m₀ with cells }) hk report).trans ?_
            rw [hlog, tell]
            simp [held_deliver]

/-- A worker that turns to its mailbox logs no error. -/
lemma errors_turns (hidle : m.stack (.worker c) = []) (hs : m.step (.worker c) = some m') :
    m'.errors = m.errors := by
  unfold step at hs
  simp only [hidle, takeTurn, Mailbox.turn] at hs
  cases hphase : (m.boxes.get c).phase with
  | exited => simp [hphase] at hs
  | stopped =>
      simp only [hphase, Option.some.injEq, foldl_deliver_lost] at hs
      rw [← hs, errors, errors]
  | running =>
      rcases hqueue : (m.boxes.get c).queue with _ | ⟨call | _, rest⟩ <;>
        simp only [hphase, hqueue, Option.some.injEq, reduceCtorEq] at hs
      · rw [← hs, errors, log_setStack, errors]
      · rw [← hs]
        exact errors_write (by rintro ⟨⟩) _

/-! ## What a step makes of one call -/

section Marks

open Register

lemma marksOf_append (a b : List (Nat × Mark)) (k : Nat) :
    marksOf (a ++ b) k = marksOf a k ++ marksOf b k := List.filterMap_append

lemma lines_append (a b : List (Nat × Mark)) : lines (a ++ b) = lines a ++ lines b :=
  List.filterMap_append

lemma marksOf_map_pair (f : Nat → Mark) (ks : List Nat) (k : Nat) :
    marksOf (ks.map fun j => (j, f j)) k = (ks.filter (· = k)).map f := by
  induction ks with
  | nil => rfl
  | cons j ks ih =>
      by_cases hself : j = k <;> simp_all [marksOf]

lemma marksOf_self (k : Nat) (own : List Mark) : marksOf (own.map (k, ·)) k = own := by
  simp [marksOf, List.filterMap_map]

lemma marksOf_of_ne {j k : Nat} (h : j ≠ k) (own : List Mark) :
    marksOf (own.map (j, ·)) k = [] := by
  simp [marksOf, List.filterMap_map, h]

/-- A call's handle is dropped. -/
def lets (before after : Machine ν) (k : Nat) : Bool :=
  k < after.tickets.length && (before.tickets[k]?.all Ticket.held && !after.held k)

/-- What a thread's step makes of one call. -/
def marksFor (before after : Machine ν) (t : Thread) (k : Nat) : List Mark :=
  (if before.lets after k then [.dropped] else [])
    ++ (match before.tells? t k with
      | some r => .ended r :: (if after.held k then [] else r.alarm).map .logged
      | none => [])
    ++ if before.awaited? t = some k then (before.told? k).toList.map (.collected t) else []

lemma marksOf_drops (k : Nat) : marksOf ((m.drops m').map (·, .dropped)) k
    = if m.lets m' k then [.dropped] else [] := by
  rw [marksOf_map_pair (fun _ => .dropped), drops, List.filter_filter]
  have hcount : ∀ (p : Nat → Bool) (n : Nat),
      (List.range n).filter (fun j => decide (j = k) && p j)
        = if decide (k < n) && p k then [k] else [] := by
    intro p n
    induction n with
    | zero => simp
    | succ n ih =>
        rw [List.range_succ, List.filter_append, ih]
        rcases Nat.lt_trichotomy k n with hlt | rfl | hgt
        · have hne : n ≠ k := by omega
          have hlt' : k < n + 1 := by omega
          simp [hlt, hlt', hne]
        · by_cases hp : p k <;> simp [hp]
        · have hne : n ≠ k := by omega
          have hge : ¬ k < n := by omega
          have hge' : ¬ k < n + 1 := by omega
          simp [hge, hge', hne]
  rw [hcount fun j => m.tickets[j]?.all Ticket.held && !m'.held j, lets]
  split <;> rfl

lemma tells?_of_closes? {j : Nat} {r : Report} (h : m.closes? t = some (j, r)) :
    m.tells? t k = if j = k then some r else none := by
  obtain ⟨hlast, hends⟩ := closes?_eq_some h
  rw [tells?, hlast, hends]
  simp

lemma tells?_of_open (h : m.closes? t = none) : m.tells? t k = none := by
  by_contra hsome
  obtain ⟨r, hr⟩ := Option.ne_none_iff_exists'.mp hsome
  rw [tells?] at hr
  split at hr
  · next hlast => cases h.symm.trans (closes?_of_last hlast hr)
  · cases hr

/-- **What a step makes of one call**, once it is known what is logged. -/
lemma marksOf_marks (herrors : m'.errors = m.errors ++ m.alarms m' t) (k : Nat) :
    marksOf (m.marks m' t) k = m.marksFor m' t k := by
  have hlogged : m'.errors.drop m.errors.length = m.alarms m' t := by
    rw [herrors, List.drop_left]
  have hcollected : marksOf ((m.awaited? t).toList.flatMap fun j =>
      (m.told? j).toList.map fun r => (j, .collected t r)) k
      = if m.awaited? t = some k then (m.told? k).toList.map (.collected t) else [] := by
    cases m.awaited? t with
    | none => rfl
    | some j =>
        by_cases hself : j = k
        · subst hself
          cases hr : m.told? j <;> simp [marksOf, hr]
        · cases hr : m.told? j <;> simp [marksOf, hself, hr]
  rw [marks, marksOf_append, marksOf_append, marksOf_drops, hcollected, hlogged, marksFor]
  congr 2
  cases hcloses : m.closes? t with
  | none => rw [tells?_of_open hcloses]; rfl
  | some p =>
      obtain ⟨j, r⟩ := p
      rw [alarms, tells?_of_closes? hcloses, hcloses]
      by_cases hself : j = k
      · subst hself
        simp only [Option.toList_some, List.flatMap_singleton, marksOf_self, if_true]
      · simp only [Option.toList_some, List.flatMap_singleton, marksOf_of_ne hself, if_neg hself]

/-- All that is logged is marked so. -/
lemma lines_marks (herrors : m'.errors = m.errors ++ m.alarms m' t) :
    m'.errors = m.errors ++ lines (m.marks m' t) := by
  have hlogged : m'.errors.drop m.errors.length = m.alarms m' t := by
    rw [herrors, List.drop_left]
  have hdrops : lines ((m.drops m').map (·, .dropped)) = [] := by
    simp [lines, List.filterMap_map, Mark.line?]
  have hcollected : lines ((m.awaited? t).toList.flatMap fun j =>
      (m.told? j).toList.map fun r => (j, .collected t r)) = [] := by
    cases m.awaited? t with
    | none => rfl
    | some j => cases hr : m.told? j <;> simp [lines, hr, Mark.line?]
  rw [marks, lines_append, lines_append, hdrops, hcollected, hlogged, herrors]
  congr 1
  cases hcloses : m.closes? t with
  | none => simp [alarms, hcloses, lines]
  | some p =>
      simp [alarms, hcloses, lines, List.filterMap_map, Mark.line?]

end Marks

end Machine

end DeviceLink.Dispatch
