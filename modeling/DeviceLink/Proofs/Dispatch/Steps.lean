import DeviceLink.Dispatch.Machine
import DeviceLink.Proofs.Run
import Mathlib.Data.List.Basic

/-!
# What a thread does

Each thread of a dispatcher has closures inside each other under way, and at the top it may wait for
a call or for the end of a worker.  A step of it is one of a few things: it goes on, which may queue
a call or let go of a handle; it orders a worker to stop; or its outermost closure ends.

* `Event`, `Machine.happens`, `Machine.follow` — what happens to a dispatcher, and a run.
* `Machine.raises?`, `Machine.ends?` — the panic that a thread's next step raises, and what its
  outermost closure then comes to.
* `Tower`, `Busy` — the stack of a thread that has something under way.
* `Prepares`, `Goes`, `Does`, `Turns` — what a step does to calls and handles, to the stack, and in
  all.
* **`does_step`** — whatever a thread does that has something under way is one of these.
* **`turns_step`** — and this is what a worker does that has nothing.
-/

namespace DeviceLink.Dispatch

variable {ν γ : Type}

/-! ## What happens -/

/-- One thing that happens to a dispatcher. -/
inductive Event (ν : Type) where
  /-- An outside thread with nothing under way is asked to do something. -/
  | begin (n : Nat) (a : Action ν)
  /-- A thread makes a step. -/
  | move (t : Thread)

namespace Machine

variable {m m' : Machine ν} {t u : Thread} {c : Context}

/-- **One thing happens**, if it can happen. -/
def happens (m : Machine ν) : Event ν → Option (Machine ν)
  | .begin n a => if (m.stack (.outside n)).isEmpty then some (m.begin n a) else none
  | .move t => m.step t

/-- **A run**, with the record of an observer who sees the machine before and after everything that
happens.  What cannot happen is passed over. -/
def follow (note : Event ν → Machine ν → Machine ν → γ → γ) :
    Machine ν × γ → List (Event ν) → Machine ν × γ :=
  runWith happens id note

/-! ## How closures end -/

/-- The panic that an action raises, if it raises one: its own, a guard's, a cell's, or that of a
thread that drives a task and would have to stand still, or to drive another. -/
def provokes? (m : Machine ν) (a : Action ν) (origin : Origin) (frames : List (Frame ν)) :
    Option Panic :=
  match a with
  | .panic p => some p
  | .guard expected =>
    match origin.check expected with
    | .ok () => none
    | .error text => some (.text text)
  | .enter cell _ =>
    match origin.check cell with
    | .ok () => if (m.cells.get cell).entered then some (.text cell.reentered) else none
    | .error text => some (.text text)
  | .call .driving _ _ _ => if drivesTask frames then some (.text taskInTask) else none
  | .wait handle =>
    match m.handles[handle]? with
    | some (.pending _) => if drivesTask frames then some (.text blockedInTask) else none
    | _ => none
  | _ => none

/-- The panic that a thread's next step raises: an action's, that of the call it has waited for, or
that of a call it cannot wait for. -/
def raises? (m : Machine ν) (t : Thread) : Option Panic :=
  match m.stack t with
  | .running origin (a :: rest) values goal :: below =>
    m.provokes? a origin (.running origin rest values goal :: below)
  | .awaiting ticket :: _ =>
    match m.tickets[ticket]? with
    | some { delivery := .panicked p, .. } => some p
    | _ => none
  | .discarding _ panic :: _ => panic
  | _ => none

/-- What a thread's outermost closure comes to, if it ends in the next step. -/
def ends? (m : Machine ν) (t : Thread) : Option Report :=
  match m.raises? t with
  | some p => some (.panicked p)
  | none =>
    match m.stack t with
    | [.running _ [] values _] => some (.value (.returned values))
    | [.running _ (.fail text :: _) _ _] => some (.value (.failed text))
    | _ => none

/-! ## Stacks -/

@[simp] lemma stack_setStack_worker (m : Machine ν) (c : Context) (frames : List (Frame ν)) :
    (m.setStack (.worker c) frames).stack (.worker c) = frames :=
  (PerContext.get_set _ _ _ _).trans (if_pos rfl)

lemma stack_setStack (m : Machine ν) (t : Thread) (frames : List (Frame ν)) :
    (m.setStack t frames).stack t = frames ∨ (m.setStack t frames).stack t = m.stack t := by
  cases t with
  | worker c => exact .inl (stack_setStack_worker m c frames)
  | outside n =>
      rw [setStack, stack, stack]
      by_cases h : n < m.outside.length
      · exact .inl (by simp [h])
      · exact .inr (by simp [h])

lemma stack_setStack_of_ne_nil (h : m.stack t ≠ []) (frames : List (Frame ν)) :
    (m.setStack t frames).stack t = frames := by
  cases t with
  | worker c => exact stack_setStack_worker m c frames
  | outside n =>
      have hlt : n < m.outside.length := by
        by_contra hge
        exact h (by simp [stack, hge])
      simp [setStack, stack, hlt]

lemma stack_setStack_of_ne (h : u ≠ t) (frames : List (Frame ν)) :
    (m.setStack t frames).stack u = m.stack u := by
  cases t with
  | worker c =>
      cases u with
      | worker d => exact (PerContext.get_set _ _ _ _).trans (if_neg fun he => h (congrArg _ he))
      | outside k => rfl
  | outside n =>
      cases u with
      | worker d => rfl
      | outside k =>
          have hne : n ≠ k := fun he => h (congrArg _ he.symm)
          simp [setStack, stack, List.getElem?_set_ne hne]

/-- What a thread outside begins is all that it has under way, if there is such a thread. -/
lemma stack_begin {n : Nat} (hidle : m.stack (.outside n) = []) (a : Action ν) :
    (m.begin n a).stack (.outside n) = [.running .external [a] [] .result] ∨
      (m.begin n a).stack (.outside n) = [] := by
  rw [begin, push, hidle]
  exact (m.stack_setStack _ _).imp_right fun h => h.trans hidle

end Machine

/-- The goal of a closure inside another. -/
def Goal.Inner : Goal → Prop
  | value | task | keep _ | leave _ => True
  | ticket _ | result => False

/-- The goal of the outermost closure of a thread. -/
def Goal.Of : Thread → Goal → Prop
  | .worker _, ticket _ | .outside _, result => True
  | _, _ => False

/-- **Closures inside each other**; the outermost is told some place, has something left, and has a
goal. -/
inductive Tower (P : Origin → List (Action ν) → Goal → Prop) : List (Frame ν) → Prop where
  | base {origin : Origin} {rest : List (Action ν)} {values : List Value} {goal : Goal}
      (h : P origin rest goal) : Tower P [.running origin rest values goal]
  | inner {origin : Origin} {rest : List (Action ν)} {values : List Value} {goal : Goal}
      {below : List (Frame ν)} (hgoal : goal.Inner) (h : Tower P below) :
      Tower P (.running origin rest values goal :: below)

/-- What a thread can do at the top of its stack, apart from running a closure. -/
inductive Frame.Standing : Frame ν → Prop where
  | awaiting (ticket : Nat) : Standing (.awaiting ticket)
  | discarding (ticket : Nat) (panic : Option Panic) : Standing (.discarding ticket panic)
  | stopping (todo : List Context) : Standing (.stopping todo)
  | joining (c : Context) (todo : List Context) : Standing (.joining c todo)

/-- **A thread with something under way**: closures inside each other, and it may be standing. -/
inductive Busy (P : Origin → List (Action ν) → Goal → Prop) : List (Frame ν) → Prop where
  | running {frames : List (Frame ν)} (h : Tower P frames) : Busy P frames
  | standing {frame : Frame ν} {below : List (Frame ν)} (hframe : frame.Standing)
      (h : Tower P below) : Busy P (frame :: below)

def Frame.goal? : Frame ν → Option Goal
  | .running _ _ _ goal => some goal
  | .awaiting _ | .discarding _ _ | .stopping _ | .joining _ _ => none

lemma Frame.Standing.goal?_eq_none {frame : Frame ν} (h : frame.Standing) : frame.goal? = none := by
  cases h <;> rfl

/-- The goal of the outermost closure. -/
def outermost? (frames : List (Frame ν)) : Option Goal := frames.getLast?.bind Frame.goal?

lemma outermost?_cons (frame : Frame ν) {below : List (Frame ν)} (h : below ≠ []) :
    outermost? (frame :: below) = outermost? below := by
  cases below with
  | nil => exact (h rfl).elim
  | cons _ _ => rfl

namespace Tower

variable {P Q : Origin → List (Action ν) → Goal → Prop} {frames below : List (Frame ν)}

lemma mono (hPQ : ∀ origin rest goal, P origin rest goal → Q origin rest goal)
    (h : Tower P frames) : Tower Q frames := by
  induction h with
  | base h => exact .base (hPQ _ _ _ h)
  | inner hgoal _ ih => exact .inner hgoal ih

lemma exists_cons (h : Tower P frames) :
    ∃ origin rest values goal below, frames = .running origin rest values goal :: below := by
  cases h with
  | base h => exact ⟨_, _, _, _, _, rfl⟩
  | inner hgoal h => exact ⟨_, _, _, _, _, rfl⟩

lemma ne_nil (h : Tower P frames) : frames ≠ [] := by
  obtain ⟨_, _, _, _, _, rfl⟩ := h.exists_cons
  exact List.cons_ne_nil _ _

/-- The closure at the top goes on. -/
lemma advance {origin : Origin} {rest rest' : List (Action ν)} {values values' : List Value}
    {goal : Goal} (hP : P origin rest goal → P origin rest' goal)
    (h : Tower P (.running origin rest values goal :: below)) :
    Tower P (.running origin rest' values' goal :: below) := by
  cases h with
  | base h => exact .base (hP h)
  | inner hgoal h => exact .inner hgoal h

/-- The outermost closure has the goal that it should have. -/
lemma exists_outermost? (h : Tower P frames) :
    ∃ origin rest goal, P origin rest goal ∧ outermost? frames = some goal := by
  induction h with
  | base h => exact ⟨_, _, _, h, rfl⟩
  | inner hgoal h ih =>
      obtain ⟨origin, rest, goal, hP, hlast⟩ := ih
      exact ⟨origin, rest, goal, hP, (outermost?_cons _ h.ne_nil).trans hlast⟩

end Tower

/-! ## What a step does -/

/-- A thread has the handle of a call: it waits for that, or is about to drop it. -/
inductive Frame.Has (k : Nat) : Frame ν → Prop where
  | awaiting : Has k (.awaiting k)
  | discarding (panic : Option Panic) : Has k (.discarding k panic)

lemma Frame.Has.standing {k : Nat} {frame : Frame ν} (h : frame.Has k) : frame.Standing := by
  cases h with
  | awaiting => exact .awaiting k
  | discarding panic => exact .discarding k panic

/-- A thread need not stand any more: the call that it waits for has come to something, it drops a
handle, or there is nothing more to stop. -/
inductive Frame.Over : Frame ν → Prop where
  | awaiting (k : Nat) : Over (.awaiting k)
  | discarding (k : Nat) : Over (.discarding k none)
  | stopping : Over (.stopping [])

lemma Frame.Over.standing {frame : Frame ν} (h : frame.Over) : frame.Standing := by
  cases h with
  | awaiting k => exact .awaiting k
  | discarding k => exact .discarding k none
  | stopping => exact .stopping []

/-- What a step of a thread does to calls and handles, and the call whose handle it then has. -/
inductive Prepares (m : Machine ν) (t : Thread) : Option Nat → Machine ν → Prop where
  /-- No call is queued, and no handle is let go that somebody could wait on. -/
  | same (cells : PerContext Cell) (handles : List Handle) (record : List (Thread × ν))
      (hlength : m.handles.length ≤ handles.length)
      (hhandles : ∀ (handle ticket : Nat), handles[handle]? = some (.pending ticket) →
        m.handles[handle]? = some (.pending ticket)) :
      Prepares m t none { m with cells, handles, record }
  /-- The handle that the thread has is dropped. -/
  | lets {k : Nat} {ticket : Ticket} {panic : Option Panic} {below : List (Frame ν)}
      (hstack : m.stack t = .discarding k panic :: below)
      (hticket : m.tickets[k]? = some ticket) :
      Prepares m t none { m with tickets := m.tickets.set k { ticket with held := false } }
  /-- A kept handle is dropped. -/
  | forgets {handle k : Nat} {ticket : Ticket} (hhandle : m.handles[handle]? = some (.pending k))
      (hticket : m.tickets[k]? = some ticket) :
      Prepares m t none { m with
        handles := m.handles.set handle .empty
        tickets := m.tickets.set k { ticket with held := false } }
  /-- A kept handle is used up, to wait for its call. -/
  | takes {handle k : Nat} (hhandle : m.handles[handle]? = some (.pending k)) :
      Prepares m t (some k) { m with handles := m.handles.set handle .empty }
  /-- A call is queued, and its caller has the handle. -/
  | queues {target : Context} (body : List (Action ν))
      (hopen : (m.boxes.get target).phase ≠ .exited) :
      Prepares m t (some m.tickets.length) { m with
        boxes := m.boxes.set target { m.boxes.get target with
          queue := (m.boxes.get target).queue ++ [.run ⟨m.tickets.length, body⟩] }
        tickets := m.tickets ++ [{ target, held := true }] }
  /-- A call is queued, and a handle is kept. -/
  | keeps {target : Context} (body : List (Action ν))
      (hopen : (m.boxes.get target).phase ≠ .exited) :
      Prepares m t none { m with
        boxes := m.boxes.set target { m.boxes.get target with
          queue := (m.boxes.get target).queue ++ [.run ⟨m.tickets.length, body⟩] }
        tickets := m.tickets ++ [{ target, held := true }]
        handles := m.handles ++ [.pending m.tickets.length] }

/-- How the stack of a thread changes that goes on, in view of the handles that there are then, and
the call whose handle it has. -/
inductive Goes (after : List Handle) : List (Frame ν) → Option Nat → List (Frame ν) → Prop where
  /-- An action is over. -/
  | acts {origin : Origin} {a : Action ν} {rest : List (Action ν)} {values : List Value}
      {goal : Goal} {below : List (Frame ν)} (v : Value) :
      Goes after (.running origin (a :: rest) values goal :: below) none
        (.running origin rest (values ++ [v]) goal :: below)
  /-- A closure begins inside; there is room for its value if that is to be kept. -/
  | enters {origin place : Origin} {a : Action ν} {rest body : List (Action ν)}
      {values : List Value} {goal inside : Goal} {below : List (Frame ν)} (hinside : inside.Inner)
      (hroom : ∀ n, inside = .keep (some n) → after[n]? = some .empty) :
      Goes after (.running origin (a :: rest) values goal :: below) none
        (.running place body [] inside :: .running origin rest values goal :: below)
  /-- The workers are to be stopped. -/
  | halts {origin : Origin} {rest : List (Action ν)} {values : List Value} {goal : Goal}
      {below : List (Frame ν)} :
      Goes after (.running origin (.stop :: rest) values goal :: below) none
        (.stopping [.pipeline, .callback] :: .running origin rest values goal :: below)
  /-- A call is waited for, or its handle is to be dropped. -/
  | awaits {origin : Origin} {a : Action ν} {rest : List (Action ν)} {values : List Value}
      {goal : Goal} {below : List (Frame ν)} {k : Nat} {frame : Frame ν} (hframe : frame.Has k) :
      Goes after (.running origin (a :: rest) values goal :: below) (some k)
        (frame :: .running origin rest values goal :: below)
  /-- A closure inside another ends. -/
  | leaves {origin outer : Origin} {rest more : List (Action ν)} {values others : List Value}
      {goal outside : Goal} {below : List (Frame ν)} (hgoal : goal.Inner) (v : Value) :
      Goes after (.running origin rest values goal :: .running outer more others outside :: below)
        none (.running outer more (others ++ [v]) outside :: below)
  /-- It stands no more. -/
  | resumes {frame : Frame ν} {origin : Origin} {rest : List (Action ν)} {values : List Value}
      {goal : Goal} {below : List (Frame ν)}
      (hframe : frame.Over) (v : Value) :
      Goes after (frame :: .running origin rest values goal :: below) none
        (.running origin rest (values ++ [v]) goal :: below)

/-- What comes of a call, from what its closure comes to. -/
def Report.delivery : Report → Delivery
  | value v => .value v
  | panicked p => .panicked p

namespace Machine

variable {m m' m₀ : Machine ν} {t u : Thread} {c : Context}

/-- What the end of a thread's outermost closure leads to. -/
def tell (m : Machine ν) (t : Thread) (goal : Goal) (r : Report) : Machine ν :=
  match t, goal with
  | .worker _, .ticket k => m.deliver k r.delivery
  | .outside n, .result => m.conclude n r
  | _, _ => m

end Machine

/-- **What a thread can do** that has something under way. -/
inductive Does (m : Machine ν) (t : Thread) : Machine ν → Prop where
  /-- It goes on. -/
  | goes {waits : Option Nat} {m₀ : Machine ν} {frames : List (Frame ν)}
      (hpre : Prepares m t waits m₀) (hgoes : Goes m₀.handles (m.stack t) waits frames)
      (hends : m.ends? t = none) : Does m t (m₀.setStack t frames)
  /-- It orders a worker to stop, and is to wait for its end, or goes on. -/
  | orders {c : Context} {todo : List Context} {below : List (Frame ν)} {next : Frame ν}
      (hstack : m.stack t = .stopping (c :: todo) :: below)
      (hnext : next = .joining c todo ∧ (m.boxes.get c).joinable = true ∧ t ≠ .worker c ∨
        next = .stopping todo ∧ ((m.boxes.get c).joinable = false ∨ t = .worker c))
      (log : List LogLine) :
      Does m t ({ m with boxes := m.boxes.set c (m.boxes.get c).sendStop.claim, log }.setStack t
        (next :: below))
  /-- A worker's end was waited for. -/
  | joined {c : Context} {todo : List Context} {below : List (Frame ν)}
      (hstack : m.stack t = .joining c todo :: below) (hexited : (m.boxes.get c).phase = .exited)
      (log : List LogLine) : Does m t ({ m with log }.setStack t (.stopping todo :: below))
  /-- Its outermost closure ends. -/
  | ends {m₀ : Machine ν} {goal : Goal} {report : Report} (hpre : Prepares m t none m₀)
      (cells : PerContext Cell) (hlast : outermost? (m.stack t) = some goal) (hgoal : goal.Of t)
      (hends : m.ends? t = some report) :
      Does m t (({ m₀ with cells }.tell t goal report).setStack t [])

namespace Machine

variable {m m' m₀ : Machine ν} {t u : Thread} {c : Context}

/-! ### The end of a closure -/

lemma prepares_refl (m : Machine ν) {t : Thread} : Prepares m t none m :=
  .same m.cells m.handles m.record (Nat.le_refl _) fun _ _ h => h

lemma ends?_of_raises {p : Panic} (h : m.raises? t = some p) : m.ends? t = some (.panicked p) := by
  rw [ends?, h]

/-- An action that raises no panic, and does not make the closure fail, does not end it. -/
lemma ends?_of_running {origin : Origin} {a : Action ν} {rest : List (Action ν)}
    {values : List Value} {goal : Goal} {below : List (Frame ν)}
    (hstack : m.stack t = .running origin (a :: rest) values goal :: below)
    (hquiet : m.provokes? a origin (.running origin rest values goal :: below) = none)
    (hfail : ∀ text, a ≠ .fail text) : m.ends? t = none := by
  have hraises : m.raises? t = none := by
    rw [raises?, hstack]
    exact hquiet
  rw [ends?, hraises, hstack]
  cases below <;> cases a <;> first | rfl | exact (hfail _ rfl).elim

/-- **A panic ends the outermost closure**; cells on the way are left. -/
lemma unwind_eq {frames : List (Frame ν)} (h : Tower (fun _ _ goal => goal.Of t) frames)
    (m : Machine ν) (p : Panic) :
    ∃ cells goal, Goal.Of t goal ∧ outermost? frames = some goal ∧
      m.unwind t p frames = ({ m with cells }.tell t goal (.panicked p)).setStack t [] := by
  induction h generalizing m with
  | @base origin rest values goal hgoal =>
      refine ⟨m.cells, goal, hgoal, rfl, ?_⟩
      cases t <;> cases goal <;> first | exact hgoal.elim | rfl
  | @inner origin rest values goal below hgoal h ih =>
      rw [outermost?_cons _ h.ne_nil]
      cases goal with
      | ticket _ | result => exact hgoal.elim
      | value | task | keep _ => exact ih m
      | leave cell => exact ih (m.setCell cell { value := (m.cells.get cell).value })

/-- What replaces a handle and cannot be waited on leaves the others. -/
lemma pending_of_set {handles : List Handle} {handle other k : Nat} {h : Handle}
    (hh : ∀ k, h ≠ .pending k) (hk : (handles.set handle h)[other]? = some (.pending k)) :
    handles[other]? = some (.pending k) := by
  rw [List.getElem?_set] at hk
  split at hk
  · split at hk
    · exact (hh k (Option.some.inj hk)).elim
    · cases hk
  · exact hk

/-- So does what makes room for one more. -/
lemma pending_of_append {handles : List Handle} {other k : Nat} {h : Handle}
    (hh : ∀ k, h ≠ .pending k) (hk : (handles ++ [h])[other]? = some (.pending k)) :
    handles[other]? = some (.pending k) := by
  rw [List.getElem?_append] at hk
  split at hk
  · exact hk
  · rw [List.getElem?_singleton] at hk
    split at hk
    · exact (hh k (Option.some.inj hk)).elim
    · cases hk

/-- A panic is raised. -/
lemma does_unwind {frames : List (Frame ν)} (htower : Tower (fun _ _ goal => goal.Of t) frames)
    (hlast : outermost? (m.stack t) = outermost? frames) (hpre : Prepares m t none m₀) {p : Panic}
    (hraises : m.raises? t = some p) : Does m t (m₀.unwind t p frames) := by
  obtain ⟨cells, goal, hgoal, hgoal', heq⟩ := unwind_eq htower m₀ p
  rw [heq]
  exact .ends hpre cells (hlast.trans hgoal') hgoal (ends?_of_raises hraises)

/-- A closure ends, with the values of its actions or with an error. -/
lemma does_finish {origin : Origin} {left rest : List (Action ν)} {values : List Value}
    {goal : Goal} {below : List (Frame ν)}
    (hstack : m.stack t = .running origin left values goal :: below)
    (htower : Tower (fun _ _ goal => goal.Of t) (.running origin rest values goal :: below))
    {v : Value} (hv : left = [] ∧ v = .returned values ∨
      ∃ text rest, left = .fail text :: rest ∧ v = .failed text) :
    Does m t (m.finish t v goal below) := by
  have hraises : m.raises? t = none := by
    rw [raises?, hstack]
    rcases hv with ⟨rfl, -⟩ | ⟨text, rest, rfl, -⟩ <;> rfl
  cases htower with
  | base hgoal =>
      have hends : m.ends? t = some (.value v) := by
        rw [ends?, hraises, hstack]
        rcases hv with ⟨rfl, rfl⟩ | ⟨text, rest, rfl, rfl⟩ <;> rfl
      have hlast : outermost? (m.stack t) = some goal := by rw [hstack]; rfl
      have hdoes := Does.ends (prepares_refl m) m.cells hlast hgoal hends
      cases t <;> cases goal <;> first | exact hgoal.elim | exact hdoes
  | inner hgoal h =>
      obtain ⟨outer, more, others, outside, below, rfl⟩ := h.exists_cons
      have hends : m.ends? t = none := by
        rw [ends?, hraises, hstack]
        rcases hv with ⟨rfl, rfl⟩ | ⟨text, rest, rfl, rfl⟩ <;> rfl
      have hgoes : ∀ {after : List Handle} v, Goes after (m.stack t) none
          (.running outer more (others ++ [v]) outside :: below) :=
        fun v => hstack ▸ .leaves hgoal v
      cases goal with
      | ticket _ | result => exact hgoal.elim
      | value | task => exact .goes (prepares_refl m) (hgoes v) hends
      | leave cell =>
          exact .goes (.same _ m.handles m.record (Nat.le_refl _) fun _ _ h => h) (hgoes _) hends
      | keep handle =>
          cases handle with
          | none => exact .goes (prepares_refl m) (hgoes _) hends
          | some handle =>
              have hset : Prepares m t none (m.setHandle handle (.ready v)) :=
                .same m.cells _ m.record (by simp) fun _ _ => pending_of_set (by rintro k ⟨⟩)
              exact .goes hset (hgoes _) hends

/-! ### Actions -/

section Actions

variable {origin : Origin} {a : Action ν} {rest : List (Action ν)} {values : List Value}
  {goal : Goal} {below : List (Frame ν)}

/-- An action is over, and nothing else has come of it. -/
lemma does_give (hstack : m.stack t = .running origin (a :: rest) values goal :: below)
    (hpre : Prepares m t none m₀) (hends : m.ends? t = none) (v : Value) :
    Does m t (m₀.give t v (.running origin rest values goal :: below)) :=
  .goes hpre (hstack ▸ .acts v) hends

lemma queue?_eq (m : Machine ν) (target : Context) (body : List (Action ν)) :
    m.queue? target body =
      if (m.boxes.get target).phase = .exited then none
      else some (m.tickets.length, { m with
        boxes := m.boxes.set target { m.boxes.get target with
          queue := (m.boxes.get target).queue ++ [.run ⟨m.tickets.length, body⟩] }
        tickets := m.tickets ++ [{ target, held := true }] }) := by
  rw [queue?, Mailbox.send?]
  cases h : (m.boxes.get target).phase <;> simp [h]

lemma raises?_of_running (hstack : m.stack t = .running origin (a :: rest) values goal :: below) :
    m.raises? t = m.provokes? a origin (.running origin rest values goal :: below) := by
  rw [raises?, hstack]

/-- The outermost closure stays the same while the one at the top goes on. -/
lemma outermost?_of_running
    (hstack : m.stack t = .running origin (a :: rest) values goal :: below) :
    outermost? (m.stack t) = outermost? (.running origin rest values goal :: below) := by
  rw [hstack]
  cases below <;> rfl

section Calling

variable {style : Style} {stated : Option Origin} {target : Context} {body : List (Action ν)}

lemma does_call_waiting
    (hstack : m.stack t = .running origin (.call .waiting stated target body :: rest) values goal
      :: below) :
    Does m t (m.call t (stated.getD origin) .waiting target body
      (.running origin rest values goal :: below)) := by
  have hquiet : m.ends? t = none := ends?_of_running hstack rfl (by rintro _ ⟨⟩)
  simp only [call, queue?_eq]
  split
  · exact .goes (prepares_refl m) (hstack ▸ .enters trivial (by rintro _ ⟨⟩)) hquiet
  · by_cases hopen : (m.boxes.get target).phase = .exited
    · rw [if_pos hopen]
      exact does_give hstack (prepares_refl m) hquiet _
    · rw [if_neg hopen]
      dsimp only
      split
      · exact .goes (.queues body hopen) (hstack ▸ .awaits (.discarding _)) hquiet
      · exact .goes (.queues body hopen) (hstack ▸ .awaits .awaiting) hquiet

lemma does_call_driving
    (hstack : m.stack t = .running origin (.call .driving stated target body :: rest) values goal
      :: below)
    (htower : Tower (fun _ _ goal => goal.Of t) (.running origin rest values goal :: below)) :
    Does m t (m.call t (stated.getD origin) .driving target body
      (.running origin rest values goal :: below)) := by
  simp only [call, queue?_eq]
  by_cases hdrives : drivesTask (.running origin rest values goal :: below) = true
  · rw [if_pos hdrives]
    exact does_unwind htower (outermost?_of_running hstack) (prepares_refl m)
      ((raises?_of_running hstack).trans (by simp [provokes?, hdrives]))
  · rw [if_neg hdrives]
    have hquiet := ends?_of_running hstack (by simp [provokes?, hdrives]) (by rintro _ ⟨⟩)
    split
    · exact .goes (prepares_refl m) (hstack ▸ .enters trivial (by rintro _ ⟨⟩)) hquiet
    · by_cases hopen : (m.boxes.get target).phase = .exited
      · rw [if_pos hopen]
        exact does_give hstack (prepares_refl m) hquiet _
      · rw [if_neg hopen]
        exact .goes (.queues body hopen) (hstack ▸ .awaits .awaiting) hquiet

lemma does_call_keeping
    (hstack : m.stack t = .running origin (.call .keeping stated target body :: rest) values goal
      :: below) :
    Does m t (m.call t (stated.getD origin) .keeping target body
      (.running origin rest values goal :: below)) := by
  have hquiet : m.ends? t = none := ends?_of_running hstack rfl (by rintro _ ⟨⟩)
  have hroom : Prepares m t none m.newHandle :=
    .same m.cells _ m.record (by simp) fun _ _ => pending_of_append (by rintro k ⟨⟩)
  simp only [call, queue?_eq]
  split
  · refine .goes hroom (hstack ▸ .enters trivial ?_) hquiet
    rintro n ⟨⟩
    exact List.getElem?_concat_length
  · by_cases hopen : (m.newHandle.boxes.get target).phase = .exited
    · rw [if_pos hopen]
      refine does_give hstack (.same m.cells _ m.record (by simp [newHandle]) fun _ _ hk => ?_)
        hquiet _
      exact pending_of_append (by rintro k ⟨⟩) (pending_of_set (by rintro k ⟨⟩) hk)
    · have hkept : (m.handles ++ [Handle.empty]).set m.handles.length
          (.pending m.tickets.length) = m.handles ++ [.pending m.tickets.length] := by simp
      have hkeeps : Prepares m t none (setHandle { m.newHandle with
          boxes := m.boxes.set target { m.boxes.get target with
            queue := (m.boxes.get target).queue ++ [.run ⟨m.tickets.length, body⟩] }
          tickets := m.tickets ++ [{ target, held := true }] } m.handles.length
          (.pending m.tickets.length)) := by
        have hpre := Prepares.keeps (m := m) (t := t) body hopen
        rw [← hkept] at hpre
        exact hpre
      rw [if_neg hopen]
      exact does_give hstack hkeeps hquiet _

lemma does_call_dropping
    (hstack : m.stack t = .running origin (.call .dropping stated target body :: rest) values goal
      :: below) :
    Does m t (m.call t (stated.getD origin) .dropping target body
      (.running origin rest values goal :: below)) := by
  have hquiet : m.ends? t = none := ends?_of_running hstack rfl (by rintro _ ⟨⟩)
  simp only [call, queue?_eq]
  split
  · exact .goes (prepares_refl m) (hstack ▸ .enters trivial (by rintro _ ⟨⟩)) hquiet
  · by_cases hopen : (m.boxes.get target).phase = .exited
    · rw [if_pos hopen]
      exact does_give hstack (prepares_refl m) hquiet _
    · rw [if_neg hopen]
      exact .goes (.queues body hopen) (hstack ▸ .awaits (.discarding _)) hquiet

/-- **A closure is dispatched.** -/
lemma does_call
    (hstack : m.stack t = .running origin (.call style stated target body :: rest) values goal
      :: below)
    (htower : Tower (fun _ _ goal => goal.Of t) (.running origin rest values goal :: below)) :
    Does m t (m.call t (stated.getD origin) style target body
      (.running origin rest values goal :: below)) := by
  cases style with
  | waiting => exact does_call_waiting hstack
  | driving => exact does_call_driving hstack htower
  | keeping => exact does_call_keeping hstack
  | dropping => exact does_call_dropping hstack

end Calling

lemma letGo_of_none {k : Nat} (h : m.tickets[k]? = none) : m.letGo k = m := by
  rw [letGo, h]

lemma letGo_of_some {k : Nat} {ticket : Ticket} (h : m.tickets[k]? = some ticket) :
    m.letGo k = m.setTicket k { ticket with held := false } := by
  rw [letGo, h]

/-- Only a ticket changes when a handle is dropped. -/
lemma exists_letGo_eq (m : Machine ν) (k : Nat) : ∃ tickets, m.letGo k = { m with tickets } := by
  cases hticket : m.tickets[k]? with
  | none => exact ⟨m.tickets, letGo_of_none hticket⟩
  | some ticket => exact ⟨_, letGo_of_some hticket⟩

lemma prepares_forget (m : Machine ν) (t : Thread) (handle : Nat) :
    Prepares m t none (m.forget handle) := by
  have hempty : Prepares m t none (m.setHandle handle .empty) :=
    .same m.cells _ m.record (by simp) fun _ _ => pending_of_set (by rintro k ⟨⟩)
  rw [forget]
  rcases hkept : m.handles[handle]? with _ | _ | v | k | f
  · exact hempty
  · exact hempty
  · exact hempty
  · cases hticket : m.tickets[k]? with
    | none =>
        have hnone : (m.setHandle handle .empty).letGo k = m.setHandle handle .empty :=
          letGo_of_none hticket
        simp only
        rwa [hnone]
    | some ticket =>
        have hsome : (m.setHandle handle .empty).letGo k =
            (m.setHandle handle .empty).setTicket k { ticket with held := false } :=
          letGo_of_some hticket
        simp only
        rw [hsome]
        exact .forgets hkept hticket
  · exact hempty

/-- **An action** of a closure. -/
lemma does_perform (hstack : m.stack t = .running origin (a :: rest) values goal :: below)
    (htower : Tower (fun _ _ goal => goal.Of t) (.running origin rest values goal :: below)) :
    Does m t (m.perform t a origin goal (.running origin rest values goal) below) := by
  have hlast := outermost?_of_running hstack
  have hraises := raises?_of_running hstack
  have hends : m.provokes? a origin (.running origin rest values goal :: below) = none →
      (∀ text, a ≠ .fail text) → m.ends? t = none :=
    fun hquiet hfail => ends?_of_running hstack hquiet hfail
  have hsame : Prepares m t none m := prepares_refl m
  cases a with
  | tellThread | tellContext => exact does_give hstack hsame (hends rfl (by rintro _ ⟨⟩)) _
  | record v =>
      exact does_give hstack (.same m.cells m.handles _ (Nat.le_refl _) fun _ _ h => h)
        (hends rfl (by rintro _ ⟨⟩)) _
  | guard expected =>
      rw [perform]
      cases hcheck : origin.check expected with
      | ok _ =>
          exact does_give hstack hsame (hends (by simp [provokes?, hcheck]) (by rintro _ ⟨⟩)) _
      | error text =>
          exact does_unwind htower hlast hsame (hraises.trans (by simp [provokes?, hcheck]))
  | panic p => exact does_unwind htower hlast hsame hraises
  | fail text => exact does_finish hstack htower (.inr ⟨text, rest, rfl, rfl⟩)
  | enter cell body =>
      rw [perform]
      cases hcheck : origin.check cell with
      | error text =>
          exact does_unwind htower hlast hsame (hraises.trans (by simp [provokes?, hcheck]))
      | ok _ =>
          by_cases hentered : (m.cells.get cell).entered = true
          · simp only [hentered, if_true]
            exact does_unwind htower hlast hsame
              (hraises.trans (by simp [provokes?, hcheck, hentered]))
          · rw [Bool.not_eq_true] at hentered
            simp only [hentered]
            exact .goes (.same _ m.handles m.record (Nat.le_refl _) fun _ _ h => h)
              (hstack ▸ .enters trivial (by rintro _ ⟨⟩))
              (hends (by simp [provokes?, hcheck, hentered]) (by rintro _ ⟨⟩))
  | update level change =>
      have hquiet := hends rfl (by rintro _ ⟨⟩)
      rw [perform]
      split
      · exact does_give hstack (.same _ m.handles m.record (Nat.le_refl _) fun _ _ h => h) hquiet _
      · exact does_give hstack hsame hquiet _
  | call style stated target body => exact does_call hstack htower
  | wait handle =>
      have hempty : Prepares m t none (m.setHandle handle .empty) :=
        .same m.cells _ m.record (by simp) fun _ _ => pending_of_set (by rintro k ⟨⟩)
      rw [perform, wait]
      rcases hkept : m.handles[handle]? with _ | _ | v | k | f
      · exact does_give hstack hsame (hends (by simp [provokes?, hkept]) (by rintro _ ⟨⟩)) _
      · exact does_give hstack hsame (hends (by simp [provokes?, hkept]) (by rintro _ ⟨⟩)) _
      · exact does_give hstack hempty (hends (by simp [provokes?, hkept]) (by rintro _ ⟨⟩)) _
      · by_cases hdrives : drivesTask (.running origin rest values goal :: below) = true
        · simp only [hdrives, if_true]
          exact does_unwind htower hlast (prepares_forget m t handle)
            (hraises.trans (by simp [provokes?, hkept, hdrives]))
        · rw [Bool.not_eq_true] at hdrives
          simp only [hdrives]
          exact .goes (.takes hkept) (hstack ▸ .awaits .awaiting)
            (hends (by simp [provokes?, hkept, hdrives]) (by rintro _ ⟨⟩))
      · exact does_give hstack hempty (hends (by simp [provokes?, hkept]) (by rintro _ ⟨⟩)) _
  | forget handle =>
      exact does_give hstack (prepares_forget m t handle) (hends rfl (by rintro _ ⟨⟩)) _
  | inline stated body =>
      exact .goes hsame (hstack ▸ .enters trivial (by rintro _ ⟨⟩)) (hends rfl (by rintro _ ⟨⟩))
  | stop => exact .goes hsame (hstack ▸ .halts) (hends rfl (by rintro _ ⟨⟩))

end Actions

/-! ### A thread with something under way -/

lemma does_stopNext {todo : List Context} {below : List (Frame ν)}
    (hstack : m.stack t = .stopping todo :: below)
    (htower : Tower (fun _ _ goal => goal.Of t) below) : Does m t (m.stopNext t todo below) := by
  cases todo with
  | nil =>
      have hends : m.ends? t = none := by
        rw [ends?, raises?, hstack]
      obtain ⟨origin, rest, values, goal, below, rfl⟩ := htower.exists_cons
      exact .goes (prepares_refl m) (hstack ▸ .resumes .stopping .stopped) hends
  | cons c todo =>
      rw [stopNext]
      cases hjoinable : (m.boxes.get c).joinable with
      | false => exact .orders hstack (.inr ⟨rfl, .inl hjoinable⟩) m.log
      | true =>
          simp only [Bool.not_true, Bool.false_eq_true, if_false]
          split
          · next hself => exact .orders hstack (.inr ⟨rfl, .inr hself⟩) _
          · next hself => exact .orders hstack (.inl ⟨rfl, hjoinable, hself⟩) m.log

lemma prepares_letGo {k : Nat} {panic : Option Panic} {below : List (Frame ν)}
    (hstack : m.stack t = .discarding k panic :: below) : Prepares m t none (m.letGo k) := by
  cases hticket : m.tickets[k]? with
  | none =>
      rw [letGo_of_none hticket]
      exact prepares_refl m
  | some ticket =>
      rw [letGo_of_some hticket]
      exact .lets hstack hticket

/-- A handle is dropped, and the thread goes on or panics. -/
lemma does_discard {k : Nat} {panic : Option Panic} {below : List (Frame ν)}
    (hstack : m.stack t = .discarding k panic :: below)
    (htower : Tower (fun _ _ goal => goal.Of t) below) : Does m t (m.discard t k panic below) := by
  have hraises : m.raises? t = panic := by rw [raises?, hstack]
  have hlast : outermost? (m.stack t) = outermost? below := by
    rw [hstack, outermost?_cons _ htower.ne_nil]
  cases panic with
  | none =>
      have hends : m.ends? t = none := by rw [ends?, hraises, hstack]
      obtain ⟨origin, rest, values, goal, below, rfl⟩ := htower.exists_cons
      exact .goes (prepares_letGo hstack) (hstack ▸ .resumes (.discarding k) _) hends
  | some p => exact does_unwind htower hlast (prepares_letGo hstack) hraises

/-- **Whatever a thread does** that has something under way. -/
theorem does_step (hbusy : Busy (fun _ _ goal => goal.Of t) (m.stack t)) (hs : m.step t = some m') :
    Does m t m' := by
  unfold step at hs
  generalize hstack : m.stack t = frames at hbusy hs
  cases hbusy with
  | running htower =>
      obtain ⟨origin, left, values, goal, below, rfl⟩ := htower.exists_cons
      cases left with
      | nil =>
          cases hs
          exact does_finish hstack htower (.inl ⟨rfl, rfl⟩)
      | cons a rest =>
          cases hs
          exact does_perform hstack (htower.advance id)
  | @standing frame below hframe htower =>
      cases hframe with
      | awaiting k =>
          have hlast : outermost? (m.stack t) = outermost? below := by
            rw [hstack, outermost?_cons _ htower.ne_nil]
          have hresumes : ∀ v, m.raises? t = none → Does m t (m.give t v below) := by
            intro v hraises
            have hends : m.ends? t = none := by
              rw [ends?, hraises, hstack]
            obtain ⟨origin, rest, values, goal, below, rfl⟩ := htower.exists_cons
            exact .goes (prepares_refl m) (hstack ▸ .resumes (.awaiting k) v) hends
          cases hticket : m.tickets[k]? with
          | none => simp [hticket] at hs
          | some ticket =>
              obtain ⟨target, held, delivery⟩ := ticket
              simp only [hticket] at hs
              cases delivery with
              | pending => cases hs
              | value v | lost =>
                  cases hs
                  exact hresumes _ (by rw [raises?, hstack]; simp [hticket])
              | panicked p =>
                  cases hs
                  exact does_unwind htower hlast (prepares_refl m)
                    (by rw [raises?, hstack]; simp [hticket])
      | discarding k panic =>
          cases hs
          exact does_discard hstack htower
      | stopping todo =>
          cases hs
          exact does_stopNext hstack htower
      | joining c todo =>
          simp only at hs
          split at hs
          · next hexited =>
              cases hs
              exact .joined hstack hexited _
          · cases hs
          · cases hs

/-! ### A worker with nothing under way -/

end Machine

/-- What the caller of a call is told, if somebody still holds the handle. -/
def Ticket.told (d : Delivery) (t : Ticket) : Ticket :=
  if t.held then { t with delivery := d } else t

/-- **What a worker can do** that has nothing under way. -/
inductive Turns (m : Machine ν) (c : Context) : Machine ν → Prop where
  /-- It takes a call. -/
  | job {call : Call ν} {rest : List (Command (Call ν))}
      (hphase : (m.boxes.get c).phase = .running)
      (hqueue : (m.boxes.get c).queue = .run call :: rest) :
      Turns m c ({ m with boxes := m.boxes.set c { m.boxes.get c with queue := rest } }.setStack
        (.worker c) [.running (.on c) call.body [] (.ticket call.ticket)])
  /-- It takes the order to stop. -/
  | stop {rest : List (Command (Call ν))} (hphase : (m.boxes.get c).phase = .running)
      (hqueue : (m.boxes.get c).queue = .stop :: rest) (log : List LogLine) :
      Turns m c { m with
        boxes := m.boxes.set c { m.boxes.get c with queue := rest, phase := .stopped }, log }
  /-- It ends; whoever holds a handle of a call that waits is told that it is lost. -/
  | exit (hphase : (m.boxes.get c).phase = .stopped) :
      Turns m c { m with
        boxes := m.boxes.set c { m.boxes.get c with queue := [], phase := .exited }
        tickets := (Mailbox.jobs (m.boxes.get c).queue).foldl
          (fun tickets call => tickets.modify call.ticket (Ticket.told .lost)) m.tickets }

namespace Machine

variable {m m' m₀ : Machine ν} {t u : Thread} {c : Context}

/-- Whoever holds the handle of a call is told; otherwise a panic is logged. -/
lemma exists_deliver_eq (m : Machine ν) (k : Nat) (d : Delivery) :
    ∃ log, m.deliver k d = { m with tickets := m.tickets.modify k (Ticket.told d), log } ∧
      (d = .lost → log = m.log) := by
  unfold deliver
  cases hticket : m.tickets[k]? with
  | none =>
      refine ⟨m.log, ?_, fun _ => rfl⟩
      rw [List.modify_eq_self (List.getElem?_eq_none_iff.mp hticket)]
  | some ticket =>
      have hmodify : ∀ f : Ticket → Ticket, m.tickets.modify k f = m.tickets.set k (f ticket) := by
        intro f
        rw [List.modify_eq_set_getElem?, hticket]
        rfl
      rw [hmodify, Ticket.told]
      cases hheld : ticket.held with
      | true => exact ⟨m.log, by simp [hheld, setTicket], fun _ => rfl⟩
      | false =>
          have hsame : m.tickets.set k ticket = m.tickets := by
            obtain ⟨hk, rfl⟩ := List.getElem?_eq_some_iff.mp hticket
            exact List.set_getElem_self hk
          simp only [hheld, Bool.false_eq_true, if_false, hsame]
          cases d with
          | pending | value _ | lost => exact ⟨m.log, rfl, fun _ => rfl⟩
          | panicked p => exact ⟨_, rfl, by rintro ⟨⟩⟩

/-- Those whose calls are dropped are told so. -/
lemma foldl_deliver_lost (calls : List (Call ν)) (m : Machine ν) :
    calls.foldl (fun m call => m.deliver call.ticket .lost) m
      = { m with
          tickets := calls.foldl
            (fun tickets call => tickets.modify call.ticket (Ticket.told .lost)) m.tickets } := by
  induction calls generalizing m with
  | nil => rfl
  | cons call rest ih =>
      obtain ⟨log, heq, hlog⟩ := m.exists_deliver_eq call.ticket .lost
      rw [List.foldl_cons, heq, hlog rfl, ih]
      rfl

/-- **Whatever a worker does** that has nothing under way. -/
theorem turns_step (hidle : m.stack (.worker c) = []) (hs : m.step (.worker c) = some m') :
    Turns m c m' := by
  unfold step at hs
  simp only [hidle, takeTurn, Mailbox.turn] at hs
  cases hphase : (m.boxes.get c).phase with
  | exited => simp [hphase] at hs
  | stopped =>
      simp only [hphase, Option.some.injEq, foldl_deliver_lost] at hs
      exact hs ▸ .exit hphase
  | running =>
      rcases hqueue : (m.boxes.get c).queue with _ | ⟨call | _, rest⟩ <;>
        simp only [hphase, hqueue, Option.some.injEq, reduceCtorEq] at hs
      · have hjob := Turns.job hphase hqueue
        simp only [hphase] at hjob
        exact hs ▸ hjob
      · exact hs ▸ .stop hphase hqueue _

end Machine

end DeviceLink.Dispatch
