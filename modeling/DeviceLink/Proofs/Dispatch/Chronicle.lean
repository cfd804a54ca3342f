import DeviceLink.Proofs.Dispatch.Steps

/-!
# What was sent and what has run

An observer of a dispatcher writes down which commands came into each mailbox, which calls its
worker has begun, and what these came to.  In every interleaving a worker begins calls in the order
in which they were sent, one at a time, as long as no order to stop is next; and the closure that it
has under way is the one that it has begun last, told that it runs on that worker.

* `Chronicle` — the record of a run.
* `Mailbox.ahead` — the calls that were sent ahead of the first order to stop.
* `InOrder` — what a mailbox holds, in view of what was sent and what was begun.
* `Grows` — what other threads make of a mailbox.
* **`Machine.Chronicled`**, **`Chronicled.happens`** — everything that happens keeps to the order.
-/

namespace DeviceLink.Dispatch

variable {ν J : Type}

/-! ## The record of a run -/

/-- The record of a run. -/
structure Chronicle (ν : Type) where
  /-- The commands that came into each worker's mailbox, oldest first, and who has sent them. -/
  sent : Context → List (Thread × Command (Call ν)) := fun _ => []
  /-- The calls that each worker has begun, oldest first. -/
  begun : Context → List (Call ν) := fun _ => []
  /-- What these came to, as far as they have ended. -/
  ended : Context → List Report := fun _ => []

namespace Machine

/-- The commands that have come into a worker's mailbox. -/
def sends (before after : Machine ν) (c : Context) : List (Command (Call ν)) :=
  (after.boxes.get c).queue.drop (before.boxes.get c).queue.length

/-- The call that a worker takes, if the thread that makes a step is that worker. -/
def takes? (m : Machine ν) (t : Thread) (c : Context) : Option (Call ν) :=
  if t = .worker c ∧ (m.stack t).isEmpty then
    match (m.boxes.get c).turn with
    | .job call _ => some call
    | .stop _ | .exit _ _ | .none => none
  else none

end Machine

namespace Chronicle

/-- What the observer writes down. -/
def note : Event ν → Machine ν → Machine ν → Chronicle ν → Chronicle ν
  | .begin _ _, _, _, g => g
  | .move t, before, after, g =>
    { sent := fun c => g.sent c ++ (before.sends after c).map fun command => (t, command)
      begun := fun c => g.begun c ++ (before.takes? t c).toList
      ended := fun c => g.ended c ++ if t = .worker c then (before.ends? t).toList else [] }

def commands (g : Chronicle ν) (c : Context) : List (Command (Call ν)) :=
  (g.sent c).map Prod.snd

/-- What the outermost closure of a thread is like: on a worker it is the one that was begun last,
told that it runs there. -/
def Outermost (g : Chronicle ν) : Thread → Origin → List (Action ν) → Goal → Prop
  | .worker c, origin, rest, goal => ∃ call, (g.begun c).getLast? = some call ∧ origin = .on c ∧
      rest <:+ call.body ∧ goal = .ticket call.ticket
  | .outside _, _, _, goal => goal = .result

end Chronicle

/-! ## Mailboxes -/

namespace Mailbox

/-- The calls that were sent ahead of the first order to stop. -/
def ahead : List (Command J) → List J
  | .run job :: rest => job :: ahead rest
  | .stop :: _ | [] => []

lemma ahead_append_stop (js : List J) (rest : List (Command J)) :
    ahead (js.map .run ++ .stop :: rest) = js := by
  induction js with
  | nil => rfl
  | cons j js ih => exact congrArg (j :: ·) ih

lemma prefix_ahead (js : List J) (rest : List (Command J)) :
    js <+: ahead (js.map .run ++ rest) := by
  induction js with
  | nil => exact List.nil_prefix
  | cons j js ih => exact (List.prefix_cons_inj j).mpr ih

end Mailbox

/-- **What a mailbox holds**, in view of what was sent to it and what its worker has begun. -/
inductive InOrder (box : Mailbox J) (commands : List (Command J)) (begun : List J) : Prop where
  | running (hphase : box.phase = .running) (h : commands = begun.map .run ++ box.queue)
  | stopped (hphase : box.phase = .stopped) (h : commands = begun.map .run ++ .stop :: box.queue)
  | exited (hphase : box.phase = .exited) (hqueue : box.queue = []) (rest : List (Command J))
      (h : commands = begun.map .run ++ .stop :: rest)

/-- Commands have come into a mailbox, unless its worker has ended. -/
structure Grows (box after : Mailbox J) (more : List (Command J)) : Prop where
  queue : after.queue = box.queue ++ more
  phase : after.phase = box.phase
  closed : box.phase = .exited → more = []

variable {box after : Mailbox J} {commands more : List (Command J)} {begun : List J}

lemma grows_refl (box : Mailbox J) : Grows box box [] :=
  ⟨(List.append_nil _).symm, rfl, fun _ => rfl⟩

lemma grows_order (box : Mailbox J) :
    Grows box box.sendStop.claim (if box.phase = .exited then [] else [.stop]) := by
  obtain ⟨queue, phase, joinable⟩ := box
  cases phase with
  | running | stopped => exact ⟨rfl, rfl, by rintro ⟨⟩⟩
  | exited => exact ⟨(List.append_nil _).symm, rfl, fun _ => rfl⟩

lemma InOrder.grows (h : InOrder box commands begun) (hgrows : Grows box after more) :
    InOrder after (commands ++ more) begun := by
  cases h with
  | running hphase h =>
      exact .running (hgrows.phase.trans hphase) (by rw [h, hgrows.queue, List.append_assoc])
  | stopped hphase h =>
      refine .stopped (hgrows.phase.trans hphase) ?_
      rw [h, hgrows.queue, List.append_assoc, List.cons_append]
  | exited hphase hqueue rest h =>
      have hnone := hgrows.closed hphase
      refine .exited (hgrows.phase.trans hphase) ?_ rest ?_
      · rw [hgrows.queue, hqueue, hnone]
        rfl
      · rw [hnone, List.append_nil, h]

/-- What was begun was sent, ahead of the first order to stop. -/
lemma InOrder.prefix_ahead (h : InOrder box commands begun) :
    begun <+: Mailbox.ahead commands := by
  cases h with
  | running _ h => exact h ▸ Mailbox.prefix_ahead begun _
  | stopped _ h | exited _ _ _ h => exact h ▸ Mailbox.prefix_ahead begun _

/-- A worker that takes nothing more has begun all that was. -/
lemma InOrder.eq_ahead (h : InOrder box commands begun) (hphase : box.phase ≠ .running) :
    .stop ∈ commands ∧ begun = Mailbox.ahead commands := by
  cases h with
  | running hrunning _ => exact (hphase hrunning).elim
  | stopped _ h | exited _ _ _ h =>
      rw [h, Mailbox.ahead_append_stop]
      exact ⟨by simp, rfl⟩

/-! ## Stacks -/

section Stacks

variable {P : Origin → List (Action ν) → Goal → Prop} {old frames : List (Frame ν)}
  {handles : List Handle} {waits : Option Nat}

lemma Busy.mono {Q : Origin → List (Action ν) → Goal → Prop}
    (hPQ : ∀ origin rest goal, P origin rest goal → Q origin rest goal) (h : Busy P frames) :
    Busy Q frames := by
  cases h with
  | running h => exact .running (h.mono hPQ)
  | standing hframe h => exact .standing hframe (h.mono hPQ)

lemma Busy.ne_nil (h : Busy P frames) : frames ≠ [] := by
  cases h with
  | running h => exact h.ne_nil
  | standing _ _ => exact List.cons_ne_nil _ _

lemma Busy.tower {origin : Origin} {rest : List (Action ν)} {values : List Value} {goal : Goal}
    {below : List (Frame ν)} (h : Busy P (.running origin rest values goal :: below)) :
    Tower P (.running origin rest values goal :: below) := by
  cases h with
  | running h => exact h
  | standing hframe _ => cases hframe

lemma Busy.below {frame : Frame ν} {below : List (Frame ν)} (hframe : frame.Standing)
    (h : Busy P (frame :: below)) : Tower P below := by
  cases h with
  | running h =>
      obtain ⟨_, _, _, _, _, he⟩ := h.exists_cons
      cases he
      cases hframe
  | standing _ h => exact h

/-- A thread that goes on has something under way, whose outermost closure has not more left than
before. -/
lemma Busy.goes (h : Busy P old)
    (hclosed : ∀ origin rest more goal, more <:+ rest → P origin rest goal → P origin more goal)
    (hgoes : Goes handles old waits frames) : Busy P frames := by
  have hacts : ∀ {origin : Origin} {a : Action ν} {rest : List (Action ν)}
      {values values' : List Value} {goal : Goal} {below : List (Frame ν)},
      Busy P (.running origin (a :: rest) values goal :: below) →
      Tower P (.running origin rest values' goal :: below) :=
    fun h => h.tower.advance (hclosed _ _ _ _ (List.suffix_cons _ _))
  cases hgoes with
  | acts v => exact .running (hacts h)
  | enters hinside hroom => exact .running (.inner hinside (hacts h))
  | halts => exact .standing (.stopping _) (hacts h)
  | awaits hframe => exact .standing hframe.standing (hacts h)
  | leaves hgoal v =>
      cases h.tower with
      | inner _ h => exact .running (h.advance id)
  | resumes hframe v => exact .running ((h.below hframe.standing).advance id)

end Stacks

/-! ## What a step leaves as it is -/

namespace Machine

variable {m m' m₀ : Machine ν} {t u : Thread} {c d : Context} {g : Chronicle ν}
  {waits : Option Nat}

@[simp] lemma boxes_setStack (m : Machine ν) (t : Thread) (frames : List (Frame ν)) :
    (m.setStack t frames).boxes = m.boxes := by
  cases t <;> rfl

lemma exists_tell_eq (m : Machine ν) (t : Thread) (goal : Goal) (r : Report) :
    ∃ tickets results log, m.tell t goal r = { m with tickets, results, log } := by
  cases t with
  | outside n => cases goal <;> exact ⟨_, _, _, rfl⟩
  | worker c =>
      cases goal with
      | ticket k =>
          obtain ⟨log, heq, -⟩ := m.exists_deliver_eq k r.delivery
          exact ⟨_, _, _, heq⟩
      | value | task | keep _ | leave _ | result => exact ⟨_, _, _, rfl⟩

lemma grows_sends {more : List (Command (Call ν))}
    (h : Grows (m.boxes.get c) (m'.boxes.get c) more) :
    Grows (m.boxes.get c) (m'.boxes.get c) (m.sends m' c) := by
  rw [sends, h.queue, List.drop_left]
  exact h

lemma sends_eq_nil (h : (m'.boxes.get c).queue.length ≤ (m.boxes.get c).queue.length) :
    m.sends m' c = [] := List.drop_eq_nil_of_le h

lemma sends_of_boxes_eq (h : m'.boxes = m.boxes) (c : Context) : m.sends m' c = [] :=
  sends_eq_nil (h ▸ Nat.le_refl _)

/-- What comes into one mailbox, and nothing into the other. -/
lemma sends_of_boxes_set {target : Context} {box : Mailbox (Call ν)}
    {more : List (Command (Call ν))} (hboxes : m'.boxes = m.boxes.set target box)
    (hqueue : box.queue = (m.boxes.get target).queue ++ more) (c : Context) :
    m.sends m' c = if c = target then more else [] := by
  rw [sends, hboxes, PerContext.get_set]
  split
  · next he => rw [he, hqueue, List.drop_left]
  · exact List.drop_length

/-- Commands come into one mailbox, and none into the other. -/
lemma grows_set (c target : Context) {box : Mailbox (Call ν)} {more : List (Command (Call ν))}
    (h : Grows (m.boxes.get target) box more) :
    Grows (m.boxes.get c) ((m.boxes.set target box).get c) (if c = target then more else []) := by
  rw [PerContext.get_set]
  split
  · next he => exact he ▸ h
  · exact grows_refl _

end Machine

section Effects

variable {m m' m₀ : Machine ν} {t u : Thread} {c : Context} {waits : Option Nat}

lemma Prepares.stack_eq (h : Prepares m t waits m₀) (u : Thread) : m₀.stack u = m.stack u := by
  cases h <;> cases u <;> rfl

lemma Prepares.exists_grows (h : Prepares m t waits m₀) (c : Context) :
    ∃ more, Grows (m.boxes.get c) (m₀.boxes.get c) more := by
  cases h with
  | same _ _ _ _ _ | lets _ _ | forgets _ _ | takes _ => exact ⟨_, grows_refl _⟩
  | queues body hopen | keeps body hopen =>
      exact ⟨_, Machine.grows_set c _ ⟨rfl, rfl, fun he => (hopen he).elim⟩⟩

/-- A thread that has something under way only sends to mailboxes. -/
lemma Does.grows (h : Does m t m') (c : Context) :
    Grows (m.boxes.get c) (m'.boxes.get c) (m.sends m' c) := by
  suffices hsome : ∃ more, Grows (m.boxes.get c) (m'.boxes.get c) more by
    obtain ⟨more, hmore⟩ := hsome
    exact Machine.grows_sends hmore
  cases h with
  | goes hpre hgoes hends =>
      rw [Machine.boxes_setStack]
      exact hpre.exists_grows c
  | orders hstack hnext log =>
      rw [Machine.boxes_setStack]
      exact ⟨_, Machine.grows_set c _ (grows_order _)⟩
  | joined hstack hexited log =>
      rw [Machine.boxes_setStack]
      exact ⟨_, grows_refl _⟩
  | @ends m₀ goal report hpre cells hlast hgoal hends =>
      obtain ⟨tickets, results, log, heq⟩ := Machine.exists_tell_eq { m₀ with cells } t goal report
      rw [Machine.boxes_setStack, heq]
      exact hpre.exists_grows c

/-- Nobody else's stack changes. -/
lemma Does.stack_of_ne (h : Does m t m') (hne : u ≠ t) : m'.stack u = m.stack u := by
  cases h with
  | goes hpre hgoes hends => rw [Machine.stack_setStack_of_ne hne, hpre.stack_eq]
  | orders hstack hnext log | joined hstack hexited log =>
      rw [Machine.stack_setStack_of_ne hne]
      cases u <;> rfl
  | @ends m₀ goal report hpre cells hlast hgoal hends =>
      obtain ⟨tickets, results, log, heq⟩ := Machine.exists_tell_eq { m₀ with cells } t goal report
      rw [Machine.stack_setStack_of_ne hne, heq, ← hpre.stack_eq]
      cases u <;> rfl

/-- **A thread goes on, or its outermost closure ends**, and then it has nothing under way. -/
lemma Does.stack {P : Origin → List (Action ν) → Goal → Prop} (h : Does m t m')
    (hbusy : Busy P (m.stack t))
    (hclosed : ∀ origin rest more goal, more <:+ rest → P origin rest goal → P origin more goal) :
    m.ends? t = none ∧ Busy P (m'.stack t) ∨
      ∃ report, m.ends? t = some report ∧ m'.stack t = [] := by
  have hne : ∀ {k : Machine ν}, (∀ u, k.stack u = m.stack u) → k.stack t ≠ [] := by
    intro k hk
    rw [hk]
    exact hbusy.ne_nil
  cases h with
  | goes hpre hgoes hends =>
      refine .inl ⟨hends, ?_⟩
      rw [Machine.stack_setStack_of_ne_nil (hne hpre.stack_eq)]
      exact hbusy.goes hclosed hgoes
  | @orders c todo below next hstack hnext log =>
      refine .inl ⟨by rw [Machine.ends?, Machine.raises?, hstack], ?_⟩
      rw [Machine.stack_setStack_of_ne_nil (hne fun u => by cases u <;> rfl)]
      rw [hstack] at hbusy
      have hbelow := hbusy.below (.stopping _)
      rcases hnext with ⟨rfl, -⟩ | ⟨rfl, -⟩
      · exact .standing (.joining c todo) hbelow
      · exact .standing (.stopping todo) hbelow
  | @joined c todo below hstack hexited log =>
      refine .inl ⟨by rw [Machine.ends?, Machine.raises?, hstack], ?_⟩
      rw [Machine.stack_setStack_of_ne_nil (hne fun u => by cases u <;> rfl)]
      rw [hstack] at hbusy
      exact .standing (.stopping todo) (hbusy.below (.joining c todo))
  | @ends m₀ goal report hpre cells hlast hgoal hends =>
      obtain ⟨tickets, results, log, heq⟩ := Machine.exists_tell_eq { m₀ with cells } t goal report
      refine .inr ⟨report, hends, Machine.stack_setStack_of_ne_nil (hne fun u => ?_) _⟩
      rw [heq, ← hpre.stack_eq]
      cases u <;> rfl

end Effects

/-! ## The order is kept -/

/-- **Everything that can happen.** -/
inductive Follows (m : Machine ν) : Event ν → Machine ν → Prop where
  | begin {n : Nat} (hidle : m.stack (.outside n) = []) (a : Action ν) :
      Follows m (.begin n a) (m.begin n a)
  | does {t : Thread} {m' : Machine ν} (hne : m.stack t ≠ []) (h : Does m t m') :
      Follows m (.move t) m'
  | turns {c : Context} {m' : Machine ν} (hidle : m.stack (.worker c) = []) (h : Turns m c m') :
      Follows m (.move (.worker c)) m'

namespace Machine

variable {m m' : Machine ν} {t : Thread} {c : Context} {g : Chronicle ν}

/-- **Every worker keeps to the order**: it begins calls in the order in which they were sent, and
one only when the last has ended. -/
structure Chronicled (m : Machine ν) (g : Chronicle ν) : Prop where
  order : ∀ c, InOrder (m.boxes.get c) (g.commands c) (g.begun c)
  single : ∀ c, (g.begun c).length
    = (g.ended c).length + if (m.stack (.worker c)).isEmpty then 0 else 1
  running : ∀ c, m.stack (.worker c) ≠ [] → (m.boxes.get c).phase = .running
  shape : ∀ t, m.stack t ≠ [] → Busy (g.Outermost t) (m.stack t)

lemma outermost_of {t : Thread} {origin : Origin} {rest : List (Action ν)} {goal : Goal}
    (h : g.Outermost t origin rest goal) : goal.Of t := by
  cases t with
  | worker c =>
      obtain ⟨call, -, -, -, rfl⟩ := h
      trivial
  | outside n =>
      cases h
      trivial

lemma outermost_suffix (t : Thread) (origin : Origin) (rest more : List (Action ν)) (goal : Goal)
    (hmore : more <:+ rest) (h : g.Outermost t origin rest goal) :
    g.Outermost t origin more goal := by
  cases t with
  | worker c =>
      obtain ⟨call, hlast, horigin, hrest, hgoal⟩ := h
      exact ⟨call, hlast, horigin, hmore.trans hrest, hgoal⟩
  | outside n => exact h

lemma takes?_of_ne_nil (h : m.stack t ≠ []) (c : Context) : m.takes? t c = none := by
  rw [takes?, if_neg]
  rintro ⟨-, hempty⟩
  exact h (List.isEmpty_iff.mp hempty)

lemma commands_note (g : Chronicle ν) (t : Thread) (m m' : Machine ν) (c : Context) :
    (g.note (.move t) m m').commands c = g.commands c ++ m.sends m' c := by
  simp [Chronicle.commands, Chronicle.note, Function.comp_def]

lemma begun_note_of_ne_nil (g : Chronicle ν) (h : m.stack t ≠ []) (m' : Machine ν) :
    (g.note (.move t) m m').begun = g.begun := by
  funext c
  simp [Chronicle.note, takes?_of_ne_nil h]

lemma outermost_congr {g' : Chronicle ν} (h : g'.begun = g.begun) : g'.Outermost = g.Outermost := by
  funext t origin rest goal
  cases t with
  | worker c => simp only [Chronicle.Outermost, h]
  | outside n => rfl

/-- A thread that has something under way keeps to the order. -/
lemma Chronicled.does (h : m.Chronicled g) (hne : m.stack t ≠ []) (hs : Does m t m') :
    m'.Chronicled (g.note (.move t) m m') := by
  have hbegun := begun_note_of_ne_nil g hne m'
  have hstack := hs.stack (h.shape t hne) (outermost_suffix t)
  refine ⟨fun c => ?_, fun c => ?_, fun c hc => ?_, fun u hu => ?_⟩
  · rw [commands_note, hbegun]
    exact (h.order c).grows (hs.grows c)
  · rw [hbegun, h.single c]
    simp only [Chronicle.note]
    by_cases hself : t = .worker c
    · subst hself
      rw [if_pos rfl, List.isEmpty_eq_false_iff.mpr hne]
      rcases hstack with ⟨hends, hbusy⟩ | ⟨report, hends, hidle⟩
      · simp [hends, hbusy.ne_nil]
      · simp [hends, hidle]
    · rw [if_neg hself, List.append_nil, hs.stack_of_ne (Ne.symm hself)]
  · rw [(hs.grows c).phase]
    refine h.running c fun hnil => ?_
    by_cases hself : t = .worker c
    · exact hne (hself ▸ hnil)
    · exact hc ((hs.stack_of_ne (Ne.symm hself)).trans hnil)
  · rw [outermost_congr hbegun]
    by_cases hself : u = t
    · subst hself
      rcases hstack with ⟨-, hbusy⟩ | ⟨report, -, hidle⟩
      · exact hbusy
      · exact (hu hidle).elim
    · rw [hs.stack_of_ne hself] at hu ⊢
      exact h.shape u hu

lemma ends?_of_idle (hidle : m.stack t = []) : m.ends? t = none := by
  rw [ends?, raises?, hidle]

/-- A worker that turns to its mailbox leaves the other alone, and only takes what waits. -/
lemma exists_box_of_turns (hs : Turns m c m') : ∃ box, m'.boxes = m.boxes.set c box ∧
    (m.boxes.get c).phase ≠ .exited ∧ box.joinable = (m.boxes.get c).joinable ∧
    box.queue.length ≤ (m.boxes.get c).queue.length := by
  cases hs with
  | job hphase hqueue =>
      exact ⟨_, boxes_setStack _ _ _, by simp [hphase], rfl, by simp [hqueue]⟩
  | stop hphase hqueue log => exact ⟨_, rfl, by simp [hphase], rfl, by simp [hqueue]⟩
  | exit hphase => exact ⟨_, rfl, by simp [hphase], rfl, Nat.zero_le _⟩

/-- So it sends nothing. -/
lemma sends_of_turns (hs : Turns m c m') (d : Context) : m.sends m' d = [] := by
  obtain ⟨box, hboxes, -, -, hqueue⟩ := exists_box_of_turns hs
  refine sends_eq_nil ?_
  rw [hboxes, PerContext.get_set]
  split
  · next he => exact he ▸ hqueue
  · exact Nat.le_refl _

lemma takes?_of_turns (hidle : m.stack (.worker c) = []) (d : Context) :
    m.takes? (.worker c) d = if d = c then
      match (m.boxes.get c).turn with
      | .job call _ => some call
      | .stop _ | .exit _ _ | .none => none
      else none := by
  rw [takes?, hidle]
  by_cases hself : d = c
  · subst hself
    simp
  · rw [if_neg hself, if_neg]
    rintro ⟨he, -⟩
    exact hself (Thread.worker.inj he).symm

lemma stack_of_turns (hs : Turns m c m') {u : Thread} (hne : u ≠ .worker c) :
    m'.stack u = m.stack u := by
  cases hs with
  | job hphase hqueue =>
      rw [stack_setStack_of_ne hne]
      cases u <;> rfl
  | stop _ _ _ | exit _ => cases u <;> rfl

/-- Afterwards it runs a call at most. -/
lemma stack_worker_of_turns (hidle : m.stack (.worker c) = []) (hs : Turns m c m') :
    (∃ call : Call ν, m'.stack (.worker c)
      = [.running (.on c) call.body [] (.ticket call.ticket)]) ∨ m'.stack (.worker c) = [] := by
  cases hs with
  | @job call rest hphase hqueue => exact .inl ⟨call, stack_setStack_worker _ _ _⟩
  | stop _ _ _ | exit _ => exact .inr hidle

/-- Only what concerns the worker that turns to its mailbox is to be looked at. -/
lemma Chronicled.turned (h : m.Chronicled g) (hidle : m.stack (.worker c) = []) (hs : Turns m c m')
    (horder : InOrder (m'.boxes.get c) (g.commands c)
      (g.begun c ++ (m.takes? (.worker c) c).toList))
    (hsingle : (m.takes? (.worker c) c).toList.length
      = if (m'.stack (.worker c)).isEmpty then 0 else 1)
    (hrunning : m'.stack (.worker c) ≠ [] → (m'.boxes.get c).phase = .running)
    (hshape : m'.stack (.worker c) ≠ [] → Busy ((g.note (.move (.worker c)) m m').Outermost
      (.worker c)) (m'.stack (.worker c))) :
    m'.Chronicled (g.note (.move (.worker c)) m m') := by
  have hcommands : ∀ d, (g.note (.move (.worker c)) m m').commands d = g.commands d := by
    intro d
    rw [commands_note, sends_of_turns hs, List.append_nil]
  have hended : (g.note (.move (.worker c)) m m').ended = g.ended := by
    funext d
    simp [Chronicle.note, ends?_of_idle hidle]
  have hother : ∀ d ≠ c, m'.boxes.get d = m.boxes.get d ∧
      m'.stack (.worker d) = m.stack (.worker d) ∧
      (g.note (.move (.worker c)) m m').begun d = g.begun d := by
    intro d hd
    refine ⟨?_, stack_of_turns hs fun he => hd (Thread.worker.inj he), ?_⟩
    · obtain ⟨box, hboxes, -⟩ := exists_box_of_turns hs
      rw [hboxes, PerContext.get_set, if_neg hd]
    · simp [Chronicle.note, takes?_of_turns hidle, hd]
  refine ⟨fun d => ?_, fun d => ?_, fun d => ?_, fun u => ?_⟩
  · rw [hcommands]
    by_cases hd : d = c
    · exact hd ▸ horder
    · rw [(hother d hd).1, (hother d hd).2.2]
      exact h.order d
  · rw [hended]
    by_cases hd : d = c
    · subst hd
      rw [← hsingle]
      have hlength := h.single d
      rw [hidle] at hlength
      simp only [Chronicle.note, List.length_append, hlength]
      rfl
    · rw [(hother d hd).2.1, (hother d hd).2.2]
      exact h.single d
  · by_cases hd : d = c
    · exact hd ▸ hrunning
    · rw [(hother d hd).1, (hother d hd).2.1]
      exact h.running d
  · by_cases hu : u = .worker c
    · exact hu ▸ hshape
    · rw [stack_of_turns hs hu]
      intro hne
      have hbusy := h.shape u hne
      cases u with
      | outside n => exact hbusy
      | worker d =>
          refine hbusy.mono fun origin rest goal hout => ?_
          obtain ⟨call, hlast, hrest⟩ := hout
          exact ⟨call, (hother d fun he => hu (he ▸ rfl)).2.2 ▸ hlast, hrest⟩

/-- So does a worker that turns to its mailbox. -/
lemma Chronicled.turns (h : m.Chronicled g) (hidle : m.stack (.worker c) = [])
    (hs : Turns m c m') : m'.Chronicled (g.note (.move (.worker c)) m m') := by
  have htakes := takes?_of_turns hidle c
  rw [if_pos rfl, Mailbox.turn] at htakes
  have horder := h.order c
  have hself : ∀ box, (m.boxes.set c box).get c = box :=
    fun box => (PerContext.get_set _ _ _ _).trans (if_pos rfl)
  cases hs with
  | @job call rest hphase hqueue =>
      have hbox := hself { m.boxes.get c with queue := rest }
      simp only [hphase, hqueue] at htakes
      refine h.turned hidle (.job hphase hqueue) ?_ ?_ ?_ ?_
      · rw [boxes_setStack, hbox, htakes]
        refine .running hphase ?_
        cases horder with
        | running _ h => simp [h, hqueue]
        | stopped hstopped _ => cases hphase.symm.trans hstopped
        | exited hexited _ _ _ => cases hphase.symm.trans hexited
      · rw [stack_setStack_worker, htakes]
        rfl
      · intro _
        rw [boxes_setStack, hbox]
        exact hphase
      · intro _
        rw [stack_setStack_worker]
        refine .running (.base ⟨call, ?_, rfl, List.suffix_refl _, rfl⟩)
        simp [Chronicle.note, htakes]
  | stop hphase hqueue log =>
      simp only [hphase, hqueue] at htakes
      refine h.turned hidle (.stop hphase hqueue log) ?_ ?_ (fun hne => (hne hidle).elim)
        (fun hne => (hne hidle).elim)
      · rw [hself, htakes]
        refine .stopped rfl ?_
        cases horder with
        | running _ h => simp [h, hqueue]
        | stopped hstopped _ => cases hphase.symm.trans hstopped
        | exited hexited _ _ _ => cases hphase.symm.trans hexited
      · rw [htakes]
        exact (if_pos (List.isEmpty_iff.mpr hidle)).symm
  | exit hphase =>
      simp only [hphase] at htakes
      refine h.turned hidle (.exit hphase) ?_ ?_ (fun hne => (hne hidle).elim)
        (fun hne => (hne hidle).elim)
      · rw [hself, htakes]
        cases horder with
        | running hrunning _ => cases hphase.symm.trans hrunning
        | stopped _ h => exact .exited rfl rfl _ (by rw [h, Option.toList_none, List.append_nil])
        | exited hexited _ _ _ => cases hphase.symm.trans hexited
      · rw [htakes]
        exact (if_pos (List.isEmpty_iff.mpr hidle)).symm

/-- So does the start of something on a thread outside. -/
lemma Chronicled.begin (h : m.Chronicled g) {n : Nat} (hidle : m.stack (.outside n) = [])
    (a : Action ν) : (m.begin n a).Chronicled g := by
  refine ⟨h.order, h.single, h.running, fun t ht => ?_⟩
  by_cases hself : t = .outside n
  · subst hself
    rcases stack_begin hidle a with hstack | hstack
    · rw [hstack]
      exact .running (.base rfl)
    · exact (ht hstack).elim
  · have hstack : (m.begin n a).stack t = m.stack t := stack_setStack_of_ne hself _
    rw [hstack] at ht ⊢
    exact h.shape t ht

/-- **Whatever happens** is the start of something on a thread outside, or a step of a thread that
has something under way, or a worker turns to its mailbox. -/
lemma Chronicled.follows (h : m.Chronicled g) {e : Event ν} (hs : m.happens e = some m') :
    Follows m e m' := by
  cases e with
  | begin n a =>
      rw [Machine.happens] at hs
      split at hs
      · next hidle =>
          cases hs
          exact .begin (List.isEmpty_iff.mp hidle) a
      · cases hs
  | move t =>
      by_cases hne : m.stack t = []
      · cases t with
        | worker c => exact .turns hne (turns_step hne hs)
        | outside n =>
            rw [Machine.happens] at hs
            unfold step at hs
            rw [hne] at hs
            cases hs
      · exact .does hne (does_step ((h.shape t hne).mono fun _ _ _ => outermost_of) hs)

/-- **Everything that happens** keeps to the order. -/
theorem Chronicled.happens (h : m.Chronicled g) {e : Event ν} (hs : m.happens e = some m') :
    m'.Chronicled (g.note e m m') := by
  cases h.follows hs with
  | begin hidle a => exact h.begin hidle a
  | does hne hdoes => exact h.does hne hdoes
  | turns hidle hturns => exact h.turns hidle hturns

lemma stack_start (names : String) (threads : Nat) (t : Thread) :
    (start names threads : Machine ν).stack t = [] := by
  cases t with
  | worker c => cases c <;> rfl
  | outside n =>
      rw [stack, start, List.getElem?_replicate]
      split <;> rfl

lemma chronicled_start (names : String) (threads : Nat) :
    (start names threads : Machine ν).Chronicled {} := by
  have hidle := stack_start (ν := ν) names threads
  refine ⟨fun c => .running ?_ ?_, fun c => ?_, fun c hne => (hne (hidle _)).elim,
    fun t hne => (hne (hidle _)).elim⟩
  · cases c <;> rfl
  · cases c <;> rfl
  · rw [hidle]
    rfl

end Machine

end DeviceLink.Dispatch
