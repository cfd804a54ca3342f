import DeviceLink.Proofs.Dispatch.Chronicle

/-!
# Who is inside a cell

Each context has a cell, and closures run inside it and inside each other.  Whoever is inside leaves
when the closure ends, however it ends: a panic on its way down the stack leaves every cell that it
passes, and what was changed before stays changed.

* `depth` — how many closures of a stack are inside a cell.
* `Visit`, `Machine.visits` — what an observer sees of a cell, who looks at the stacks only.
* `Admissible` — visits one after the other, by whoever is on the owner of the cell.
* `Machine.Unwinds` — what a panic passes on its way, and what it leaves.
* `Machine.Touches`, **`treats_step`** — what a step does to a cell.
* **`Machine.Attends`** — the cell is what the visits have made of it, and whoever is inside can be
  found on a stack.
* **`attends_follow`** — so it is in every run; when nobody is inside, the cell can be entered
  (`Admits`).
-/

namespace DeviceLink.Dispatch

variable {ν : Type}

/-! ## Closures inside a cell -/

/-- How many closures of a stack are inside a cell. -/
def depth (c : Context) (frames : List (Frame ν)) : Nat :=
  frames.countP fun frame => frame.goal? = some (.leave c)

section Depth

variable {c : Context} {frames below : List (Frame ν)}

@[simp] lemma depth_nil (c : Context) : depth c ([] : List (Frame ν)) = 0 := rfl

@[simp] lemma depth_running (c : Context) (origin : Origin) (rest : List (Action ν))
    (values : List Value) (goal : Goal) (below : List (Frame ν)) :
    depth c (.running origin rest values goal :: below) =
      depth c below + if goal = .leave c then 1 else 0 := by
  simp [depth, List.countP_cons, Frame.goal?]

lemma depth_standing {frame : Frame ν} (h : frame.goal? = none) (c : Context)
    (below : List (Frame ν)) : depth c (frame :: below) = depth c below := by
  simp [depth, h]

lemma depth_append (c : Context) (frames below : List (Frame ν)) :
    depth c (frames ++ below) = depth c frames + depth c below := List.countP_append

/-- What the closure at the top can reach, somebody is inside. -/
lemma depth_pos_of_mem_reach (h : c ∈ reach frames) : 0 < depth c frames := by
  fun_induction reach frames with
  | case1 origin rest values cell below ih =>
      rw [depth_running]
      rcases List.mem_cons.mp h with rfl | h
      · simp
      · have := ih h
        omega
  | case2 => cases h

end Depth

/-- Where the closure at the top of a stack was told that it runs. -/
def place : List (Frame ν) → Origin
  | .running origin _ _ _ :: _ => origin
  | _ => .external

/-- Nobody is inside a cell any more; its value stays. -/
def Cell.left (cell : Cell) : Cell := { value := cell.value }

/-! ## What an observer sees -/

/-- What is seen of a cell. -/
inductive Visit where
  /-- A closure begins inside, that was told where it runs. -/
  | enters (t : Thread) (o : Origin)
  | updates (t : Thread) (change : Int → Int)
  | leaves (t : Thread)

def Visit.apply (n : Int) : Visit → Int
  | updates _ change => change n
  | enters _ _ | leaves _ => n

/-- The value that visits lead to, one change after the other. -/
def outcome (visits : List Visit) : Int := visits.foldl Visit.apply 0

/-- **Visits one after the other**, each by a closure on the owner of the cell, and who is inside
then. -/
inductive Admissible (c : Context) : List Visit → Option Thread → Prop where
  | untouched : Admissible c [] none
  | enters {visits : List Visit} (t : Thread) (h : Admissible c visits none) :
      Admissible c (visits ++ [.enters t (.on c)]) (some t)
  | updates {visits : List Visit} {t : Thread} (change : Int → Int)
      (h : Admissible c visits (some t)) :
      Admissible c (visits ++ [.updates t change]) (some t)
  | leaves {visits : List Visit} {t : Thread} (h : Admissible c visits (some t)) :
      Admissible c (visits ++ [.leaves t]) none

namespace Machine

variable {m m' n : Machine ν} {t : Thread} {c : Context} {frames below : List (Frame ν)}

/-- The change that a thread's next step makes to a cell that it is inside. -/
def change? (m : Machine ν) (t : Thread) (c : Context) : Option (Int → Int) :=
  match m.stack t with
  | .running origin (.update level change :: rest) values goal :: below =>
    if (reach (.running origin rest values goal :: below))[level]? = some c then some change
    else none
  | _ => none

/-- What is seen of a cell when a thread has made a step. -/
def visits (before after : Machine ν) (t : Thread) (c : Context) : List Visit :=
  let was := depth c (before.stack t)
  let now := depth c (after.stack t)
  if was < now then [.enters t (place (after.stack t))]
  else if now < was then [.leaves t]
  else (before.change? t c).toList.map (.updates t)

end Machine

def Event.thread : Event ν → Thread
  | begin n _ => .outside n
  | move t => t

/-- What was seen of each cell, oldest first. -/
abbrev Visits := Context → List Visit

def Visits.note (e : Event ν) (before after : Machine ν) (g : Visits) : Visits :=
  fun c => g c ++ before.visits after e.thread c

/-! ## Where a step leads -/

namespace Machine

variable {m m' n : Machine ν} {t : Thread} {c : Context} {frames below : List (Frame ν)}

/-- A step of one thread gives it a stack, and all cells their state. -/
structure Lands (m : Machine ν) (t : Thread) (frames : List (Frame ν)) (cells : PerContext Cell)
    (m' : Machine ν) : Prop where
  own : m'.stack t = frames
  others : ∀ u ≠ t, m'.stack u = m.stack u
  cells : m'.cells = cells

@[simp] lemma cells_setStack (m : Machine ν) (t : Thread) (frames : List (Frame ν)) :
    (m.setStack t frames).cells = m.cells := by
  cases t <;> rfl

lemma lands_setStack (hn : n.stack = m.stack) (hbusy : m.stack t ≠ [])
    (frames : List (Frame ν)) : Lands m t frames n.cells (n.setStack t frames) where
  own := stack_setStack_of_ne_nil (by rwa [hn]) frames
  others u hu := (stack_setStack_of_ne hu frames).trans (congrFun hn u)
  cells := cells_setStack n t frames

/-- The closure below gets a value, and all closures stay where they are. -/
lemma exists_lands_give (hn : n.stack = m.stack) (hbusy : m.stack t ≠ []) (v : Value)
    (below : List (Frame ν)) :
    ∃ frames, (∀ c, depth c frames = depth c below) ∧
      Lands m t frames n.cells (n.give t v below) := by
  unfold give
  split
  · exact ⟨_, fun c => by rw [depth_running, depth_running], lands_setStack hn hbusy _⟩
  · exact ⟨_, fun _ => rfl, lands_setStack hn hbusy _⟩

lemma stack_deliver (m : Machine ν) (k : Nat) (d : Delivery) : (m.deliver k d).stack = m.stack := by
  obtain ⟨log, heq, -⟩ := m.exists_deliver_eq k d
  rw [heq]
  rfl

lemma cells_deliver (m : Machine ν) (k : Nat) (d : Delivery) : (m.deliver k d).cells = m.cells := by
  obtain ⟨log, heq, -⟩ := m.exists_deliver_eq k d
  rw [heq]

lemma stack_letGo (m : Machine ν) (k : Nat) : (m.letGo k).stack = m.stack := by
  obtain ⟨tickets, heq⟩ := m.exists_letGo_eq k
  rw [heq]
  rfl

lemma cells_letGo (m : Machine ν) (k : Nat) : (m.letGo k).cells = m.cells := by
  obtain ⟨tickets, heq⟩ := m.exists_letGo_eq k
  rw [heq]

lemma stack_forget (m : Machine ν) (handle : Nat) : (m.forget handle).stack = m.stack := by
  unfold forget
  split
  · exact stack_letGo _ _
  · rfl

lemma cells_forget (m : Machine ν) (handle : Nat) : (m.forget handle).cells = m.cells := by
  unfold forget
  split
  · exact cells_letGo _ _
  · rfl

/-- A call that is queued concerns no stack and no cell. -/
lemma stack_queue? {target : Context} {body : List (Action ν)} {r : Nat × Machine ν}
    (h : m.queue? target body = some r) :
    r.2.stack = m.stack ∧ r.2.cells = m.cells := by
  rw [queue?_eq] at h
  split at h
  · cases h
  · cases h
    exact ⟨rfl, rfl⟩

/-- Frames of a stack are passed, and every cell that one of them is inside is left. -/
def Unwinds (m : Machine ν) (t : Thread) (cells : PerContext Cell) (frames : List (Frame ν))
    (m' : Machine ν) : Prop :=
  ∃ passed below after, frames = passed ++ below ∧ Lands m t below after m' ∧
    ∀ c, after.get c = if 0 < depth c passed then (cells.get c).left else cells.get c

/-- One more frame is passed. -/
lemma Unwinds.cons {cells inner : PerContext Cell} {frame : Frame ν}
    (hinner : ∀ c, inner.get c = if 0 < depth c [frame] then (cells.get c).left else cells.get c)
    (h : Unwinds m t inner frames m') : Unwinds m t cells (frame :: frames) m' := by
  obtain ⟨passed, below, after, rfl, hlands, hafter⟩ := h
  refine ⟨frame :: passed, below, after, rfl, hlands, fun c => ?_⟩
  have hdepth : depth c (frame :: passed) = depth c [frame] + depth c passed :=
    depth_append c [frame] passed
  have hsome : 0 < depth c (frame :: passed) ↔ 0 < depth c [frame] ∨ 0 < depth c passed := by
    rw [hdepth]
    omega
  rw [hafter, hinner]
  by_cases hframe : 0 < depth c [frame] <;> by_cases hpassed : 0 < depth c passed <;>
    simp only [hsome, hframe, hpassed, if_true, if_false, or_true, true_or, or_self, Cell.left]

/-- The panic is caught where a frame ends. -/
lemma unwinds_setStack {k : Machine ν} (hk : k.stack = m.stack) (hbusy : m.stack t ≠ [])
    {frame : Frame ν} (hframe : ∀ c, depth c [frame] = 0) (below : List (Frame ν)) :
    Unwinds m t k.cells (frame :: below) (k.setStack t below) :=
  ⟨[frame], below, _, rfl, lands_setStack hk hbusy below,
    fun c => by rw [hframe, if_neg (Nat.lt_irrefl 0)]⟩

/-- **A panic unwinds a part of the stack**, and every cell on the way is left. -/
lemma unwinds_unwind (hn : n.stack = m.stack) (hbusy : m.stack t ≠ []) (p : Panic)
    (frames : List (Frame ν)) : Unwinds m t n.cells frames (n.unwind t p frames) := by
  induction frames generalizing n with
  | nil => exact ⟨[], [], _, rfl, lands_setStack hn hbusy [], fun c => rfl⟩
  | cons frame below ih =>
      have hsame : ∀ c, depth c [frame] = 0 → n.cells.get c =
          if 0 < depth c [frame] then (n.cells.get c).left else n.cells.get c :=
        fun c hc => by rw [hc, if_neg (Nat.lt_irrefl 0)]
      cases frame with
      | awaiting _ | discarding _ _ | stopping _ | joining _ _ =>
          exact (ih hn).cons fun c => hsame c rfl
      | running origin rest values goal =>
          cases goal with
          | value | task | keep _ => exact (ih hn).cons fun c => hsame c rfl
          | ticket k =>
              have hdepth (c : Context) :
                  depth c [.running origin rest values (.ticket k)] = 0 := rfl
              have hcaught := unwinds_setStack ((n.stack_deliver k (.panicked p)).trans hn) hbusy
                hdepth below
              rwa [cells_deliver] at hcaught
          | result =>
              have hdepth (c : Context) : depth c [.running origin rest values .result] = 0 := rfl
              cases t with
              | worker d => exact unwinds_setStack hn hbusy hdepth below
              | outside k =>
                  exact unwinds_setStack (k := n.conclude k (.panicked p)) hn hbusy hdepth below
          | leave cell =>
              refine (ih (n := n.setCell cell (n.cells.get cell).left) hn).cons fun c => ?_
              rw [setCell, PerContext.get_set, depth_running]
              by_cases hc : c = cell
              · simp [hc]
              · have hne : ¬ cell = c := fun he => hc he.symm
                simp [hc, hne]

/-! ## What a step does to a cell -/

/-- **What a step of a thread does to a cell.** -/
inductive Touches (m : Machine ν) (t : Thread) (c : Context) (m' : Machine ν) : Prop where
  | quiet (hchange : m.change? t c = none)
      (hdepth : depth c (m'.stack t) = depth c (m.stack t))
      (hcell : m'.cells.get c = m.cells.get c)
  | enters (hplace : place (m'.stack t) = .on c)
      (hdepth : depth c (m'.stack t) = depth c (m.stack t) + 1)
      (hfree : (m.cells.get c).entered = false)
      (hcell : m'.cells.get c = { m.cells.get c with entered := true })
  | updates {change : Int → Int} (hchange : m.change? t c = some change)
      (hinside : 0 < depth c (m.stack t))
      (hdepth : depth c (m'.stack t) = depth c (m.stack t))
      (hcell : m'.cells.get c = { m.cells.get c with value := change (m.cells.get c).value })
  | leaves (hdepth : depth c (m'.stack t) < depth c (m.stack t))
      (hcell : m'.cells.get c = (m.cells.get c).left)

/-- A step of a thread, and what it does to each cell. -/
structure Treats (m : Machine ν) (t : Thread) (m' : Machine ν) : Prop where
  others : ∀ u ≠ t, m'.stack u = m.stack u
  cells : ∀ c, Touches m t c m'

/-- Nobody goes in or out, and no cell changes. -/
lemma Lands.treats (h : Lands m t frames m.cells m')
    (hdepth : ∀ c, depth c frames = depth c (m.stack t)) (hchange : ∀ c, m.change? t c = none) :
    Treats m t m' where
  others := h.others
  cells c := .quiet (hchange c) (by rw [h.own, hdepth]) (by rw [h.cells])

/-- A panic only makes closures leave cells. -/
lemma Unwinds.treats (h : Unwinds m t m.cells frames m')
    (hdepth : ∀ c, depth c frames = depth c (m.stack t)) (hchange : ∀ c, m.change? t c = none) :
    Treats m t m' := by
  obtain ⟨passed, below, after, rfl, hlands, hafter⟩ := h
  refine ⟨hlands.others, fun c => ?_⟩
  have hsum := hdepth c
  rw [depth_append] at hsum
  by_cases hpassed : 0 < depth c passed
  · exact .leaves (by rw [hlands.own]; omega) (by rw [hlands.cells, hafter, if_pos hpassed])
  · exact .quiet (hchange c) (by rw [hlands.own]; omega)
      (by rw [hlands.cells, hafter, if_neg hpassed])

section Steps

variable {origin : Origin} {a : Action ν} {rest : List (Action ν)} {values : List Value}
  {goal : Goal}

/-- Only one action changes cells. -/
lemma change?_of_running (hstack : m.stack t = .running origin (a :: rest) values goal :: below)
    (ha : ∀ level change, a ≠ .update level change) (c : Context) : m.change? t c = none := by
  rw [change?, hstack]
  cases a <;> first | rfl | exact (ha _ _ rfl).elim

/-- While an action is done, all closures stay where they are. -/
lemma depth_eq_of_running
    (hstack : m.stack t = .running origin (a :: rest) values goal :: below) (c : Context) :
    depth c (.running origin rest values goal :: below) = depth c (m.stack t) := by
  rw [hstack, depth_running, depth_running]

lemma depth_eq_of_standing {frame : Frame ν} (hstack : m.stack t = frame :: below)
    (hframe : frame.goal? = none) (c : Context) : depth c below = depth c (m.stack t) := by
  rw [hstack, depth_standing hframe]

/-- A step that is no action changes no cell. -/
lemma change?_of_standing {frame : Frame ν} (hstack : m.stack t = frame :: below)
    (hframe : frame.goal? = none) (c : Context) : m.change? t c = none := by
  rw [change?, hstack]
  cases frame with
  | running _ _ _ _ => cases hframe
  | awaiting _ | discarding _ _ | stopping _ | joining _ _ => rfl

/-- An action is over, and nothing else has come of it. -/
lemma treats_give (hn : n.stack = m.stack) (hcells : n.cells = m.cells)
    (hbusy : m.stack t ≠ []) (hdepth : ∀ c, depth c below = depth c (m.stack t))
    (hchange : ∀ c, m.change? t c = none) (v : Value) : Treats m t (n.give t v below) := by
  obtain ⟨frames, hframes, hlands⟩ := exists_lands_give hn hbusy v below
  rw [hcells] at hlands
  exact hlands.treats (fun c => (hframes c).trans (hdepth c)) hchange

/-- A closure ends, and leaves the cell that it was inside. -/
lemma treats_finish {left : List (Action ν)}
    (hstack : m.stack t = .running origin left values goal :: below)
    (hchange : ∀ c, m.change? t c = none) (v : Value) : Treats m t (m.finish t v goal below) := by
  have hbusy : m.stack t ≠ [] := hstack ▸ List.cons_ne_nil _ _
  have hsame (hgoal : ∀ c, goal ≠ .leave c) (c : Context) :
      depth c below = depth c (m.stack t) := by
    rw [hstack, depth_running, if_neg (hgoal c), Nat.add_zero]
  cases goal with
  | value | task => exact treats_give rfl rfl hbusy (hsame (by rintro _ ⟨⟩)) hchange v
  | keep handle =>
      cases handle with
      | none => exact treats_give rfl rfl hbusy (hsame (by rintro _ ⟨⟩)) hchange _
      | some handle =>
          exact treats_give (m := m) (n := m.setHandle handle (.ready v)) rfl rfl hbusy
            (hsame (by rintro _ ⟨⟩)) hchange _
  | ticket k =>
      have hlands := lands_setStack (m.stack_deliver k (.value v)) hbusy below
      rw [cells_deliver] at hlands
      exact hlands.treats (hsame (by rintro _ ⟨⟩)) hchange
  | result =>
      have hdepth := hsame (by rintro _ ⟨⟩)
      cases t with
      | worker d => exact (lands_setStack rfl hbusy below).treats hdepth hchange
      | outside k =>
          have hlands :=
            lands_setStack (m := m) (n := m.conclude k (.value v)) rfl hbusy below
          exact hlands.treats hdepth hchange
  | leave cell =>
      obtain ⟨frames, hframes, hlands⟩ := exists_lands_give
        (n := m.setCell cell (m.cells.get cell).left) rfl hbusy
        (.number (m.cells.get cell).value) below
      change Treats m t ((m.setCell cell (m.cells.get cell).left).give t _ below)
      refine ⟨hlands.others, fun c => ?_⟩
      have hget := (congrArg (PerContext.get · c) hlands.cells).trans (PerContext.get_set _ _ _ _)
      have hdepth : depth c (m.stack t) =
          depth c frames + if Goal.leave cell = .leave c then 1 else 0 := by
        rw [hstack, depth_running, hframes]
      by_cases hc : c = cell
      · subst hc
        rw [if_pos rfl] at hget hdepth
        exact .leaves (by rw [hdepth, hlands.own]; omega) hget
      · rw [if_neg hc] at hget
        rw [if_neg (by simpa using fun he => hc he.symm), Nat.add_zero] at hdepth
        exact .quiet (hchange c) (by rw [hdepth, hlands.own]) hget

/-- A closure is called on the spot, or in a way in which nobody goes in or out of a cell. -/
lemma treats_push (frame : Frame ν) (hn : n.stack = m.stack) (hcells : n.cells = m.cells)
    (hbusy : m.stack t ≠ []) (hframe : ∀ c, frame.goal? ≠ some (.leave c))
    (hdepth : ∀ c, depth c below = depth c (m.stack t))
    (hchange : ∀ c, m.change? t c = none) : Treats m t (n.setStack t (frame :: below)) := by
  have hlands := lands_setStack hn hbusy (frame :: below)
  rw [hcells] at hlands
  refine hlands.treats (fun c => ?_) hchange
  exact (List.countP_cons_of_neg (by simpa using hframe c)).trans (hdepth c)

/-- A panic is raised. -/
lemma treats_unwind (hn : n.stack = m.stack) (hcells : n.cells = m.cells)
    (hbusy : m.stack t ≠ []) (hdepth : ∀ c, depth c frames = depth c (m.stack t))
    (hchange : ∀ c, m.change? t c = none) (p : Panic) : Treats m t (n.unwind t p frames) := by
  have hunwinds := unwinds_unwind hn hbusy p frames
  rw [hcells] at hunwinds
  exact hunwinds.treats hdepth hchange

/-- **A closure is dispatched:** that lets nobody into a cell. -/
lemma treats_call {style : Style} {stated : Option Origin} {target : Context}
    {body : List (Action ν)}
    (hstack : m.stack t = .running origin (.call style stated target body :: rest) values goal
      :: below) :
    Treats m t (m.call t (stated.getD origin) style target body
      (.running origin rest values goal :: below)) := by
  have hbusy : m.stack t ≠ [] := hstack ▸ List.cons_ne_nil _ _
  have hchange := change?_of_running hstack (by rintro _ _ ⟨⟩)
  have hdepth := depth_eq_of_running hstack
  cases style with
  | waiting =>
      simp only [call]
      split
      · exact treats_push _ rfl rfl hbusy (by rintro _ ⟨⟩) hdepth hchange
      · cases hq : m.queue? target body with
        | none => exact treats_give rfl rfl hbusy hdepth hchange _
        | some r =>
            obtain ⟨hn, hcells⟩ := stack_queue? hq
            dsimp only
            split
            · exact treats_push (.discarding r.1 _) hn hcells hbusy (by rintro _ ⟨⟩) hdepth hchange
            · exact treats_push (.awaiting r.1) hn hcells hbusy (by rintro _ ⟨⟩) hdepth hchange
  | driving =>
      simp only [call]
      split
      · exact treats_unwind rfl rfl hbusy hdepth hchange _
      · split
        · exact treats_push _ rfl rfl hbusy (by rintro _ ⟨⟩) hdepth hchange
        · cases hq : m.queue? target body with
          | none => exact treats_give rfl rfl hbusy hdepth hchange _
          | some r =>
              obtain ⟨hn, hcells⟩ := stack_queue? hq
              exact treats_push (.awaiting r.1) hn hcells hbusy (by rintro _ ⟨⟩) hdepth hchange
  | keeping =>
      simp only [call]
      split
      · exact treats_push (m := m) (n := m.newHandle) _ rfl rfl hbusy (by rintro _ ⟨⟩) hdepth
          hchange
      · cases hq : m.newHandle.queue? target body with
        | none =>
            exact treats_give (m := m)
              (n := m.newHandle.setHandle m.handles.length (.failed (.closed target))) rfl rfl hbusy
              hdepth hchange _
        | some r =>
            obtain ⟨hn, hcells⟩ := stack_queue? hq
            exact treats_give (m := m) (n := r.2.setHandle m.handles.length (.pending r.1)) hn
              hcells hbusy hdepth hchange _
  | dropping =>
      simp only [call]
      split
      · exact treats_push _ rfl rfl hbusy (by rintro _ ⟨⟩) hdepth hchange
      · cases hq : m.queue? target body with
        | none => exact treats_give rfl rfl hbusy hdepth hchange _
        | some r =>
            obtain ⟨hn, hcells⟩ := stack_queue? hq
            exact treats_push (.discarding r.1 none) hn hcells hbusy (by rintro _ ⟨⟩) hdepth hchange

/-- **A cell is entered** by whoever is on its owner, when nobody is inside. -/
lemma treats_enter {cell : Context} {body : List (Action ν)}
    (hstack : m.stack t = .running origin (.enter cell body :: rest) values goal :: below) :
    Treats m t (m.perform t (.enter cell body) origin goal (.running origin rest values goal)
      below) := by
  have hbusy : m.stack t ≠ [] := hstack ▸ List.cons_ne_nil _ _
  have hchange := change?_of_running hstack (by rintro _ _ ⟨⟩)
  have hdepth := depth_eq_of_running hstack
  rw [perform]
  split
  · exact treats_unwind rfl rfl hbusy hdepth hchange _
  · next hcheck =>
      have horigin : origin = .on cell := by
        by_contra hne
        rw [Origin.check, if_neg hne] at hcheck
        cases hcheck
      by_cases hentered : (m.cells.get cell).entered = true
      · simp only [hentered, if_true]
        exact treats_unwind rfl rfl hbusy hdepth hchange _
      · rw [Bool.not_eq_true] at hentered
        simp only [hentered, Bool.false_eq_true, if_false]
        have hlands := lands_setStack
          (n := m.setCell cell { m.cells.get cell with entered := true }) (m := m) rfl hbusy
          (.running origin body [] (.leave cell) :: .running origin rest values goal :: below)
        refine ⟨hlands.others, fun c => ?_⟩
        have hget := (congrArg (PerContext.get · c) hlands.cells).trans (PerContext.get_set _ _ _ _)
        by_cases hc : c = cell
        · subst hc
          rw [if_pos rfl] at hget
          refine .enters ?_ ?_ hentered hget
          · rw [hlands.own, place, horigin]
          · rw [hlands.own, depth_running, if_pos rfl, hdepth]
        · rw [if_neg hc] at hget
          have hne : Goal.leave cell ≠ .leave c := by simpa using fun he => hc he.symm
          refine .quiet (hchange c) ?_ hget
          rw [hlands.own, depth_running, if_neg hne, Nat.add_zero, hdepth]

/-- **A cell is changed** by whoever is inside. -/
lemma treats_update {level : Nat} {change : Int → Int}
    (hstack : m.stack t = .running origin (.update level change :: rest) values goal :: below) :
    Treats m t (m.perform t (.update level change) origin goal (.running origin rest values goal)
      below) := by
  have hbusy : m.stack t ≠ [] := hstack ▸ List.cons_ne_nil _ _
  have hdepth := depth_eq_of_running hstack
  have hchange (c : Context) : m.change? t c =
      if (reach (.running origin rest values goal :: below))[level]? = some c then some change
      else none := by
    rw [change?, hstack]
  rw [perform]
  split
  · next cell hcell =>
      obtain ⟨frames, hframes, hlands⟩ := exists_lands_give
        (n := m.setCell cell { m.cells.get cell with value := change (m.cells.get cell).value })
        (m := m) rfl hbusy .unit (.running origin rest values goal :: below)
      refine ⟨hlands.others, fun c => ?_⟩
      have hget := (congrArg (PerContext.get · c) hlands.cells).trans (PerContext.get_set _ _ _ _)
      by_cases hc : c = cell
      · subst hc
        rw [if_pos rfl] at hget
        have hinside := depth_pos_of_mem_reach (List.mem_of_getElem? hcell)
        rw [hdepth] at hinside
        exact .updates ((hchange c).trans (if_pos hcell)) hinside
          (by rw [hlands.own, hframes, hdepth]) hget
      · rw [if_neg hc] at hget
        have hne : some cell ≠ some c := fun he => hc (Option.some.inj he).symm
        exact .quiet ((hchange c).trans (if_neg (hcell ▸ hne)))
          (by rw [hlands.own, hframes, hdepth]) hget
  · next hcell =>
      exact treats_give rfl rfl hbusy hdepth
        (fun c => (hchange c).trans (if_neg (by simp [hcell]))) _

/-- **An action of a closure.** -/
lemma treats_perform (hstack : m.stack t = .running origin (a :: rest) values goal :: below) :
    Treats m t (m.perform t a origin goal (.running origin rest values goal) below) := by
  have hbusy : m.stack t ≠ [] := hstack ▸ List.cons_ne_nil _ _
  have hdepth := depth_eq_of_running hstack
  have hchange := change?_of_running hstack
  cases a with
  | tellThread | tellContext =>
      exact treats_give rfl rfl hbusy hdepth (hchange (by rintro _ _ ⟨⟩)) _
  | record v =>
      exact treats_give (m := m) (n := { m with record := m.record ++ [(t, v)] }) rfl rfl hbusy
        hdepth (hchange (by rintro _ _ ⟨⟩)) _
  | guard expected =>
      rw [perform]
      split
      · exact treats_give rfl rfl hbusy hdepth (hchange (by rintro _ _ ⟨⟩)) _
      · exact treats_unwind rfl rfl hbusy hdepth (hchange (by rintro _ _ ⟨⟩)) _
  | panic p => exact treats_unwind rfl rfl hbusy hdepth (hchange (by rintro _ _ ⟨⟩)) p
  | fail text => exact treats_finish hstack (hchange (by rintro _ _ ⟨⟩)) _
  | enter cell body => exact treats_enter hstack
  | update level change => exact treats_update hstack
  | call style stated target body => exact treats_call hstack
  | wait handle =>
      have hquiet := hchange (by rintro _ _ ⟨⟩)
      rw [perform, wait]
      split
      · exact treats_give rfl rfl hbusy hdepth hquiet _
      · exact treats_give rfl rfl hbusy hdepth hquiet _
      · exact treats_give (m := m) (n := m.setHandle handle .empty) rfl rfl hbusy hdepth hquiet _
      · exact treats_give (m := m) (n := m.setHandle handle .empty) rfl rfl hbusy hdepth hquiet _
      · split
        · exact treats_unwind (m.stack_forget handle) (m.cells_forget handle) hbusy hdepth hquiet _
        · exact treats_push (m := m) (n := m.setHandle handle .empty) _ rfl rfl hbusy
            (by rintro _ ⟨⟩) hdepth hquiet
  | forget handle =>
      exact treats_give (m.stack_forget handle) (m.cells_forget handle) hbusy hdepth
        (hchange (by rintro _ _ ⟨⟩)) _
  | inline stated body =>
      exact treats_push _ rfl rfl hbusy (by rintro _ ⟨⟩) hdepth (hchange (by rintro _ _ ⟨⟩))
  | stop => exact treats_push _ rfl rfl hbusy (by rintro _ ⟨⟩) hdepth (hchange (by rintro _ _ ⟨⟩))

end Steps

/-- **A worker that has nothing under way** is in no cell, and stays out. -/
lemma treats_turns {d : Context} (hidle : m.stack (.worker d) = []) (h : Turns m d m') :
    Treats m (.worker d) m' := by
  have hchange (c : Context) : m.change? (.worker d) c = none := by rw [change?, hidle]
  have hnone (c : Context) : depth c (m.stack (.worker d)) = 0 := by rw [hidle, depth_nil]
  cases h with
  | stop | exit => exact ⟨fun u _ => rfl, fun c => .quiet (hchange c) rfl rfl⟩
  | job hphase hqueue =>
      refine ⟨fun u hu => stack_setStack_of_ne hu _, fun c => .quiet (hchange c) ?_ ?_⟩
      · rw [stack_setStack_worker, hnone]
        rfl
      · rw [cells_setStack]

/-- **Whatever a thread does**, it leaves the stacks of the others, and does one thing to a cell at
a time. -/
theorem treats_step (hs : m.step t = some m') : Treats m t m' := by
  cases hstack : m.stack t with
  | nil =>
      cases t with
      | worker d => exact treats_turns hstack (turns_step hstack hs)
      | outside k => simp [step, hstack] at hs
  | cons frame below =>
      have hbusy : m.stack t ≠ [] := hstack ▸ List.cons_ne_nil _ _
      unfold step at hs
      rw [hstack] at hs
      cases frame with
      | running origin left values goal =>
          cases left with
          | nil =>
              cases hs
              exact treats_finish hstack (fun c => by rw [change?, hstack]) _
          | cons a rest =>
              cases hs
              exact treats_perform hstack
      | awaiting k =>
          have hchange := change?_of_standing hstack rfl
          have hdepth := depth_eq_of_standing hstack rfl
          cases hticket : m.tickets[k]? with
          | none => simp [hticket] at hs
          | some ticket =>
              obtain ⟨target, held, delivery⟩ := ticket
              simp only [hticket] at hs
              cases delivery with
              | pending => cases hs
              | value v | lost =>
                  cases hs
                  exact treats_give rfl rfl hbusy hdepth hchange _
              | panicked p =>
                  cases hs
                  exact treats_unwind rfl rfl hbusy hdepth hchange p
      | discarding k panic =>
          have hchange := change?_of_standing hstack rfl
          have hdepth := depth_eq_of_standing hstack rfl
          cases hs
          cases panic with
          | none => exact treats_give (stack_letGo m k) (cells_letGo m k) hbusy hdepth hchange _
          | some p => exact treats_unwind (stack_letGo m k) (cells_letGo m k) hbusy hdepth hchange p
      | stopping todo =>
          have hchange := change?_of_standing hstack rfl
          have hdepth := depth_eq_of_standing hstack rfl
          cases hs
          cases todo with
          | nil => exact treats_give rfl rfl hbusy hdepth hchange _
          | cons d todo =>
              rw [stopNext]
              split
              · exact treats_push (m := m) (.stopping todo) rfl rfl hbusy (by rintro _ ⟨⟩) hdepth
                  hchange
              · split
                · exact treats_push (m := m) (.stopping todo) rfl rfl hbusy (by rintro _ ⟨⟩) hdepth
                    hchange
                · exact treats_push (m := m) (.joining d todo) rfl rfl hbusy (by rintro _ ⟨⟩) hdepth
                    hchange
      | joining d todo =>
          have hchange := change?_of_standing hstack rfl
          have hdepth := depth_eq_of_standing hstack rfl
          simp only at hs
          split at hs
          · cases hs
            exact treats_push (m := m) (n := m.write (joinedLine d)) (.stopping todo) rfl rfl hbusy
              (by rintro _ ⟨⟩) hdepth hchange
          · cases hs
          · cases hs

/-- A closure that a thread outside begins is in no cell. -/
lemma treats_begin {k : Nat} (hidle : m.stack (.outside k) = []) (a : Action ν) :
    Treats m (.outside k) (m.begin k a) := by
  have hchange (c : Context) : m.change? (.outside k) c = none := by rw [change?, hidle]
  refine ⟨fun u hu => stack_setStack_of_ne hu _, fun c => .quiet (hchange c) ?_ ?_⟩
  · rw [hidle]
    rcases m.stack_begin hidle a with h | h
    · rw [h]
      rfl
    · rw [h]
  · rw [begin, push, cells_setStack]

/-- **Whatever happens** is one step of one thread. -/
lemma treats_happens {e : Event ν} (hs : m.happens e = some m') : Treats m e.thread m' := by
  cases e with
  | move t => exact treats_step hs
  | begin k a =>
      rw [happens] at hs
      split at hs
      · next hidle =>
          cases hs
          exact treats_begin (List.isEmpty_iff.mp hidle) a
      · cases hs

/-! ## Runs -/

/-- **A cell is what the visits have made of it**, and whoever is inside can be found on a stack,
once. -/
def Attends (m : Machine ν) (c : Context) (visits : List Visit) : Prop :=
  ∃ holder, Admissible c visits holder ∧
    (∀ t, depth c (m.stack t) = if holder = some t then 1 else 0) ∧
    m.cells.get c = { value := outcome visits, entered := holder.isSome }

lemma outcome_concat (visits : List Visit) (v : Visit) :
    outcome (visits ++ [v]) = v.apply (outcome visits) := by
  rw [outcome, List.foldl_append]
  rfl

/-- The stacks after a step of one thread, by how often each is inside a cell. -/
lemma Treats.depth_eq (h : Treats m t m') {was now : Option Thread}
    (hwas : ∀ u, depth c (m.stack u) = if was = some u then 1 else 0)
    (hothers : ∀ u ≠ t, (was = some u ↔ now = some u))
    (hown : depth c (m'.stack t) = if now = some t then 1 else 0) (u : Thread) :
    depth c (m'.stack u) = if now = some u then 1 else 0 := by
  by_cases hu : u = t
  · rw [hu, hown]
  · rw [h.others u hu, hwas]
    exact if_congr (hothers u hu) rfl rfl

/-- **Every step keeps the cell to its visits.** -/
lemma Attends.treats {visits : List Visit} (h : m.Attends c visits) (hs : Treats m t m') :
    m'.Attends c (visits ++ m.visits m' t c) := by
  obtain ⟨holder, hadmissible, hinside, hcell⟩ := h
  cases hs.cells c with
  | quiet hchange hdepth hcell' =>
      have hvisits : m.visits m' t c = [] := by simp [Machine.visits, hdepth, hchange]
      rw [hvisits, List.append_nil]
      exact ⟨holder, hadmissible, hs.depth_eq hinside (fun _ _ => Iff.rfl)
        (hdepth.trans (hinside t)), hcell'.trans hcell⟩
  | enters hplace hdepth hfree hcell' =>
      have hvisits : m.visits m' t c = [.enters t (.on c)] := by
        simp [Machine.visits, hdepth, hplace]
      have hnone : holder = none := by
        rw [hcell] at hfree
        simpa using hfree
      subst hnone
      rw [hvisits]
      refine ⟨some t, hadmissible.enters t, hs.depth_eq hinside (fun u hu => ?_) ?_, ?_⟩
      · exact ⟨by rintro ⟨⟩, fun he => (hu (Option.some.inj he).symm).elim⟩
      · rw [hdepth, hinside]
        simp
      · rw [hcell', hcell, outcome_concat]
        rfl
  | @updates change hchange hpos hdepth hcell' =>
      have hvisits : m.visits m' t c = [.updates t change] := by
        simp [Machine.visits, hdepth, hchange]
      have hholder : holder = some t := by
        by_contra hne
        rw [hinside, if_neg hne] at hpos
        exact Nat.lt_irrefl 0 hpos
      subst hholder
      rw [hvisits]
      refine ⟨some t, hadmissible.updates change, hs.depth_eq hinside (fun _ _ => Iff.rfl)
        (hdepth.trans (hinside t)), ?_⟩
      rw [hcell', hcell, outcome_concat]
      rfl
  | leaves hdepth hcell' =>
      have hvisits : m.visits m' t c = [.leaves t] := by
        simp [Machine.visits, hdepth, Nat.le_of_lt hdepth]
      have hholder : holder = some t := by
        by_contra hne
        rw [hinside t, if_neg hne] at hdepth
        exact Nat.not_lt_zero _ hdepth
      subst hholder
      rw [hvisits]
      refine ⟨none, hadmissible.leaves, hs.depth_eq hinside (fun u hu => ?_) ?_, ?_⟩
      · exact ⟨fun he => (hu (Option.some.inj he).symm).elim, by rintro ⟨⟩⟩
      · rw [hinside t, if_pos rfl] at hdepth
        simpa using hdepth
      · rw [hcell', hcell, outcome_concat]
        rfl

lemma attends_start (names : String) (threads : Nat) (c : Context) :
    (start names threads : Machine ν).Attends c [] := by
  refine ⟨none, .untouched, fun t => ?_, by cases c <;> rfl⟩
  rw [stack_start]
  rfl

lemma Attends.entered_of_nobody {visits : List Visit} (h : m.Attends c visits)
    (hnobody : ∀ t, depth c (m.stack t) = 0) : (m.cells.get c).entered = false := by
  obtain ⟨holder, -, hinside, hcell⟩ := h
  rw [hcell]
  cases holder with
  | none => rfl
  | some u =>
      have hone := hinside u
      rw [hnobody, if_pos rfl] at hone
      cases hone

/-- **The cell can be entered:** whoever is on its owner, and is to go in, goes in. -/
def Admits (m : Machine ν) (c : Context) : Prop :=
  ∀ t body rest values goal below,
    m.stack t = .running (.on c) (.enter c body :: rest) values goal :: below →
    ∃ m', m.step t = some m' ∧ m'.stack t =
      .running (.on c) body [] (.leave c) :: .running (.on c) rest values goal :: below

/-- **A cell that nobody is inside can be entered.** -/
lemma Attends.admits {visits : List Visit} (h : m.Attends c visits)
    (hnobody : ∀ t, depth c (m.stack t) = 0) : m.Admits c := by
  intro t body rest values goal below hstack
  have hbusy : m.stack t ≠ [] := hstack ▸ List.cons_ne_nil _ _
  have hfree := h.entered_of_nobody hnobody
  have hstep : m.step t = some ((m.setCell c { m.cells.get c with entered := true }).setStack t
      (.running (.on c) body [] (.leave c) :: .running (.on c) rest values goal :: below)) := by
    unfold step
    rw [hstack]
    simp [perform, Origin.check, hfree]
  exact ⟨_, hstep, (lands_setStack (m := m)
    (n := m.setCell c { m.cells.get c with entered := true }) rfl hbusy _).own⟩

/-- **When all closures have ended**, the worker that the cell belongs to can take a call, which
goes in. -/
lemma Attends.worker_enters {visits : List Visit} (h : m.Attends c visits)
    (hidle : ∀ t, m.stack t = []) {call : Call ν} {body rest : List (Action ν)}
    {more : List (Command (Call ν))} (hphase : (m.boxes.get c).phase = .running)
    (hqueue : (m.boxes.get c).queue = .run call :: more)
    (hcall : call.body = .enter c body :: rest) :
    ∃ m₁ m₂, m.step (.worker c) = some m₁ ∧ m₁.step (.worker c) = some m₂ ∧
      m₂.stack (.worker c) =
        [.running (.on c) body [] (.leave c), .running (.on c) rest [] (.ticket call.ticket)] := by
  have hstep : m.step (.worker c) = some
      ({ m with boxes := m.boxes.set c { m.boxes.get c with queue := more } }.setStack (.worker c)
        [.running (.on c) call.body [] (.ticket call.ticket)]) := by
    unfold step
    simp [hidle, takeTurn, Mailbox.turn, hphase, hqueue]
  have hstack := stack_setStack_worker
    { m with boxes := m.boxes.set c { m.boxes.get c with queue := more } } c
    [.running (.on c) call.body [] (.ticket call.ticket)]
  generalize Machine.setStack _ (.worker c) _ = m₁ at hstep hstack
  have hnobody (t : Thread) : depth c (m₁.stack t) = 0 := by
    by_cases ht : t = .worker c
    · rw [ht, hstack]
      rfl
    · rw [(treats_step hstep).others t ht, hidle]
      rfl
  rw [hcall] at hstack
  obtain ⟨m₂, hnext, hin⟩ :=
    (h.treats (treats_step hstep)).admits hnobody _ _ _ _ _ _ hstack
  exact ⟨m₁, m₂, hstep, hnext, hin⟩

/-- **Cells survive whatever closures do.**  In every run, what was seen of a cell is visits one
after the other by closures on its owner, and its value is what their changes make of it, one after
the other.  Whenever nobody is inside it can be entered; and when all closures have ended, however
they did, the next call that its worker takes can go in. -/
theorem attends_follow (names : String) (threads : Nat) (events : List (Event ν)) (c : Context) :
    let r := follow Visits.note (start names threads, fun _ => []) events
    r.1.Attends c (r.2 c) ∧
      ((∀ t, depth c (r.1.stack t) = 0) → r.1.Admits c) ∧
      ((∀ t, r.1.stack t = []) → (r.1.cells.get c).entered = false ∧
        ∀ call body rest more, (r.1.boxes.get c).phase = .running →
          (r.1.boxes.get c).queue = .run call :: more → call.body = .enter c body :: rest →
          ∃ m₁ m₂, r.1.step (.worker c) = some m₁ ∧ m₁.step (.worker c) = some m₂ ∧
            m₂.stack (.worker c) =
              [.running (.on c) body [] (.leave c),
                .running (.on c) rest [] (.ticket call.ticket)]) := by
  intro r
  have hall : r.1.Attends c (r.2 c) :=
    runWith_induction (fun (m : Machine ν) (g : Visits) => m.Attends c (g c))
      (fun _ _ _ _ _ h hs => h.treats (treats_happens hs)) (attends_start names threads c)
  refine ⟨hall, hall.admits, fun hidle => ⟨hall.entered_of_nobody fun t => ?_, ?_⟩⟩
  · rw [hidle]
    rfl
  · intro call body rest more hphase hqueue hcall
    exact hall.worker_enters hidle hphase hqueue hcall

/-- What was added before a panic stays, and the cell is left. -/
example :
    (follow Visits.note ((start "link" 1 : Machine Unit), fun _ => [])
      (.begin 0 (.inline (.on .pipeline) [.enter .pipeline [.add 2, .panic .other]]) ::
        List.replicate 4 (.move (.outside 0)))).1.cells.pipeline = { value := 2 } := rfl

end Machine

end DeviceLink.Dispatch
