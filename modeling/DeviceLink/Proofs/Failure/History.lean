import DeviceLink.Unhandled
import Mathlib.Data.List.DropRight

/-!
# The latest failures

A sink counts every failure and remembers the latest.  Anybody who holds a handle may report, on any
thread, and a report is not one step: the failure is counted first, then the report waits for its
turn, makes room, and puts the failure down.  In whichever way the steps of several reports fall
between each other, the sink ends up as if the reports had been made one after the other.

* **`Unhandled.recent_after`**, **`Unhandled.count_after`** — reports made one after another.
* `Desk`, `Desk.Kept` — a sink that several may report to at once, and how it stands against its
  record.
* **`Desk.Kept.counted`**, **`Desk.Kept.entered`**, **`Desk.Kept.left`** — the steps of a report.
* `Desk.Recalls` — what a sink has to recall.
* `Desks`, `Doing`, `Desks.act` — all sinks with their handles, and what can happen to them.
* **`Desks.recalls_run`** — a sink recalls the latest failures, and counts them all.
* `Desks.twoHandles` — reports through a handle and its clone that fall between each other.
-/

namespace DeviceLink

namespace Unhandled

/-! ## One report after another -/

variable {u : Unhandled} {f : Failure} {capacity : Nat}

@[simp] lemma capacity_makeRoom (u : Unhandled) : u.makeRoom.capacity = u.capacity := by
  rw [makeRoom]
  split <;> rfl

@[simp] lemma count_makeRoom (u : Unhandled) : u.makeRoom.count = u.count := by
  rw [makeRoom]
  split <;> rfl

lemma recent_makeRoom (u : Unhandled) :
    u.makeRoom.recent = if u.recent.length = u.capacity then u.recent.drop 1 else u.recent := by
  rw [makeRoom]
  split <;> rfl

/-- Which failure has to go depends on what is remembered, and on nothing else. -/
lemma recent_makeRoom_congr {u v : Unhandled} (hcapacity : u.capacity = v.capacity)
    (hrecent : u.recent = v.recent) : u.makeRoom.recent = v.makeRoom.recent := by
  rw [recent_makeRoom, recent_makeRoom, hcapacity, hrecent]

@[simp] lemma capacity_report (u : Unhandled) (f : Failure) : (u.report f).capacity = u.capacity :=
  capacity_makeRoom u.tally

@[simp] lemma count_report (u : Unhandled) (f : Failure) : (u.report f).count = u.count + 1 :=
  count_makeRoom u.tally

lemma recent_report (u : Unhandled) (f : Failure) :
    (u.report f).recent = u.makeRoom.recent ++ [f] :=
  congrArg (· ++ [f]) (recent_makeRoom_congr rfl rfl)

/-- **Room for one.**  Of the latest failures, the oldest goes if there are as many as may be. -/
lemma recent_makeRoom_of_rtake {fs : List Failure} {n : Nat} (hcapacity : u.capacity = n + 1)
    (hrecent : u.recent = fs.rtake (n + 1)) : u.makeRoom.recent = fs.rtake n := by
  have hlength : (fs.rtake (n + 1)).length = fs.length - (fs.length - (n + 1)) := List.length_drop
  rw [recent_makeRoom, hcapacity, hrecent]
  by_cases hfull : n + 1 ≤ fs.length
  · have hmany : (fs.rtake (n + 1)).length = n + 1 := by omega
    have hdrop : fs.length - (n + 1) + 1 = fs.length - n := by omega
    rw [if_pos hmany, List.rtake, List.drop_drop, hdrop, List.rtake]
  · have hfew : (fs.rtake (n + 1)).length ≠ n + 1 := by omega
    have hall : fs.length - (n + 1) = fs.length - n := by omega
    rw [if_neg hfew, List.rtake, hall, List.rtake]

/-- One failure at least is remembered. -/
lemma exists_capacity_eq (capacity : Nat) : ∃ n, max capacity 1 = n + 1 :=
  Nat.exists_eq_succ_of_ne_zero (by omega)

/-- A new sink after reports, one after another. -/
def after (capacity : Nat) (fs : List Failure) : Unhandled :=
  fs.foldl report (ofCapacity capacity)

lemma after_concat (capacity : Nat) (fs : List Failure) (f : Failure) :
    after capacity (fs ++ [f]) = (after capacity fs).report f := List.foldl_concat ..

lemma capacity_after (capacity : Nat) (fs : List Failure) :
    (after capacity fs).capacity = max capacity 1 := by
  induction fs using List.reverseRecOn with
  | nil => rfl
  | append_singleton fs f ih => rw [after_concat, capacity_report, ih]

/-- **The latest failures are remembered,** as many as may be, the oldest in front. -/
theorem recent_after (capacity : Nat) (fs : List Failure) :
    (after capacity fs).recent = fs.rtake (max capacity 1) := by
  obtain ⟨n, hn⟩ := exists_capacity_eq capacity
  rw [hn]
  induction fs using List.reverseRecOn with
  | nil => exact (List.rtake_nil _).symm
  | append_singleton fs f ih =>
      rw [after_concat, recent_report,
        recent_makeRoom_of_rtake ((capacity_after capacity fs).trans hn) ih,
        List.rtake_concat_succ]

/-- **All failures are counted,** as far as the counter goes. -/
theorem count_after (capacity : Nat) (fs : List Failure) :
    (after capacity fs).count = UInt64.ofNat fs.length := by
  induction fs using List.reverseRecOn with
  | nil => rfl
  | append_singleton fs f ih =>
      rw [after_concat, count_report, ih, List.length_append, UInt64.ofNat_add]
      rfl

end Unhandled

open Unhandled

/-! ## Reports that fall between each other -/

/-- A sink that several may report to at once. -/
structure Desk where
  sink : Unhandled
  /-- What was counted and waits for its turn. -/
  waiting : List Failure := []
  /-- What is put down next; room was made for it, and all others wait. -/
  inside : Option Failure := none
  /-- The record: how many failures the sink was to remember, and the reports that are over. -/
  asked : Nat
  filed : List Failure := []

namespace Desk

def ofCapacity (capacity : Nat) : Desk := { sink := .ofCapacity capacity, asked := capacity }

/-- A report begins, and is counted. -/
def count (d : Desk) (f : Failure) : Desk :=
  { d with sink := d.sink.tally, waiting := d.waiting ++ [f] }

/-- It is the turn of one of those that wait, if nobody is inside. -/
def enter (d : Desk) (i : Nat) : Desk :=
  match d.inside, d.waiting[i]? with
  | none, some f =>
    { d with sink := d.sink.makeRoom, waiting := d.waiting.eraseIdx i, inside := some f }
  | _, _ => d

/-- Whoever is inside puts its failure down, and its report is over. -/
def leave (d : Desk) : Desk :=
  match d.inside with
  | none => d
  | some f => { d with sink := d.sink.remember f, inside := none, filed := d.filed ++ [f] }

/-- How many reports are under way. -/
def underway (d : Desk) : Nat := d.waiting.length + d.inside.toList.length

/-- The sink as it would be if the reports that are over had been made one after another. -/
def settled (d : Desk) : Unhandled := after d.asked d.filed

/-- **How a desk stands against its record.** -/
structure Kept (d : Desk) : Prop where
  capacity : d.sink.capacity = max d.asked 1
  count : d.sink.count = d.settled.count + UInt64.ofNat d.underway
  recent : d.sink.recent =
    if d.inside = none then d.settled.recent else d.settled.makeRoom.recent

variable {d : Desk}

lemma kept_ofCapacity (capacity : Nat) : (ofCapacity capacity).Kept where
  capacity := rfl
  count := rfl
  recent := rfl

lemma Kept.capacity_settled (h : d.Kept) : d.sink.capacity = d.settled.capacity :=
  h.capacity.trans (capacity_after d.asked d.filed).symm

/-- While nothing is put down, the sink remembers what the record says. -/
lemma Kept.recent_settled (h : d.Kept) (hinside : d.inside = none) :
    d.sink.recent = d.settled.recent := h.recent.trans (if_pos hinside)

/-- **A report begins.**  What is remembered stays. -/
theorem Kept.counted (h : d.Kept) (f : Failure) : (d.count f).Kept where
  capacity := h.capacity
  count := by
    have hmore : (d.count f).underway = d.underway + 1 := by
      rw [underway, underway, Desk.count, List.length_append, List.length_singleton]
      exact Nat.add_right_comm _ _ _
    rw [hmore, UInt64.ofNat_add, ← UInt64.add_assoc]
    exact congrArg (· + 1) h.count
  recent := h.recent

/-- **A report gets its turn.**  Nobody was inside, so there is room to be made. -/
theorem Kept.entered (h : d.Kept) (i : Nat) : (d.enter i).Kept := by
  rw [enter]
  split
  · rename_i f hinside hwaiting
    have hlt : i < d.waiting.length := (List.getElem?_eq_some_iff.mp hwaiting).1
    refine ⟨(capacity_makeRoom d.sink).trans h.capacity, ?_, ?_⟩
    · have hsame : (d.waiting.eraseIdx i).length + 1 = d.underway := by
        rw [underway, hinside, List.length_eraseIdx_of_lt hlt]
        exact Nat.sub_add_cancel (Nat.one_le_of_lt hlt)
      change d.sink.makeRoom.count
        = d.settled.count + UInt64.ofNat ((d.waiting.eraseIdx i).length + 1)
      rw [count_makeRoom, hsame, h.count]
    · exact recent_makeRoom_congr h.capacity_settled (h.recent_settled hinside)
  · exact h

/-- **A report is over.**  Its failure is the last one of the record. -/
theorem Kept.left (h : d.Kept) : d.leave.Kept := by
  rw [leave]
  split
  · exact h
  · rename_i f hinside
    have hafter : after d.asked (d.filed ++ [f]) = d.settled.report f := after_concat ..
    refine ⟨h.capacity, ?_, ?_⟩
    · have hless : d.underway = d.waiting.length + 1 := by
        rw [underway, hinside]
        rfl
      change d.sink.count
        = (after d.asked (d.filed ++ [f])).count + UInt64.ofNat (d.waiting.length + 0)
      rw [hafter, count_report, h.count, hless, UInt64.ofNat_add, Nat.add_zero, UInt64.add_assoc,
        UInt64.add_comm 1]
      rfl
    · have hrecent : d.sink.recent = d.settled.makeRoom.recent :=
        h.recent.trans (if_neg (by rw [hinside]; rintro ⟨⟩))
      change d.sink.recent ++ [f] = (after d.asked (d.filed ++ [f])).recent
      rw [hafter, recent_report, hrecent]

/-- **What a sink recalls.** -/
structure Recalls (d : Desk) : Prop where
  /-- Never are there more failures than may be, not even while one is put down. -/
  bounded : d.sink.recent.length ≤ max d.asked 1
  /-- Whoever looks, which takes its turn like a report, sees the latest failures as they were
  reported, the oldest in front. -/
  recent : d.inside = none → d.sink.recent = d.filed.rtake (max d.asked 1)
  length : d.inside = none → d.sink.recent.length = min d.filed.length (max d.asked 1)
  /-- Every report that has begun is counted, as far as the counter goes. -/
  count : d.sink.count = UInt64.ofNat (d.filed.length + d.underway)
  /-- When no report is under way, the sink is what reports one after another make of it. -/
  settled : d.underway = 0 → d.sink = d.filed.foldl Unhandled.report (.ofCapacity d.asked)

lemma length_rtake {α : Type} (l : List α) (n : Nat) : (l.rtake n).length = min l.length n := by
  rw [List.rtake, List.length_drop]
  omega

lemma recent_settled (d : Desk) : d.settled.recent = d.filed.rtake (max d.asked 1) :=
  recent_after d.asked d.filed

lemma Kept.recent_rtake (h : d.Kept) (hinside : d.inside = none) :
    d.sink.recent = d.filed.rtake (max d.asked 1) :=
  (h.recent_settled hinside).trans d.recent_settled

/-- While a failure is put down there is one less, so that there is room for it. -/
lemma Kept.length_recent_le (h : d.Kept) : d.sink.recent.length ≤ max d.asked 1 := by
  by_cases hinside : d.inside = none
  · rw [h.recent_rtake hinside, length_rtake]
    exact Nat.min_le_right _ _
  · obtain ⟨n, hn⟩ := exists_capacity_eq d.asked
    have hcapacity : d.settled.capacity = n + 1 := (capacity_after d.asked d.filed).trans hn
    have hrecent : d.settled.recent = d.filed.rtake (n + 1) := hn ▸ d.recent_settled
    rw [hn, h.recent, if_neg hinside, recent_makeRoom_of_rtake hcapacity hrecent, length_rtake]
    omega

/-- Nothing is left to do when no report is under way. -/
lemma Kept.sink_eq (h : d.Kept) (hrest : d.underway = 0) : d.sink = d.settled := by
  have hinside : d.inside = none := by
    cases hi : d.inside with
    | none => rfl
    | some f => rw [underway, hi] at hrest; cases hrest
  have hcount : d.sink.count = d.settled.count := by
    rw [h.count, hrest]
    exact UInt64.add_zero _
  calc d.sink = ⟨d.sink.capacity, d.sink.count, d.sink.recent⟩ := rfl
    _ = ⟨d.settled.capacity, d.settled.count, d.settled.recent⟩ := by
      rw [h.capacity_settled, hcount, h.recent_settled hinside]
    _ = d.settled := rfl

theorem Kept.recalls (h : d.Kept) : d.Recalls where
  bounded := h.length_recent_le
  recent := h.recent_rtake
  length hinside := by rw [h.recent_rtake hinside, length_rtake]
  count := by rw [h.count, settled, count_after, ← UInt64.ofNat_add]
  settled := h.sink_eq

end Desk

/-! ## Handles -/

/-- All sinks, by their numbers, and which one each handle shows. -/
structure Desks where
  desks : List Desk := []
  handles : List Nat := []

/-- What can happen to sinks. -/
inductive Doing where
  /-- A new sink, with a handle. -/
  | make (capacity : Nat)
  /-- Another handle of the same sink. -/
  | clone (handle : Nat)
  /-- A report through a handle begins. -/
  | count (handle : Nat) (f : Failure)
  /-- A report that waits at a sink gets its turn. -/
  | enter (sink i : Nat)
  /-- The report that is inside is over. -/
  | leave (sink : Nat)

namespace Desks

/-- What a handle shows. -/
def shown? (s : Desks) (handle : Nat) : Option Desk := (s.handles[handle]?).bind (s.desks[·]?)

def act (s : Desks) : Doing → Desks
  | .make capacity =>
    { desks := s.desks ++ [.ofCapacity capacity], handles := s.handles ++ [s.desks.length] }
  | .clone handle => { s with handles := s.handles ++ (s.handles[handle]?).toList }
  | .count handle f =>
    match s.handles[handle]? with
    | none => s
    | some n => { s with desks := s.desks.modify n (·.count f) }
  | .enter n i => { s with desks := s.desks.modify n (·.enter i) }
  | .leave n => { s with desks := s.desks.modify n Desk.leave }

def run (doings : List Doing) : Desks := doings.foldl act {}

lemma forall_mem_modify {α : Type} {P : α → Prop} {l : List α} {change : α → α} (n : Nat)
    (h : ∀ a ∈ l, P a) (hchange : ∀ a, P a → P (change a)) : ∀ a ∈ l.modify n change, P a := by
  intro a ha
  obtain ⟨i, hi⟩ := List.mem_iff_getElem?.mp ha
  rw [List.getElem?_modify] at hi
  obtain ⟨b, hb, rfl⟩ := Option.map_eq_some_iff.mp hi
  have hkept := h b (List.mem_of_getElem? hb)
  split
  · exact hchange b hkept
  · exact hkept

/-- Whatever happens keeps every sink as its record says. -/
theorem kept_act {s : Desks} (h : ∀ d ∈ s.desks, d.Kept) (doing : Doing) :
    ∀ d ∈ (s.act doing).desks, d.Kept := by
  cases doing with
  | make capacity =>
      intro d hd
      rcases List.mem_append.mp hd with hd | hd
      · exact h d hd
      · cases List.mem_singleton.mp hd
        exact Desk.kept_ofCapacity capacity
  | clone handle => exact h
  | count handle f =>
      rw [act]
      split
      · exact h
      · exact forall_mem_modify _ h fun d hd => hd.counted f
  | enter n i => exact forall_mem_modify n h fun d hd => hd.entered i
  | leave n => exact forall_mem_modify n h fun d hd => hd.left

lemma kept_run (doings : List Doing) : ∀ d ∈ (run doings).desks, d.Kept := by
  induction doings using List.reverseRecOn with
  | nil => rintro d ⟨⟩
  | append_singleton doings doing ih =>
      rw [run, List.foldl_concat]
      exact kept_act ih doing

/-- **A sink recalls the latest failures, and counts them all,** whoever reports through which
handle, and however the reports fall between each other. -/
theorem recalls_run (doings : List Doing) (handle : Nat) (d : Desk)
    (h : (run doings).shown? handle = some d) : d.Recalls := by
  obtain ⟨n, -, hd⟩ := Option.bind_eq_some_iff.mp h
  exact (kept_run doings d (List.mem_of_getElem? hd)).recalls

/-- Three reports through a handle and its clone; the second is the first to get its turn. -/
def twoHandles : List Doing :=
  let f (text : String) : Failure := .pipeline text
  [.make 2, .clone 0, .count 0 (f "a"), .count 1 (f "b"), .enter 0 1, .count 0 (f "c"), .leave 0,
    .enter 0 0, .leave 0, .enter 0 0, .leave 0]

/-- Both handles show the last two that were put down, and that there were three. -/
theorem recalls_of_twoHandles : ∃ d,
    (run twoHandles).shown? 0 = some d ∧ (run twoHandles).shown? 1 = some d ∧
      d.filed = [.pipeline "b", .pipeline "a", .pipeline "c"] ∧
      d.sink.recent = [.pipeline "a", .pipeline "c"] ∧ d.sink.count = 3 ∧ d.Recalls :=
  ⟨_, rfl, rfl, rfl, rfl, rfl, recalls_run twoHandles 0 _ rfl⟩

end Desks

end DeviceLink
