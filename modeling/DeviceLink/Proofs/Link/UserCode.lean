import DeviceLink.Link.Shutdown
import DeviceLink.Proofs.Dispatch.Chronicle
import DeviceLink.Proofs.Link.Delivery
import DeviceLink.Proofs.Link.Reckoning

/-!
# The user's code, in order and by itself

The root hands callbacks and events to the callback worker, which runs them one after the other.
Whatever a piece of the user's code does, the next one runs; and what nobody waits for is in the
sink, failure by failure.

* `Handing` — what is handed to the root, with the failures that were recorded in an operation.
* `Handing.due`, `Handing.loss` — the user's code that has to run for it, or the failure that is
  reported instead.
* `Beat`, `Link.beats` — what happens to the root and its callback worker, and a run.
* `Recital` — what an observer has written down.
* **`Link.Isolates`** — what is promised of the user's code.
* **`isolates_beats`** — so it is in every run, and the worker comes to rest by itself.
-/

namespace DeviceLink

open Dispatch

/-! ## Mailboxes and the order to stop -/

namespace Dispatch

namespace Mailbox

variable {J : Type}

lemma ahead_map_run (js : List J) : ahead (js.map .run) = js := by
  induction js with
  | nil => rfl
  | cons j js ih => exact congrArg (j :: ·) ih

/-- What is sent behind the order to stop comes too late. -/
lemma ahead_append_of_mem {commands : List (Command J)} (h : .stop ∈ commands)
    (more : List (Command J)) : ahead (commands ++ more) = ahead commands := by
  induction commands with
  | nil => cases h
  | cons command rest ih =>
      cases command with
      | stop => rfl
      | run j =>
          have hrest : .stop ∈ rest := by simpa using h
          exact congrArg (j :: ·) (ih hrest)

lemma ahead_append_of_not_mem {commands : List (Command J)} (h : .stop ∉ commands)
    (more : List (Command J)) : ahead (commands ++ more) = ahead commands ++ ahead more := by
  induction commands with
  | nil => rfl
  | cons command rest ih =>
      rw [List.mem_cons, not_or] at h
      cases command with
      | stop => exact (h.1 rfl).elim
      | run j => exact congrArg (j :: ·) (ih h.2)

lemma grows_offer (m : Mailbox J) (js : List J) :
    Grows m (m.offer js) (if m.phase = .exited then [] else js.map .run) := by
  obtain ⟨queue, phase, joinable⟩ := m
  cases phase with
  | running | stopped => exact ⟨rfl, rfl, by rintro ⟨⟩⟩
  | exited => exact ⟨(List.append_nil _).symm, rfl, fun _ => rfl⟩

end Mailbox

variable {J : Type} {box rest : Mailbox J} {commands : List (Command J)} {begun : List J}

/-- The worker takes a job. -/
lemma InOrder.job (h : InOrder box commands begun) {j : J} (hturn : box.turn = .job j rest) :
    InOrder rest commands (begun ++ [j]) := by
  obtain ⟨queue, phase, joinable⟩ := box
  cases h with
  | running hphase h =>
      cases hphase
      rcases queue with _ | ⟨_ | _, queue⟩ <;> cases hturn
      exact .running rfl (by rw [h, List.map_append, List.append_assoc]; rfl)
  | stopped hphase _ | exited hphase _ _ _ =>
      cases hphase
      cases hturn

/-- The worker takes the order to stop, or goes. -/
lemma InOrder.leaves (h : InOrder box commands begun) (hleaves : box.Leaves rest) :
    InOrder rest commands begun := by
  obtain ⟨queue, phase, joinable⟩ := box
  cases h with
  | running hphase h =>
      cases hphase
      rcases queue with _ | ⟨_ | _, queue⟩ <;> rcases hleaves with hturn | ⟨_, hturn⟩ <;>
        cases hturn
      exact .stopped rfl h
  | stopped hphase h =>
      cases hphase
      rcases hleaves with hturn | ⟨_, hturn⟩ <;> cases hturn
      exact .exited rfl rfl _ h
  | exited hphase _ _ _ =>
      cases hphase
      rcases hleaves with hturn | ⟨_, hturn⟩ <;> cases hturn

/-- A worker that finds nothing to do has begun all that was sent ahead of the order to stop. -/
lemma InOrder.eq_ahead_of_idle (h : InOrder box commands begun) (hturn : box.turn = .none) :
    begun = Mailbox.ahead commands := by
  obtain ⟨queue, phase, joinable⟩ := box
  cases h with
  | running hphase h =>
      cases hphase
      rcases queue with _ | ⟨_ | _, queue⟩ <;> cases hturn
      rw [h, List.append_nil, Mailbox.ahead_map_run]
  | stopped hphase _ =>
      cases hphase
      cases hturn
  | exited hphase hqueue rest h =>
      exact ((InOrder.exited hphase hqueue rest h).eq_ahead (by rw [hphase]; decide)).2

end Dispatch

/-! ## What is handed to the root -/

/-- **A call of the root.**  An operation comes with the failures that were recorded in it, oldest
first. -/
inductive Handing (κ : Type) where
  /-- The operation is over. -/
  | complete (id : Nat) (request : Request) (callback : Option κ) (failures : List Failure)
  /-- No stage was there for the operation. -/
  | pass (id : Nat) (request : Request) (callback : Option κ) (failures : List Failure)
  | event (e : Event)
  | connectivity (up : Bool)

namespace Handing

variable {κ : Type}

/-- An operation in which failures were recorded one after the other. -/
def recorded (id : Nat) (request : Request) (callback : Option κ) (failures : List Failure) :
    Operation κ :=
  failures.foldl Operation.fail { id, request, callback }

def call : Handing κ → ChainCall κ
  | complete id request callback failures => .complete (recorded id request callback failures)
  | pass id request callback failures => .pass (recorded id request callback failures)
  | event e => .event e
  | connectivity true => .connected
  | connectivity false => .disconnected

/-- The last failure counts; without one all went well. -/
def verdict (failures : List Failure) : Outcome :=
  match failures.getLast? with
  | some f => .error f
  | none => .ok ()

def strayed (request : Request) : Failure :=
  .pipeline s!"{request.name} not handled by any stage in the pipeline"

/-- **The user's code that has to run.** -/
def due (listens : Bool) : Handing κ → Option (UserCall κ)
  | complete id request callback failures =>
    callback.map fun k => .completion id request.name k (verdict failures)
  | pass id request callback _ =>
    callback.map fun k => .completion id request.name k (.error (strayed request))
  | event e => if listens then some (.event e) else none
  | connectivity _ => none

/-- **The failure that is reported**, for want of somebody who is told. -/
def loss : Handing κ → Option Failure
  | complete _ _ none failures => failures.getLast?
  | pass _ request none _ => some (strayed request)
  | complete _ _ (some _) _ | pass _ _ (some _) _ | event _ | connectivity _ => none

/-- Of all failures an operation keeps the last one. -/
lemma recorded_eq (id : Nat) (request : Request) (callback : Option κ) (failures : List Failure) :
    recorded id request callback failures =
      { id, request, callback, error := failures.getLast? } := by
  suffices hall : ∀ op : Operation κ, failures.foldl Operation.fail op =
      { op with error := failures.getLast?.or op.error } by
    rw [recorded, hall, Option.or_none]
  induction failures with
  | nil => intro op; rfl
  | cons f rest ih =>
      intro op
      rw [List.foldl_cons, ih, List.getLast?_cons]
      cases rest.getLast? <;> rfl

lemma outcome_recorded (id : Nat) (request : Request) (callback : Option κ)
    (failures : List Failure) :
    (recorded id request callback failures).outcome = verdict failures := by
  refine (congrArg Operation.outcome (recorded_eq id request callback failures)).trans ?_
  unfold Operation.outcome verdict
  cases failures.getLast? <;> rfl

end Handing

/-! ## What the root does -/

namespace Root

variable {κ : Type}

/-- The user's code that the root calls for. -/
lemma calls_handle (r : Root) (h : Handing κ) :
    Link.calls (r.handle h.call).2 = (h.due r.listens).toList := by
  cases h with
  | complete id request callback failures =>
      rw [Handing.call, handle, Link.calls_complete, Handing.outcome_recorded,
        Handing.recorded_eq, Handing.due]
      cases callback <;> rfl
  | pass id request callback failures =>
      have hpass (op : Operation κ) :
          Link.calls (pass op) = Link.calls (complete (op.fail (notHandled op))) := rfl
      rw [Handing.call, handle, hpass, Link.calls_complete, Handing.recorded_eq, Handing.due]
      cases callback <;> rfl
  | event e =>
      rw [Handing.call, handle, event, Handing.due]
      cases r.listens <;> rfl
  | connectivity up =>
      cases up <;> rw [Handing.call, handle, publish, changeLines] <;> split <;> rfl

/-- The failures that the root reports. -/
lemma spilt_handle (r : Root) (h : Handing κ) :
    spilt (r.handle h.call).2 = h.loss.toList := by
  cases h with
  | complete id request callback failures =>
      rw [Handing.call, handle, spilt_complete, Handing.recorded_eq]
      cases callback <;> rfl
  | pass id request callback failures =>
      have hpass (op : Operation κ) :
          spilt (pass op) = spilt (complete (op.fail (notHandled op))) := rfl
      rw [Handing.call, handle, hpass, spilt_complete, Handing.recorded_eq]
      cases callback <;> rfl
  | event e =>
      rw [Handing.call, handle, event]
      cases r.listens <;> rfl
  | connectivity up =>
      cases up <;> rw [Handing.call, handle, publish, changeLines] <;> split <;> rfl

end Root

/-! ## Runs -/

/-- One thing that happens to the root and the callback worker. -/
inductive Beat (κ : Type) where
  /-- The root is called on the pipeline context. -/
  | hand (h : Handing κ)
  /-- The callback worker goes on with its mailbox. -/
  | begin
  /-- The user's code returns, or panics. -/
  | finish (panic : Option String)
  /-- The callback worker is told to stop. -/
  | stop

namespace Beat

variable {κ : Type}

def handing? : Beat κ → Option (Handing κ)
  | hand h => some h
  | begin | finish _ | stop => none

def stops : Beat κ → Bool
  | stop => true
  | hand _ | begin | finish _ => false

def panic? : Beat κ → Option String
  | finish panic => panic
  | hand _ | begin | stop => none

/-- The name of the code that ran: a callback has that of its operation, with its number. -/
def source : UserCall κ → String
  | .completion id name _ _ => "completion callback of " ++ name ++ "[" ++ toString id ++ "]"
  | .event (.incomingMessage _ _) => "IncomingMessage event handler"

/-- The failure that nobody waits for: a panic has the name of the code that ran. -/
def loss (user : Option (UserCall κ)) : Beat κ → Option Failure
  | hand h => h.loss
  | finish (some message) => user.map fun c => .pipeline (source c ++ " panicked: " ++ message)
  | finish none | begin | stop => none

end Beat

/-- The failure that a panic is reported as. -/
lemma UserCall.panicked_eq {κ : Type} (c : UserCall κ) (message : String) :
    c.panicked message = .pipeline (Beat.source c ++ " panicked: " ++ message) := by
  cases c with
  | completion id name callback outcome => rfl
  | event e => cases e; rfl

/-- **What an observer writes down.** -/
structure Recital (κ : Type) where
  /-- What was handed to the root before the callback worker was told to stop. -/
  handed : List (Handing κ) := []
  /-- It was told to stop. -/
  stopped : Bool := false
  /-- The user's code that was begun, oldest first. -/
  begun : List (UserCall κ) := []
  /-- The user's code that has ended, with its panic if there was one. -/
  ended : List (UserCall κ × Option String) := []
  /-- The failures that nobody waits for, oldest first. -/
  lost : List Failure := []

namespace Recital

variable {κ ω : Type}

/-- The user's code that has to run, in that order. -/
def due (g : Recital κ) (listens : Bool) : List (UserCall κ) :=
  g.handed.filterMap (Handing.due listens)

def note (b : Beat κ) (before after : Link κ ω) (g : Recital κ) : Recital κ where
  handed := g.handed ++ if g.stopped then [] else b.handing?.toList
  stopped := g.stopped || b.stops
  begun := g.begun ++ if before.user.isNone then after.user.toList else []
  ended :=
    g.ended ++ if after.user.isNone then before.user.toList.map (·, b.panic?) else []
  lost := g.lost ++ (b.loss before.user).toList

variable {l l' : Link κ ω} {g : Recital κ}

lemma note_hand (h : Handing κ) (huser : l'.user = l.user) :
    g.note (.hand h) l l' =
      { g with
        handed := g.handed ++ if g.stopped then [] else [h]
        lost := g.lost ++ h.loss.toList } := by
  rw [note, huser]
  cases l.user <;> simp [Beat.handing?, Beat.stops, Beat.loss]

lemma note_begin (huser : l.user = none) :
    g.note .begin l l' = { g with begun := g.begun ++ l'.user.toList } := by
  rw [note, huser]
  cases l'.user <;> simp [Beat.handing?, Beat.stops, Beat.loss]

lemma note_finish {panic : Option String} (huser : l'.user = none) :
    g.note (.finish panic) l l' =
      { g with
        ended := g.ended ++ l.user.toList.map (·, panic)
        lost := g.lost ++ ((Beat.finish panic).loss l.user).toList } := by
  rw [note, huser]
  cases l.user <;> simp [Beat.handing?, Beat.stops, Beat.panic?]

lemma note_stop (huser : l'.user = l.user) :
    g.note .stop l l' = { g with stopped := true } := by
  rw [note, huser]
  cases l.user <;> simp [Beat.handing?, Beat.stops, Beat.loss]

end Recital

namespace Link

variable {κ ω : Type}

/-- The root is called by code that says where it is. -/
def hand (l : Link κ ω) (o : Origin) (c : ChainCall κ) : Except String (Link κ ω) :=
  (l.root.receive o c).map fun r => r.2.foldl effect { l with root := r.1 }

/-- **One thing happens**; what cannot happen changes nothing. -/
def beat (l : Link κ ω) : Beat κ → Link κ ω
  | .hand h => ((l.hand (.on .pipeline) h.call).toOption).getD l
  | .begin => l.beginUser.getD l
  | .finish panic => l.endUser panic
  | .stop => l.order .callback

/-- **A run**, with what the observer has written down. -/
def beats (l : Link κ ω) (g : Recital κ) : List (Beat κ) → Link κ ω × Recital κ :=
  runWith (fun l b => some (l.beat b)) id (fun b l next g => g.note b l next) (l, g)

/-- The callback worker has nothing to do. -/
def Rests (l : Link κ ω) : Prop := l.user = none ∧ l.beginUser = none

/-- **What is promised of the user's code.** -/
structure Isolates (listens : Bool) (sink : Unhandled) (l : Link κ ω) (g : Recital κ) : Prop where
  /-- It is begun in the order of the calls, once for each. -/
  order : g.begun <+: g.due listens
  /-- One piece runs at a time, and all but the one that runs have ended. -/
  turns : g.ended.map Prod.fst ++ l.user.toList = g.begun
  /-- The sink has been told of each failure that nobody waits for, and of nothing else. -/
  reports : l.sink = g.lost.foldl Unhandled.report sink
  /-- Before the worker rests, all of it has run. -/
  complete : l.Rests → g.ended.map Prod.fst = g.due listens

/-! ## One step -/

/-- What stands in the mailbox, in view of what was handed to the root. -/
structure Recites (listens : Bool) (sink : Unhandled) (l : Link κ ω) (g : Recital κ) : Prop where
  root : l.root.listens = listens
  mailbox : ∃ commands, InOrder l.outbox commands g.begun ∧
    Mailbox.ahead commands = g.due listens ∧ (g.stopped = true ↔ .stop ∈ commands)
  turns : g.ended.map Prod.fst ++ l.user.toList = g.begun
  reports : l.sink = g.lost.foldl Unhandled.report sink

variable {l : Link κ ω} {g : Recital κ} {listens : Bool} {sink : Unhandled}

lemma recites_start (l : Link κ ω) :
    Recites l.root.listens l.sink { l with outbox := {}, user := none } ({} : Recital κ) where
  root := rfl
  mailbox := ⟨[], .running rfl rfl, rfl, by simp⟩
  turns := rfl
  reports := rfl

/-- The root sends what is due to the callback worker, and reports what is lost. -/
lemma exists_beat_hand (l : Link κ ω) (h : Handing κ) :
    ∃ root log, l.beat (.hand h) =
      { l with
        root, log
        outbox := l.outbox.offer (h.due l.root.listens).toList
        sink := h.loss.toList.foldl Unhandled.report l.sink } ∧
      root.listens = l.root.listens := by
  have hbeat : l.beat (.hand h) =
      (l.root.handle h.call).2.foldl effect { l with root := (l.root.handle h.call).1 } := rfl
  obtain ⟨log, sink, heq⟩ :=
    exists_foldl_effect (l.root.handle h.call).2 { l with root := (l.root.handle h.call).1 }
  have hsink := sink_foldl_effect (l.root.handle h.call).2
    { l with root := (l.root.handle h.call).1 }
  rw [heq, Root.spilt_handle] at hsink
  refine ⟨_, log, ?_, l.root.listens_handle h.call⟩
  rw [hbeat, heq, Root.calls_handle, ← hsink]

/-- **The root is called:** what is due comes in behind all that was due, unless the worker was told
to stop. -/
lemma Recites.hand (hr : Recites listens sink l g) (h : Handing κ) :
    Recites listens sink (l.beat (.hand h)) (g.note (.hand h) l (l.beat (.hand h))) := by
  obtain ⟨root, log, hbeat, hroot⟩ := exists_beat_hand l h
  obtain ⟨commands, horder, hahead, hstop⟩ := hr.mailbox
  have hgrows := l.outbox.grows_offer (h.due l.root.listens).toList
  have huser : (l.beat (.hand h)).user = l.user := by rw [hbeat]
  rw [Recital.note_hand h huser, hbeat]
  refine ⟨hroot.trans hr.root, ⟨_, horder.grows hgrows, ?_, ?_⟩, hr.turns, ?_⟩
  · cases hs : g.stopped with
    | true =>
        rw [Mailbox.ahead_append_of_mem (hstop.mp hs), hahead, if_pos rfl, List.append_nil]
        rfl
    | false =>
        have hnone : .stop ∉ commands := fun hmem => by simp [hstop.mpr hmem] at hs
        -- a worker that is gone was told to stop
        have hphase : l.outbox.phase ≠ .exited :=
          fun hphase => hnone (horder.eq_ahead (by rw [hphase]; decide)).1
        rw [Mailbox.ahead_append_of_not_mem hnone, if_neg hphase, Mailbox.ahead_map_run, hahead,
          hr.root]
        simp only [Recital.due, Bool.false_eq_true, if_false, List.filterMap_append]
        cases hdue : h.due listens <;> simp [hdue]
  · refine hstop.trans ⟨List.mem_append_left _, fun hmem => ?_⟩
    rcases List.mem_append.mp hmem with hmem | hmem
    · exact hmem
    · split at hmem
      · cases hmem
      · simp at hmem
  · rw [List.foldl_append, ← hr.reports]

/-- **The callback worker goes on:** it takes what is next, and nothing is lost. -/
lemma Recites.begin (hr : Recites listens sink l g) :
    Recites listens sink (l.beat .begin) (g.note .begin l (l.beat .begin)) := by
  obtain ⟨commands, horder, hahead, hstop⟩ := hr.mailbox
  cases huser : l.user with
  | some c =>
      have hbeat : l.beat .begin = l := by rw [beat, beginUser, huser]; rfl
      have hnote : g.note .begin l l = g := by
        simp [Recital.note, huser, Beat.handing?, Beat.stops, Beat.loss]
      rw [hbeat, hnote]
      exact hr
  | none =>
      rw [Recital.note_begin huser, beat, beginUser, huser]
      rcases l.outbox.turn_cases with hturn | ⟨c, rest, -, -, hturn⟩ | ⟨left, hleaves⟩
      · simp only [hturn, Option.getD_none, huser, Option.toList_none, List.append_nil]
        exact hr
      · simp only [hturn, Option.getD_some]
        refine ⟨hr.root, ⟨commands, horder.job hturn, hahead, hstop⟩, ?_, hr.reports⟩
        have hturns := hr.turns
        rw [huser] at hturns
        exact congrArg (· ++ [c]) ((List.append_nil _).symm.trans hturns)
      · have hrest := horder.leaves hleaves
        rcases hleaves with hturn | ⟨dropped, hturn⟩ <;>
          simp only [hturn, Option.getD_some, write, Option.toList_none, List.append_nil] <;>
          exact ⟨hr.root, ⟨commands, hrest, hahead, hstop⟩, huser ▸ hr.turns, hr.reports⟩

/-- A panic is reported under the name of the code that ran. -/
lemma exists_beat_finish (l : Link κ ω) (panic : Option String) :
    ∃ log, l.beat (.finish panic) =
      { l with
        log
        user := none
        sink := ((Beat.finish panic).loss l.user).toList.foldl Unhandled.report l.sink } := by
  obtain ⟨activity, root, sink, inbox, outbox, kept, user, world, nextId, log⟩ := l
  cases user with
  | none => cases panic <;> exact ⟨_, rfl⟩
  | some c =>
      cases panic with
      | none => exact ⟨_, rfl⟩
      | some message =>
          rw [Beat.loss, Option.map_some, ← c.panicked_eq]
          exact ⟨_, rfl⟩

/-- **The user's code ends:** a panic is reported, and whatever waits still waits. -/
lemma Recites.finish (hr : Recites listens sink l g) (panic : Option String) :
    Recites listens sink (l.beat (.finish panic))
      (g.note (.finish panic) l (l.beat (.finish panic))) := by
  obtain ⟨log, hbeat⟩ := exists_beat_finish l panic
  have hnone : (l.beat (.finish panic)).user = none := congrArg user hbeat
  rw [Recital.note_finish hnone, hbeat]
  refine ⟨hr.root, hr.mailbox, ?_, ?_⟩
  · rw [← hr.turns]
    cases l.user <;> simp
  · rw [List.foldl_append, ← hr.reports]

/-- **The callback worker is told to stop:** what is due stays due. -/
lemma Recites.stop (hr : Recites listens sink l g) :
    Recites listens sink (l.beat .stop) (g.note .stop l (l.beat .stop)) := by
  obtain ⟨commands, horder, hahead, hstop⟩ := hr.mailbox
  have huser : (l.beat .stop).user = l.user := rfl
  rw [Recital.note_stop huser]
  refine ⟨hr.root, ⟨_, horder.grows (grows_order l.outbox), ?_, ?_⟩, hr.turns, hr.reports⟩
  · refine Eq.trans ?_ hahead
    by_cases hmem : .stop ∈ commands
    · exact Mailbox.ahead_append_of_mem hmem _
    · rw [Mailbox.ahead_append_of_not_mem hmem]
      split <;> exact List.append_nil _
  · refine ⟨fun _ => ?_, fun _ => rfl⟩
    split
    · next hphase =>
        exact List.mem_append_left _ (horder.eq_ahead (by rw [hphase]; decide)).1
    · exact List.mem_append_right _ List.mem_cons_self

/-- **Whatever happens**, the mailbox holds what is due. -/
lemma Recites.beat (hr : Recites listens sink l g) (b : Beat κ) :
    Recites listens sink (l.beat b) (g.note b l (l.beat b)) := by
  cases b with
  | hand h => exact hr.hand h
  | begin => exact hr.begin
  | finish panic => exact hr.finish panic
  | stop => exact hr.stop

lemma Recites.beats (hr : Recites listens sink l g) (bs : List (Beat κ)) :
    Recites listens sink (l.beats g bs).1 (l.beats g bs).2 := by
  refine runWith_induction (Recites listens sink) ?_ hr
  rintro b - l g next hg hs
  cases hs
  exact hg.beat b

/-- A worker that rests has run all that is due. -/
lemma Recites.isolates (hr : Recites listens sink l g) : Isolates listens sink l g := by
  obtain ⟨commands, horder, hahead, -⟩ := hr.mailbox
  refine ⟨hahead ▸ horder.prefix_ahead, hr.turns, hr.reports, fun hrests => ?_⟩
  obtain ⟨huser, hidle⟩ := hrests
  have hturn : l.outbox.turn = .none := by
    rw [beginUser, huser] at hidle
    cases hturn : l.outbox.turn <;> rw [hturn] at hidle <;> first | rfl | cases hidle
  have hturns := hr.turns
  rw [huser, Option.toList_none, List.append_nil] at hturns
  rw [hturns, ← hahead, horder.eq_ahead_of_idle hturn]

/-! ## The worker by itself -/

/-- What the callback worker does next when nobody else does anything, given what the user's code
comes to. -/
def next (ends : UserCall κ → Option String) (l : Link κ ω) : Beat κ :=
  match l.user with
  | some c => .finish (ends c)
  | none => .begin

/-- What it does in so many steps. -/
def alone (ends : UserCall κ → Option String) : Nat → Link κ ω → List (Beat κ)
  | 0, _ => []
  | n + 1, l => l.next ends :: alone ends n (l.beat (l.next ends))

/-- The work that is left: twice for each job, as it is begun and ended. -/
def toil (l : Link κ ω) : Nat :=
  2 * l.outbox.queue.length + l.user.toList.length +
    match l.outbox.phase with
    | .running => 2
    | .stopped => 1
    | .exited => 0

/-- A worker that takes the order to stop, or goes, has less to do. -/
lemma toil_leaves {box left : Mailbox (UserCall κ)} (h : box.Leaves left)
    (hbox : l.outbox = box) : ({ l with outbox := left } : Link κ ω).toil < l.toil := by
  obtain ⟨queue, phase, joinable⟩ := box
  rw [toil, toil, hbox]
  cases phase with
  | running =>
      rcases queue with _ | ⟨_ | _, queue⟩ <;> rcases h with h | ⟨_, h⟩ <;> cases h
      simp only [List.length_cons]
      omega
  | stopped =>
      rcases h with h | ⟨_, h⟩ <;> cases h
      simp only [List.length_nil]
      omega
  | exited => rcases h with h | ⟨_, h⟩ <;> cases h

/-- **The worker goes on** until it rests. -/
lemma toil_next (ends : UserCall κ → Option String) (h : ¬ l.Rests) :
    (l.beat (l.next ends)).toil < l.toil := by
  cases huser : l.user with
  | some c =>
      obtain ⟨log, hbeat⟩ := exists_beat_finish l (ends c)
      rw [next, huser, hbeat, toil, toil, huser]
      simp
  | none =>
      rw [next, huser, beat, beginUser, huser]
      rcases l.outbox.turn_cases with hturn | ⟨c, rest, -, hqueue, hturn⟩ | ⟨left, hleaves⟩
      · exact (h ⟨huser, by rw [beginUser, huser, hturn]⟩).elim
      · simp only [hturn, Option.getD_some, toil, huser, hqueue]
        simp
        omega
      · have hless := toil_leaves hleaves rfl
        rw [toil, huser] at hless
        rcases hleaves with hturn | ⟨dropped, hturn⟩ <;> rw [hturn] <;> exact hless

/-- **The worker comes to rest**, whatever the user's code comes to. -/
lemma exists_rests (ends : UserCall κ → Option String) (l : Link κ ω) (g : Recital κ) :
    ∃ n, (l.beats g (l.alone ends n)).1.Rests := by
  induction htoil : l.toil using Nat.strong_induction_on generalizing l g with
  | _ toil ih =>
      by_cases hrests : l.Rests
      · exact ⟨0, hrests⟩
      · obtain ⟨n, hn⟩ := ih _ (htoil ▸ toil_next ends hrests) _ _ rfl
        exact ⟨n + 1, hn⟩

/-- By itself the worker is handed nothing. -/
lemma handed_alone (ends : UserCall κ → Option String) (n : Nat) (l : Link κ ω) (g : Recital κ) :
    (l.beats g (l.alone ends n)).2.handed = g.handed := by
  induction n generalizing l g with
  | zero => rfl
  | succ n ih =>
      refine (ih _ _).trans ?_
      rw [next]
      cases l.user <;> simp [Recital.note, Beat.handing?]

/-- **The user's code is isolated and in order**, in every run in which a callback worker starts
afresh, and whatever was handed to the root ahead of the order to stop is run by the worker by
itself. -/
theorem isolates_beats (l : Link κ ω) (bs : List (Beat κ)) :
    let r := beats { l with outbox := {}, user := none } {} bs
    Isolates l.root.listens l.sink r.1 r.2 ∧
      ∀ ends, ∃ n, let s := r.1.beats r.2 (r.1.alone ends n)
        s.1.Rests ∧ s.2.ended.map Prod.fst = r.2.due l.root.listens := by
  intro r
  have hr : Recites l.root.listens l.sink r.1 r.2 := (recites_start l).beats bs
  refine ⟨hr.isolates, fun ends => ?_⟩
  obtain ⟨n, hrests⟩ := exists_rests ends r.1 r.2
  refine ⟨n, hrests, ?_⟩
  rw [(hr.beats (r.1.alone ends n)).isolates.complete hrests, Recital.due, handed_alone]
  rfl

/-- The first callback panics, and the second one is told all the same that nobody has handled its
operation. -/
example :
    let l : Link Nat Unit :=
      { activity := { stage := .new "stage" }, root := { listens := true }, sink := .ofCapacity 8
        world := () }
    let r := l.beats {}
      [.hand (.complete 1 .connect (some 7) []), .hand (.pass 2 .connect (some 8) []), .begin,
        .finish (some "oops"), .begin, .finish none]
    r.2.ended = [(.completion 1 "Connect" 7 (.ok ()), some "oops"),
      (.completion 2 "Connect" 8
        (.error (.pipeline "Connect not handled by any stage in the pipeline")), none)] ∧
      r.1.sink.recent = [.pipeline "completion callback of Connect[1] panicked: oops"] := by
  decide

end Link

end DeviceLink
