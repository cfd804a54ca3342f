import DeviceLink.Proofs.Link.Course
import DeviceLink.Proofs.Stage.Failures

/-!
# A docket of failures

Failures are made by sessions and by the factory, by the stage and the root, and by the user's code
that panics.  An observer enters each one with where it comes from when it is made, and again when
it is told to a callback, recorded by the sink, or dropped with an acknowledgement that nobody waits
for.

* `Affair`, `Link.pursue` — what may happen to a link whose operations need no callback, and a run.
* `Source`, `Source.Makes` — where failures come from.
* `Docket`, `Docket.note` — the record of a run.
* `Docket.settled` — the failures that have come to where they stay.
* `Docket.Carries` — entries that lose nothing and double nothing.
* **`carries_take`**, **`carries_move`** — so it is with whatever the root takes, and with every
  move of the stage.
* `Docket.Attended`, **`Attended.move`** — requests wait or were answered, after every move.
-/

namespace DeviceLink

open Dispatch

variable {κ ω ε γ : Type}

/-! ## What happens -/

/-- One thing that happens to a link, to which operations may come without a callback. -/
inductive Affair (κ ε : Type) where
  | bring (request : Request) (callback : Option κ)
  | happening (h : Happening κ ε)

namespace Link

/-- **One thing happens**, if it can happen. -/
def pursues (W : World ω ε) (l : Link κ ω) : Affair κ ε → Option (Link κ ω)
  | .bring request callback => some (l.bring request callback)
  | .happening h => l.happens W h

/-- **A run**, with the record of an observer.  What cannot happen is passed over. -/
def pursue (W : World ω ε) (note : Affair κ ε → Link κ ω → Link κ ω → γ → γ) :
    Link κ ω × γ → List (Affair κ ε) → Link κ ω × γ :=
  runWith (pursues W) id note

variable {W : World ω ε} {l l' : Link κ ω}

lemma Steady.pursues (h : l.Steady) {affair : Affair κ ε} (hs : l.pursues W affair = some l') :
    l'.Steady := by
  cases affair with
  | bring request callback =>
      cases hs
      exact h.bring request callback
  | happening happening => exact h.happens hs

end Link

/-! ## The docket -/

/-- Where a failure comes from. -/
inductive Source where
  /-- A session has returned or reported it, or the factory has returned it. -/
  | session
  | stage
  | root
  /-- A piece of the user's code has panicked. -/
  | user
  deriving DecidableEq

/-- What the failures of a source are. -/
def Source.Makes (κ : Type) : Source → Failure → Prop
  | session, _ => True
  | stage, f => Homemade κ f
  | root, f => ∃ op : Operation κ, f = Root.notHandled op
  | user, f => ∃ (c : UserCall κ) (message : String), f = c.panicked message

/-- A failure with where it comes from. -/
abbrev Charge := Source × Failure

/-- What the sink records. -/
inductive Sunk (κ : Type) where
  /-- A failure that a session has reported and nobody waits for. -/
  | alone (f : Failure)
  /-- The outcome of an operation. -/
  | outcome (source : Source) (op : Operation κ) (f : Failure)
  /-- The panic of a piece of the user's code. -/
  | panic (c : UserCall κ) (message : String)

namespace Sunk

def charge : Sunk κ → Charge
  | alone f => (.session, f)
  | outcome source _ f => (source, f)
  | panic c message => (.user, c.panicked message)

/-- An outcome is recorded of an operation that has failed and has no callback. -/
def Proper : Sunk κ → Prop
  | outcome _ op f => op.callback = none ∧ op.outcome = .error f
  | alone _ | panic _ _ => True

end Sunk

/-- The failure that a callback is told. -/
def UserCall.failure? : UserCall κ → Option Failure
  | completion _ _ _ (.error f) => some f
  | completion _ _ _ (.ok ()) | event _ => none

/-- The failure of an acknowledgement that nobody waited for when it was taken. -/
structure Stray where
  /-- The number under which it came. -/
  id : Nat
  failure : Failure
  /-- A session had been called under that number before. -/
  known : Bool

/-- The record of a run. -/
structure Docket (κ : Type) where
  /-- Every failure that was made. -/
  made : List Charge := []
  /-- Where the failure comes from that the operation which is just over has failed with. -/
  source : Source := .session
  /-- Every call for the callback worker, and where the failure comes from that it is told. -/
  called : List (Source × UserCall κ) := []
  /-- The calls that have begun to run. -/
  begun : List (UserCall κ) := []
  /-- What the sink has recorded. -/
  sunk : List (Sunk κ) := []
  /-- The requests, by their numbers, for which a session was called. -/
  asked : List Nat := []
  /-- Those that were acknowledged while they waited, or refused by the session. -/
  answered : List Nat := []
  strays : List Stray := []

/-- The failures that nobody waits for, as the root reports them. -/
def Root.spilt (effects : List (RootEffect κ)) : List Failure :=
  effects.filterMap fun
    | .unhandled f => some f
    | .log _ | .user _ => none

namespace Docket

/-- A session reports or returns failures, or the factory does. -/
def produce (g : Docket κ) (fs : List Failure) : Docket κ :=
  { g with made := g.made ++ fs.map (.session, ·) }

/-- The root ends an operation whose failure, if it has one, comes from some source. -/
def finish (g : Docket κ) (source : Source) (op : Operation κ) : Docket κ :=
  { g with
    called := g.called ++ (Link.calls (Root.complete op)).map (source, ·)
    sunk := g.sunk ++ (Root.spilt (Root.complete op)).map (.outcome source op) }

/-- The root takes what it is handed. -/
def take (r : Root) (g : Docket κ) : ChainCall κ → Docket κ
  | .complete op => g.finish g.source op
  | .pass op =>
    let f := Root.notHandled op
    let g : Docket κ := { g with made := g.made ++ [(.root, f)] }
    g.finish .root (op.fail f)
  | .event e => { g with called := g.called ++ (Link.calls (r.event e)).map (.root, ·) }
  | .connected | .disconnected => g

/-- The stage makes a move: what it reports comes from a session, and so does what it fails an
operation with, if any failure comes with the move. -/
def move (a : Activity κ) (m : Move κ) (g : Docket κ) : Docket κ :=
  match a.step m with
  | none => g
  | some (next, traces) =>
    let came := (m.comesWith a.frame?).isSome
    { g with
      made := g.made ++ if came then [] else next.failure?.toList.map (.stage, ·)
      source := if came then .session else .stage
      sunk := g.sunk ++ (traces.filterMap Trace.unhandled?).map .alone
      asked := g.asked ++ (next.frame?.bind Frame.request?).toList
      answered := g.answered ++ (a.stage.answers? a.frame? m).toList
      strays := g.strays ++ (a.stage.stray? m).toList.map fun p => ⟨p.1, p.2, p.1 ∈ g.asked⟩ }

/-- A piece of the user's code panics. -/
def panic (g : Docket κ) (c : UserCall κ) (message : String) : Docket κ :=
  { g with
    made := g.made ++ [(.user, c.panicked message)]
    sunk := g.sunk ++ [.panic c message] }

/-- The pipeline's worker does one thing. -/
def work (W : World ω ε) (before : Link κ ω) (g : Docket κ) : Docket κ :=
  match before.activity.asked? with
  | some (.chain c) => (g.take before.root c).move before.activity .proceed
  | some (.create args) =>
    let m : Move κ := .created (W.model.create before.world args).1
    (g.produce m.failure?.toList).move before.activity m
  | some (.call session c) =>
    let (answer, reports, _) := W.model.step before.world session c
    let told := g.produce (reports.filterMap Report.failure?)
    match answer with
    | none => told
    | some answer =>
      let m : Move κ := Link.ended answer
      (told.produce m.failure?.toList).move before.activity m
  | some (.release session) =>
    (g.produce ((W.model.release before.world session).1.filterMap Report.failure?)).move
      before.activity .proceed
  | none =>
    match before.inbox.turn with
    | .job job _ => g.move before.activity (Link.start job)
    | .none | .stop _ | .exit _ _ => g

/-- What the observer writes down. -/
def note (W : World ω ε) : Affair κ ε → Link κ ω → Link κ ω → Docket κ → Docket κ
  | .happening .work, before, _, g => g.work W before
  | .happening (.stir e), before, _, g =>
    match W.stir before.world e with
    | some (reports, _) => g.produce (reports.filterMap Report.failure?)
    | none => g
  | .happening .beginUser, _, after, g => { g with begun := g.begun ++ after.user.toList }
  | .happening (.endUser (some message)), before, _, g =>
    match before.user with
    | some c => g.panic c message
    | none => g
  | .happening (.endUser none), _, _, g | .happening (.handle _), _, _, g
  | .happening (.submit _ _ _), _, _, g
  | .bring _ _, _, _, g => g

/-! ## What has come to where it stays -/

/-- The failures that callbacks are told. -/
def told (g : Docket κ) : List Charge :=
  g.called.filterMap fun c => c.2.failure?.map (c.1, ·)

/-- **The failures that have come to where they stay.** -/
def settled (g : Docket κ) : Multiset Charge :=
  ↑g.told + ↑(g.sunk.map Sunk.charge) + ↑(g.strays.map fun s => (Source.session, s.failure))

end Docket

namespace Docket

variable {g g' g'' : Docket κ} {x y z w : Multiset Charge}

/-- Every failure is one that its source makes, and outcomes are recorded only of operations without
a callback. -/
structure Honest (g : Docket κ) : Prop where
  makes : ∀ c ∈ g.made, c.1.Makes κ c.2
  proper : ∀ s ∈ g.sunk, s.Proper

/-- **Entries that carry something on.**  What was under way before them, and what is made by them,
stays somewhere or is under way then. -/
structure Carries (g g' : Docket κ) (before after : Multiset Charge) : Prop where
  balance : ↑g'.made + g.settled + before = ↑g.made + g'.settled + after
  honest : g.Honest → g'.Honest

lemma Carries.refl (g : Docket κ) (x : Multiset Charge) : Carries g g x x := ⟨rfl, id⟩

lemma Carries.add (h : Carries g g' x y) (z : Multiset Charge) :
    Carries g g' (z + x) (z + y) := by
  refine ⟨?_, h.honest⟩
  calc (↑g'.made + g.settled + (z + x) : Multiset Charge)
      = z + (↑g'.made + g.settled + x) := by abel
    _ = ↑g.made + g'.settled + (z + y) := by rw [h.balance]; abel

lemma Carries.trans (h : Carries g g' x y) (h' : Carries g' g'' y z) : Carries g g'' x z := by
  refine ⟨add_right_cancel (b := ↑g'.made + g'.settled + y) ?_, h'.honest ∘ h.honest⟩
  calc (↑g''.made + g.settled + x + (↑g'.made + g'.settled + y) : Multiset Charge)
      = (↑g'.made + g.settled + x) + (↑g''.made + g'.settled + y) := by abel
    _ = ↑g.made + g''.settled + z + (↑g'.made + g'.settled + y) := by
        rw [h.balance, h'.balance]; abel

/-- Two lots can be carried on one after the other. -/
lemma Carries.next (h : Carries g g' x y) (h' : Carries g' g'' z w) :
    Carries g g'' (x + z) (y + w) := by
  have hfirst := h.add z
  rw [add_comm z, add_comm z] at hfirst
  exact hfirst.trans (h'.add y)

/-- Whatever was made is under way or has come to where it stays, then as before. -/
lemma Carries.total (h : Carries g g' x y) (hx : (↑g.made : Multiset Charge) = x + g.settled) :
    (↑g'.made : Multiset Charge) = y + g'.settled := by
  have hbalance := h.balance
  rw [hx] at hbalance
  refine add_right_cancel (b := g.settled + x) ?_
  calc (↑g'.made + (g.settled + x) : Multiset Charge)
      = ↑g'.made + g.settled + x := by abel
    _ = y + g'.settled + (g.settled + x) := by rw [hbalance]; abel

lemma Honest.make (h : g.Honest) {made : List Charge} (hmade : ∀ c ∈ made, c.1.Makes κ c.2) :
    Honest { g with made := g.made ++ made } :=
  ⟨List.forall_mem_append.mpr ⟨h.makes, hmade⟩, h.proper⟩

lemma carries_produce (g : Docket κ) (fs : List Failure) :
    Carries g (g.produce fs) 0 ↑(fs.map (Source.session, ·)) := by
  have hmade : (↑(g.produce fs).made : Multiset Charge)
      = ↑g.made + ↑(fs.map (Source.session, ·)) := (Multiset.coe_add _ _).symm
  have hstay : (g.produce fs).settled = g.settled := rfl
  refine ⟨?_, fun h => h.make ?_⟩
  · rw [hmade, hstay]
    abel
  · intro c hc
    obtain ⟨f, -, rfl⟩ := List.mem_map.mp hc
    trivial

/-- The panic of a piece of the user's code goes to the sink at once. -/
lemma carries_panic (g : Docket κ) (c : UserCall κ) (message : String) :
    Carries g (g.panic c message) 0 0 := by
  have hmade : (↑(g.panic c message).made : Multiset Charge)
      = ↑g.made + ↑[((.user, c.panicked message) : Charge)] := (Multiset.coe_add _ _).symm
  have hstay : (g.panic c message).settled
      = g.settled + ↑[((.user, c.panicked message) : Charge)] := by
    rw [settled, settled, panic, List.map_append, ← Multiset.coe_add, ← add_assoc, add_right_comm]
    rfl
  refine ⟨?_, fun h => ⟨?_, ?_⟩⟩
  · rw [hmade, hstay]
    abel
  · refine List.forall_mem_append.mpr ⟨h.makes, fun made hmade => ?_⟩
    cases List.mem_singleton.mp hmade
    exact ⟨c, message, rfl⟩
  · refine List.forall_mem_append.mpr ⟨h.proper, fun s hs => ?_⟩
    cases List.mem_singleton.mp hs
    trivial

end Docket

/-! ## The root -/

lemma spilt_complete (op : Operation κ) :
    Root.spilt (Root.complete op) = if op.callback.isSome then [] else op.error.toList := by
  rw [Root.complete, Operation.outcome]
  cases op.callback with
  | some callback => rfl
  | none => cases op.error <;> rfl

namespace Docket

variable {g : Docket κ} {a a' : Activity κ} {m : Move κ} {traces : List (Trace κ)}

/-- **The end of an operation** is told to its callback, or recorded by the sink. -/
theorem settled_finish (g : Docket κ) (source : Source) (op : Operation κ) :
    (g.finish source op).settled = g.settled + ↑(op.error.toList.map (source, ·)) := by
  cases hcallback : op.callback with
  | none =>
      have hcalls : Link.calls (Root.complete op) = [] := by
        rw [Link.calls_complete, hcallback]
        rfl
      have hspilt : (Root.spilt (Root.complete op)).map (Sunk.charge ∘ Sunk.outcome source op)
          = op.error.toList.map (source, ·) := by
        rw [spilt_complete, hcallback]
        rfl
      simp only [settled, told, finish, hcalls, List.map_nil, List.append_nil, List.map_append,
        List.map_map, hspilt, ← Multiset.coe_add]
      abel
  | some callback =>
      have hspilt : Root.spilt (Root.complete op) = [] := by
        rw [spilt_complete, hcallback]
        rfl
      have htold : ((Link.calls (Root.complete op)).map (source, ·)).filterMap
          (fun c => c.2.failure?.map (c.1, ·)) = op.error.toList.map (source, ·) := by
        rw [Link.calls_complete, hcallback, Operation.outcome]
        cases op.error <;> rfl
      simp only [settled, told, finish, hspilt, List.map_nil, List.append_nil,
        List.filterMap_append, htold, ← Multiset.coe_add]
      abel

lemma honest_finish (h : g.Honest) (source : Source) (op : Operation κ) :
    (g.finish source op).Honest := by
  refine ⟨h.makes, List.forall_mem_append.mpr ⟨h.proper, ?_⟩⟩
  intro s hs
  obtain ⟨f, hf, rfl⟩ := List.mem_map.mp hs
  rw [spilt_complete] at hf
  split at hf
  · cases hf
  · next hnone =>
      refine ⟨Option.not_isSome_iff_eq_none.mp hnone, ?_⟩
      rw [Operation.outcome, Option.mem_toList.mp hf]

/-- What the root takes goes to where it stays. -/
theorem carries_take (r : Root) (g : Docket κ) (c : ChainCall κ) :
    Carries g (g.take r c) ↑((Ask.chain c).failure?.toList.map (g.source, ·)) 0 := by
  cases c with
  | complete op =>
      refine ⟨?_, fun h => honest_finish h g.source op⟩
      rw [add_zero, take, settled_finish, ← add_assoc]
      rfl
  | pass op =>
      set g' : Docket κ := { g with made := g.made ++ [(.root, Root.notHandled op)] } with hg'
      have htake : g.take r (.pass op) = g'.finish .root (op.fail (Root.notHandled op)) := rfl
      refine ⟨?_, fun h => ?_⟩
      · have hmade : (g'.finish .root (op.fail (Root.notHandled op))).made
            = g.made ++ [(.root, Root.notHandled op)] := rfl
        have hsame : g'.settled = g.settled := rfl
        rw [htake, settled_finish, hmade, hsame, ← Multiset.coe_add]
        simp only [Ask.failure?, Operation.fail, Option.toList_some, Option.toList_none,
          List.map_cons, List.map_nil, Multiset.coe_nil, add_zero]
        abel
      · rw [htake]
        refine honest_finish (h.make fun made hmade => ?_) _ _
        cases List.mem_singleton.mp hmade
        exact ⟨op, rfl⟩
  | event e =>
      have htold : ((Link.calls (κ := κ) (r.event e)).map (Source.root, ·)).filterMap
          (fun c => c.2.failure?.map (c.1, ·)) = [] := by
        rw [Root.event]
        cases r.listens <;> rfl
      have hstay : (g.take r (.event e)).settled = g.settled := by
        rw [settled, settled, told, told, take, List.filterMap_append, htold, List.append_nil]
      refine ⟨?_, fun h => ⟨h.makes, h.proper⟩⟩
      rw [hstay]
      rfl
  | connected | disconnected => exact .refl g 0

/-- What a stage has in hand: a cause that waits, and the failure of the operation that is over. -/
def held (g : Docket κ) (a : Activity κ) : Multiset Charge :=
  ↑(a.cause?.toList.map (Source.session, ·)) + ↑(a.failure?.toList.map (g.source, ·))

/-- **A move of the stage** leaves the failure that comes with it where it goes. -/
theorem carries_move (hs : a.step m = some (a', traces))
    (hr : Stage.Routes κ (m.comesWith a.frame?) ((a.stage.stray? m).map Prod.snd)
      (traces.filterMap Trace.unhandled?) a'.failure? a'.cause?) :
    Carries g (g.move a m) ↑((m.comesWith a.frame?).toList.map (Source.session, ·))
      ((g.move a m).held a') := by
  have hstay : (g.move a m).settled = g.settled
      + ↑((traces.filterMap Trace.unhandled?).map (Source.session, ·))
      + ↑(((a.stage.stray? m).map Prod.snd).toList.map (Source.session, ·)) := by
    simp only [settled, told, move, hs, List.map_append, List.map_map, Option.toList_map,
      ← Multiset.coe_add]
    have hstray : (fun s : Stray => ((Source.session, s.failure) : Charge)) ∘
        (fun p : Nat × Failure => (⟨p.1, p.2, p.1 ∈ g.asked⟩ : Stray))
          = (Source.session, ·) ∘ Prod.snd := rfl
    rw [hstray]
    have halone : Sunk.charge ∘ (Sunk.alone : Failure → Sunk κ) = (Source.session, ·) := rfl
    rw [halone]
    abel
  have hproper : g.Honest → ∀ s ∈ (g.move a m).sunk, s.Proper := by
    intro h
    simp only [move, hs]
    refine List.forall_mem_append.mpr ⟨h.proper, fun s hmem => ?_⟩
    obtain ⟨f, -, rfl⟩ := List.mem_map.mp hmem
    trivial
  rw [held]
  cases hr with
  | apart hnone hcame =>
      have hmade : (g.move a m).made = g.made := by
        simp only [move, hs, hnone, Option.toList_none, List.map_nil, ite_self, List.append_nil]
      refine ⟨?_, fun h => ⟨hmade ▸ h.makes, hproper h⟩⟩
      rw [hstay, hmade, hcame, hnone]
      simp only [List.map_append, ← Multiset.coe_add, Option.toList_none, List.map_nil,
        Multiset.coe_nil, add_zero]
      abel
  | @carried f hf hcause hspilt hstray hcame =>
      rw [hspilt, hstray] at hstay
      -- it has come with the move, or the stage has made it just now
      rcases hcame with hcame | ⟨hcame, hhome⟩
      · have hmove : (g.move a m).made = g.made ∧ (g.move a m).source = .session := by
          simp only [move, hs, hcame, Option.isSome_some, if_true, List.append_nil, and_self]
        refine ⟨?_, fun h => ⟨hmove.1 ▸ h.makes, hproper h⟩⟩
        rw [hstay, hf, hcause, hcame, hmove.1, hmove.2]
        simp
      · have hmove : (g.move a m).made = g.made ++ [(.stage, f)] ∧
            (g.move a m).source = .stage := by
          simp only [move, hs, hcame, hf, Option.isSome_none]
          exact ⟨rfl, rfl⟩
        refine ⟨?_, fun h => ⟨?_, hproper h⟩⟩
        · rw [hstay, hf, hcause, hcame, hmove.1, hmove.2, ← Multiset.coe_add]
          simp only [Option.toList_some, Option.toList_none, List.map_cons, List.map_nil,
            Multiset.coe_nil, add_zero, zero_add]
          abel
        · rw [hmove.1]
          refine List.forall_mem_append.mpr ⟨h.makes, fun c hc => ?_⟩
          cases List.mem_singleton.mp hc
          exact hhome

/-! ## Requests and their answers -/

/-- **Every request for which a session was called waits, or was answered.**  So was every one whose
acknowledgement found nobody, if a session had been called for it. -/
structure Attended (g : Docket κ) (s : Stage κ) : Prop where
  waits : ∀ id ∈ g.asked, id ∈ g.answered ∨ (s.awaiting? id).isSome
  strays : ∀ stray ∈ g.strays, stray.known → stray.id ∈ g.answered

lemma Attended.take {s : Stage κ} (h : g.Attended s) (r : Root) (c : ChainCall κ) :
    (g.take r c).Attended s := by
  cases c <;> exact ⟨h.waits, h.strays⟩

/-- **A move of the stage** that keeps whoever waits, but for whom the answer comes. -/
theorem Attended.move (h : g.Attended a.stage) (hs : a.step m = some (a', traces))
    (hfound : a'.Found)
    (hkeeps : ∀ id, (a.stage.awaiting? id).isSome →
      (a'.stage.awaiting? id).isSome ∨ a.stage.answers? a.frame? m = some id) :
    (g.move a m).Attended a'.stage := by
  have hanswered : (g.move a m).answered
      = g.answered ++ (a.stage.answers? a.frame? m).toList := by
    simp only [Docket.move, hs]
  have hbefore : ∀ id ∈ g.asked, id ∈ (g.move a m).answered ∨ (a'.stage.awaiting? id).isSome := by
    intro id hid
    rw [hanswered, List.mem_append]
    rcases h.waits id hid with hdone | hwaits
    · exact .inl (.inl hdone)
    · exact (hkeeps id hwaits).elim .inr fun hnow => .inl (.inr (Option.mem_toList.mpr hnow))
  refine ⟨fun id hid => ?_, fun stray hstray hknown => ?_⟩
  · simp only [Docket.move, hs, List.mem_append] at hid
    rcases hid with hid | hid
    · exact hbefore id hid
    · obtain ⟨f, hf, hrequest⟩ := Option.bind_eq_some_iff.mp (Option.mem_toList.mp hid)
      cases f <;> cases hrequest
      exact .inr (hfound id hf)
  · rw [hanswered, List.mem_append]
    simp only [Docket.move, hs, List.mem_append] at hstray
    rcases hstray with hstray | hstray
    · exact .inl (h.strays stray hstray hknown)
    · obtain ⟨⟨id, f⟩, hp, rfl⟩ := List.mem_map.mp hstray
      have hnone := Stage.awaiting?_of_stray? (Option.mem_toList.mp hp)
      rcases h.waits id (of_decide_eq_true hknown) with hdone | hwaits
      · exact .inl hdone
      · rw [hnone] at hwaits
        cases hwaits

end Docket

end DeviceLink
