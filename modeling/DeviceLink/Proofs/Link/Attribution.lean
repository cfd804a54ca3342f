import DeviceLink.Proofs.Link.Wiring
import DeviceLink.Proofs.Stage.ConnectSlot
import Mathlib.Data.List.Forall2

/-!
# Whose reports complete a connection attempt

Reports carry no connection.  A connection that has been replaced is not waited for, and what it has
reported may still be queued, so a report that completes an operation need not come from the
connection that was started for it.  It does come from there, or from an earlier connection that
could still be heard when the session was called.

* `Bylines` — the record of a run: whose reports wait, whose report is under way, and for each call
  that starts a connection which one it starts and who could be heard then.
* `Attributed` — the operation in the connect slot is covered by its own attempt.
* **`Attributed.happens`** — everything that happens keeps that.
* **`author_of_completed`** — an operation completed by a report on a connection attempt owes that
  to its own connection, or to an earlier one that could still be heard.
* **`completed_by_earlier`** — it may owe that to an earlier one.
-/

namespace DeviceLink

open Transport Dispatch

/-- A report on how a connection attempt went. -/
def Report.onAttempt : Report → Bool
  | connected | connectionFailed _ => true
  | disconnected _ | message _ _ | acknowledged _ _ => false

/-! ## The record of a run -/

/-- A call of a session that is to start a connection. -/
structure Attempt where
  /-- The number of the operation that it is made for. -/
  operation : Nat
  /-- The connection that the call starts, if it starts one. -/
  own : Maker
  /-- The earlier connections that could be heard when the call was made. -/
  late : Maker → Prop

/-- The record of a run. -/
structure Bylines where
  /-- Who has made the jobs that wait for the pipeline's worker; drivers make reports. -/
  waiting : List (Option Maker) := []
  /-- The report under way, and who has made it. -/
  underway : Option (Report × Option Maker) := none
  /-- The calls that are to start a connection, the latest first. -/
  attempts : List Attempt := []

def reportOf? {κ : Type} : Command (Job κ) → Option Report
  | .run (.report r) => some r
  | .run (.run _) | .run .abandon | .stop => none

namespace Bylines

variable {κ : Type}

/-- A connection can be heard: a report of it waits or is under way, or its driver may make one. -/
def Audible (g : Bylines) (w : Transports) (maker : Maker) : Prop :=
  some maker ∈ g.waiting ∨ (∃ r, g.underway = some (r, some maker)) ∨ w.Live maker

/-- Jobs that have come into the queue get an author. -/
def sign (l l' : Link κ Transports) (author : Option Maker) (g : Bylines) : Bylines :=
  { g with
    waiting := g.waiting
      ++ List.replicate (l'.inbox.queue.length - l.inbox.queue.length) author }

def take (l : Link κ Transports) (g : Bylines) : Bylines :=
  { g with
    waiting := g.waiting.tail
    underway := (l.inbox.queue.head?.bind reportOf?).map (·, g.waiting.head?.join) }

/-- If the session is called now to start a connection for the operation in the connect slot, that
is an attempt. -/
def attempt (l l' : Link κ Transports) (g : Bylines) : Bylines :=
  match l.activity.asked?, l'.activity.levels, l'.activity.stage.activeConnect with
  | some (.call _ _), _, _ => g
  | _, [(.call s _, .starting .connect)], some op =>
    { g with attempts := ⟨op.id, l'.world.next s, g.Audible l'.world⟩ :: g.attempts }
  | _, _, _ => g

/-- What the observer writes down. -/
def note : Happening κ Stirring → Link κ Transports → Link κ Transports → Bylines → Bylines
  | .submit _ _ _, before, after, g => g.sign before after none
  | .stir (.drive maker _), before, after, g => g.sign before after (some maker)
  | .stir (.room _ _), before, after, g => g.sign before after none
  | .work, before, after, g =>
    match before.activity.levels with
    | [] => (g.take before).attempt before after
    | _ :: _ => (g.sign before after none).attempt before after
  | .beginUser, _, _, g | .endUser _, _, _, g | .handle _, _, _, g => g

/-- The latest attempt that was made for an operation. -/
def attempt? (g : Bylines) (id : Nat) : Option Attempt := g.attempts.find? (·.operation = id)

/-- Whoever can be heard is the connection of an operation's own attempt, or could be heard when
that was made. -/
def Covers (g : Bylines) (w : Transports) (id : Nat) : Prop :=
  ∃ a, g.attempt? id = some a ∧ ∀ maker, g.Audible w maker → maker = a.own ∨ a.late maker

variable {g g' : Bylines} {w w' : Transports} {l l' : Link κ Transports}

lemma Covers.mono {id : Nat} (h : g.Covers w id) (ha : g'.attempts = g.attempts)
    (hm : ∀ maker, g'.Audible w' maker → g.Audible w maker) : g'.Covers w' id := by
  obtain ⟨a, hfind, hcover⟩ := h
  exact ⟨a, by rwa [attempt?, ha], fun maker hmaker => hcover maker (hm maker hmaker)⟩

lemma covers_attempt (h : ∀ s c, l.activity.asked? ≠ some (.call s c)) {s : SessionId}
    {c : SessionCall} (hlevels : l'.activity.levels = [(.call s c, .starting .connect)])
    {op : Operation κ} (hop : l'.activity.stage.activeConnect = some op) :
    (g.attempt l l').Covers l'.world op.id ∧
      ∃ a, (g.attempt l l').attempt? op.id = some a ∧ a.own = l'.world.next s := by
  have hattempt : g.attempt l l'
      = { g with attempts := ⟨op.id, l'.world.next s, g.Audible l'.world⟩ :: g.attempts } := by
    rw [attempt, hlevels, hop]
    cases hask : l.activity.asked? with
    | none => rfl
    | some ask =>
        cases ask with
        | call session call => exact (h session call hask).elim
        | chain _ | create _ | release _ => rfl
  rw [hattempt]
  have hfind : Bylines.attempt?
      { g with attempts := ⟨op.id, l'.world.next s, g.Audible l'.world⟩ :: g.attempts } op.id
        = some ⟨op.id, l'.world.next s, g.Audible l'.world⟩ := by
    rw [attempt?, List.find?_cons_of_pos (by simp)]
  exact ⟨⟨_, hfind, fun maker hmaker => .inr hmaker⟩, _, hfind, rfl⟩

/-- No attempt is made where the session is not called for an operation that connects. -/
lemma attempt_eq (h : ∀ s c, l'.activity.levels ≠ [(.call s c, .starting .connect)]) :
    g.attempt l l' = g := by
  rw [attempt]
  split
  · rfl
  · next hlevels _ _ => exact (h _ _ hlevels).elim
  · rfl

lemma attempt_eq_of_call {s : SessionId} {c : SessionCall}
    (h : l.activity.asked? = some (.call s c)) : g.attempt l l' = g := by
  rw [attempt, h]

@[simp] lemma waiting_attempt : (g.attempt l l').waiting = g.waiting := by
  rw [attempt]
  split <;> rfl

@[simp] lemma underway_attempt : (g.attempt l l').underway = g.underway := by
  rw [attempt]
  split <;> rfl

/-- Jobs without an author make nobody heard. -/
lemma audible_of_sign {maker : Maker} (hlive : w'.Live maker → w.Live maker)
    (h : (g.sign l l' none).Audible w' maker) : g.Audible w maker := by
  rcases h with hwaiting | hunderway | hl
  · rcases List.mem_append.mp hwaiting with hwaiting | hnew
    · exact .inl hwaiting
    · cases List.eq_of_mem_replicate hnew
  · exact .inr (.inl hunderway)
  · exact .inr (.inr (hlive hl))

lemma audible_of_sign_some {author maker : Maker} (hlive : w'.Live maker → w.Live maker)
    (hauthor : w.Live author) (h : (g.sign l l' (some author)).Audible w' maker) :
    g.Audible w maker := by
  rcases h with hwaiting | hunderway | hl
  · rcases List.mem_append.mp hwaiting with hwaiting | hnew
    · exact .inl hwaiting
    · cases List.eq_of_mem_replicate hnew
      exact .inr (.inr hauthor)
  · exact .inr (.inl hunderway)
  · exact .inr (.inr (hlive hl))

lemma audible_of_take {maker : Maker} (h : (g.take l).Audible w maker) : g.Audible w maker := by
  rcases h with hwaiting | ⟨r, hr⟩ | hl
  · exact .inl (List.mem_of_mem_tail hwaiting)
  · obtain ⟨r', -, hauthor⟩ := Option.map_eq_some_iff.mp hr
    have hjoin : g.waiting.head?.join = some maker := congrArg Prod.snd hauthor
    exact .inl (List.mem_of_head? (Option.join_eq_some_iff.mp hjoin))
  · exact .inr (.inr hl)

end Bylines

namespace Transports

variable {w w' : Transports} {maker : Maker}

lemma live_of_sameFaces (h : SameFaces w w') (hl : w'.Live maker) : w.Live maker := by
  obtain ⟨driver, up, hface, hd⟩ := hl
  exact ⟨driver, up, (h.face? maker) ▸ hface, hd⟩

lemma live_of_starts {new : Maker} (h : Starts w w' new) (hl : w'.Live maker) :
    w.Live maker ∨ maker = new := by
  by_cases hm : maker = new
  · exact .inr hm
  · obtain ⟨driver, up, hface, hd⟩ := hl
    exact .inl ⟨driver, up, (h.others maker hm) ▸ hface, hd⟩

lemma driver_ne_returned {c c' : Connection Nat} {turn : DriverTurn} {effects : List (Effect Nat)}
    (h : c.drive turn = some (c', effects)) : c.driver ≠ .returned := by
  intro hreturned
  cases turn with
  | wake wakeup =>
      simp only [Connection.drive, Connection.wake, hreturned] at h
      cases h
  | advance =>
      simp only [Connection.drive, Connection.advance, hreturned] at h
      cases h

/-- A driver's turn lets nobody be heard who could not be heard before, and its own could. -/
lemma live_of_drive {turn : DriverTurn} {reports : List Report}
    (h : w.drive maker.session maker.number turn = some (reports, w')) :
    w.Live maker ∧ ∀ other, w'.Live other → w.Live other := by
  obtain ⟨c, c', effects, hdrive, -, hbefore, -, hothers, -, -, -⟩ := drive_face h
  have hown : w.Live maker := ⟨c.driver, c.up, hbefore, driver_ne_returned hdrive⟩
  refine ⟨hown, fun other hl => ?_⟩
  by_cases hm : other = maker
  · exact hm ▸ hown
  · obtain ⟨driver, up, hface, hd⟩ := hl
    exact ⟨driver, up, (hothers other hm) ▸ hface, hd⟩

end Transports

namespace Link

variable {κ : Type} {l l' : Link κ Transports} {g g' : Bylines}

/-! ## Who is covered -/

/-- A report on a connection attempt has an author. -/
def Vouched (c : Command (Job κ)) (author : Option Maker) : Prop :=
  ∀ r, reportOf? c = some r → r.onAttempt → author.isSome

/-- **The operation in the connect slot is covered by its own attempt**, and so is one that a report
on a connection attempt completes. -/
structure Attributed (l : Link κ Transports) (g : Bylines) : Prop where
  aligned : List.Forall₂ Vouched l.inbox.queue g.waiting
  author : ∀ r author, g.underway = some (r, author) → r.onAttempt → author.isSome
  /-- While a report on a connection attempt is under way, nobody else is completed. -/
  frames : ∀ r author, g.underway = some (r, author) → r.onAttempt →
    ∀ level ∈ l.activity.levels, level.2 = .announced ∨ level.2 = .last
  slot : ∀ op, l.activity.stage.activeConnect = some op → g.Covers l.world op.id
  own : ∀ s c, l.activity.levels = [(.call s c, .starting .connect)] →
    ∀ op, l.activity.stage.activeConnect = some op →
      ∃ a, g.attempt? op.id = some a ∧ a.own = l.world.next s
  completed : ∀ r author, g.underway = some (r, author) → r.onAttempt →
    ∀ op frame, l.activity.levels = [(.chain (.complete op), frame)] → g.Covers l.world op.id

/-- While a session is called, the stage's next move does not lead to another call. -/
lemma not_call_of_call (hsteady : l.Steady) {m : Move κ} {a : Activity κ} {traces : List (Trace κ)}
    (hm : l.activity.ByWorker m) (hs : l.activity.step m = some (a, traces)) {s : SessionId}
    {c : SessionCall} {frame : Frame κ} (hlevels : a.levels = [(.call s c, frame)])
    (hcall : ∀ s c, l.activity.asked? = some (.call s c) → ∃ answer, m = ended answer) :
    ∀ s c, l.activity.asked? ≠ some (.call s c) := by
  intro session call hask
  obtain ⟨t, ht, hn⟩ := hsteady.lone.next_of_levels hm hs hlevels
  obtain ⟨answer, rfl⟩ := hcall session call hask
  cases answer with
  | returned outcome =>
      obtain ⟨level, -, ht⟩ := Option.bind_eq_some_iff.mp ht
      exact Stage.not_call_of_answered ht hn
  | panicked message => cases ht

/-- **The stage makes a move**, and whoever was covered still is.  The record is the one before a
new attempt is added. -/
lemma attributed_of_step (hsteady : l.Steady) {m : Move κ} {traces : List (Trace κ)}
    (hm : l.activity.ByWorker m) (hs : l.activity.step m = some (l'.activity, traces))
    (hlone' : l'.activity.Lone)
    (hcall : ∀ s c, l.activity.asked? = some (.call s c) → ∃ answer, m = ended answer)
    (haligned : List.Forall₂ Vouched l'.inbox.queue g'.waiting)
    (hauthor : ∀ r author, g'.underway = some (r, author) → r.onAttempt → author.isSome)
    (hcovers : ∀ op, l.activity.stage.activeConnect = some op → g'.Covers l'.world op.id)
    (hunder : ∀ r author, g'.underway = some (r, author) → r.onAttempt →
      ∀ t, l.activity.turn? m = some t → ∀ ask frame, t.next = .ask ask frame →
        l.activity.stage.OnlyHeld ask frame) :
    l'.Attributed (g'.attempt l l') := by
  have hlone := hsteady.lone
  -- a call that starts a connection is an attempt of its own; anything else adds nothing
  by_cases hnew : ∃ s c, l'.activity.levels = [(.call s c, .starting .connect)]
  · obtain ⟨s, c, hlevels⟩ := hnew
    have hnot := not_call_of_call hsteady hm hs hlevels hcall
    obtain ⟨t, ht, hn⟩ := hlone.next_of_levels hm hs hlevels
    refine ⟨?_, ?_, ?_, ?_, ?_, ?_⟩
    · rwa [Bylines.waiting_attempt]
    · rwa [Bylines.underway_attempt]
    · rw [Bylines.underway_attempt]
      intro r author hr honattempt
      rcases (hunder r author hr honattempt t ht _ _ hn).1 with hframe | hframe <;> cases hframe
    · exact fun op hop => (Bylines.covers_attempt hnot hlevels hop).1
    · intro session call hlevels' op hop
      cases hlevels.symm.trans hlevels'
      exact (Bylines.covers_attempt hnot hlevels hop).2
    · intro r author _ _ op frame hlevels'
      cases hlevels.symm.trans hlevels'
  · have hnone : ∀ s c, l'.activity.levels ≠ [(.call s c, .starting .connect)] :=
      fun s c hlevels => hnew ⟨s, c, hlevels⟩
    rw [Bylines.attempt_eq hnone]
    refine ⟨haligned, hauthor, ?_, ?_, ?_, ?_⟩
    · intro r author hr honattempt level hlevel
      obtain ⟨ask, frame⟩ := level
      obtain ⟨t, ht, hn⟩ := hlone.next_of_levels hm hs (hlone'.levels_eq hlevel)
      exact (hunder r author hr honattempt t ht _ _ hn).1
    · intro op hop
      rcases hlone.slot_step hm hs hop with hop | hlevels
      · exact hcovers op hop
      · exact (hnew hlevels).elim
    · intro s c hlevels
      exact (hnone s c hlevels).elim
    · intro r author hr honattempt op frame hlevels
      obtain ⟨t, ht, hn⟩ := hlone.next_of_levels hm hs hlevels
      obtain ⟨held, hheld, hid⟩ := (hunder r author hr honattempt t ht _ _ hn).2 op rfl
      exact hid ▸ hcovers held hheld

lemma aligned_put {m : Mailbox (Job κ)} (h : List.Forall₂ Vouched m.queue g.waiting)
    {jobs : List (Job κ)} {author : Option Maker}
    (hjobs : ∀ job ∈ jobs, Vouched (.run job) author) :
    List.Forall₂ Vouched (m.put jobs).queue
      (g.waiting ++ List.replicate ((m.put jobs).queue.length - m.queue.length) author) := by
  have hlength : (m.put jobs).queue.length - m.queue.length = jobs.length := by
    simp [Mailbox.put]
  rw [hlength]
  refine List.rel_append h ?_
  induction jobs with
  | nil => exact .nil
  | cons job rest ih =>
      refine .cons (hjobs job List.mem_cons_self) (ih ?_ ?_)
      · exact fun other hother => hjobs other (List.mem_cons_of_mem _ hother)
      · simp [Mailbox.put]

lemma vouched_acknowledgement {told : List (Told Nat)} {job : Job κ} {author : Option Maker}
    (h : job ∈ (told.map acknowledgement).map Job.report) : Vouched (.run job) author := by
  obtain ⟨r, hr, rfl⟩ := List.mem_map.mp h
  obtain ⟨t, -, rfl⟩ := List.mem_map.mp hr
  rintro r ⟨⟩ honattempt
  cases honattempt

/-- While a report on an attempt is under way, the stage waits for nobody but the chain. -/
lemma Attributed.not_onAttempt (h : l.Attributed g) (hsteady : l.Steady) {ask : Ask κ}
    {frame : Frame κ} (hlevels : l.activity.levels = [(ask, frame)]) (hask : ∀ c, ask ≠ .chain c)
    {r : Report} {author : Option Maker} (hr : g.underway = some (r, author)) : ¬ r.onAttempt := by
  intro honattempt
  have hmem := Activity.mem_of_levels hlevels
  have hstill := hsteady.lone.still _ hmem
  rcases h.frames r author hr honattempt _ hmem with hf | hf
  all_goals
    cases (hf : frame = _)
    cases ask with
    | chain c => exact hask c rfl
    | create _ | call _ _ | release _ => exact hstill

/-- A call that starts a connection is made for the operation in the connect slot. -/
lemma frame_of_starts {session : SessionId} {c : SessionCall} {frame : Frame κ}
    (h : (Ask.call session c).Fits frame) (hc : c.starts) : frame = .starting .connect := by
  cases frame with
  | starting slot =>
      cases slot with
      | connect => rfl
      | disconnect =>
          rw [show c = .disconnect from h] at hc
          cases hc
  | requesting id =>
      have hid : c.ackId? = some id := h
      cases c with
      | connect _ _ | reconnect _ => cases hid
      | disconnect | publish _ _ _ | subscribe _ _ | unsubscribe _ _ => cases hc
  | last | superseding _ _ _ | creating _ _ | replacing _ | announced | retired _
  | abandoning _ _ => exact h.elim

lemma underway_take {job : Job κ} {rest : List (Command (Job κ))} {r : Report}
    {author : Option Maker} (hqueue : l.inbox.queue = .run job :: rest)
    (hr : (g.take l).underway = some (r, author)) :
    job = .report r ∧ author = g.waiting.head?.join := by
  simp only [Bylines.take, hqueue, List.head?_cons, Option.bind_some] at hr
  cases job with
  | report r' =>
      cases hr
      exact ⟨rfl, rfl⟩
  | run op => cases hr
  | abandon => cases hr

lemma onlyHeld_report {s : Stage κ} {r : Report} (hr : r.onAttempt) {ask : Ask κ} {frame : Frame κ}
    (hn : (s.report r).next = .ask ask frame) : s.OnlyHeld ask frame := by
  cases r with
  | connected =>
      cases hn
      exact ⟨.inl rfl, by rintro op ⟨⟩⟩
  | connectionFailed cause => exact Stage.onlyHeld_connectionFailed hn
  | disconnected _ | message _ _ | acknowledged _ _ => cases hr

/-- While a report on a connection attempt is under way, the chain is told of nobody but who is in
the slot. -/
lemma Attributed.onlyHeld_proceed (h : l.Attributed g) {c : ChainCall κ} {frame : Frame κ}
    (hlevels : l.activity.levels = [(.chain c, frame)]) {r : Report} {author : Option Maker}
    (hr : g.underway = some (r, author)) (honattempt : r.onAttempt) {t : Turn κ}
    (ht : l.activity.turn? .proceed = some t) {ask : Ask κ} {next : Frame κ}
    (hn : t.next = .ask ask next) : l.activity.stage.OnlyHeld ask next := by
  rw [Activity.turn?, hlevels] at ht
  rcases h.frames r author hr honattempt _ (Activity.mem_of_levels hlevels) with hf | hf
  · have hframe : frame = .announced := hf
    subst hframe
    cases ht
    exact Stage.onlyHeld_announced hn
  · have hframe : frame = .last := hf
    subst hframe
    cases ht
    cases hn

/-- Whoever can be heard once a call has ended could be heard before it, or the call has started
it. -/
lemma Attributed.covers_of_stepped (h : l.Attributed g) (hsteady : l.Steady) {session : SessionId}
    {c : SessionCall} {frame : Frame κ} (hlevels : l.activity.levels = [(.call session c, frame)])
    {answer : Answer} {w : Transports}
    (hstepped : Transports.Stepped l.world session c (some answer) w) (k : Link κ Transports)
    {op : Operation κ} (hop : l.activity.stage.activeConnect = some op) :
    (g.sign l k none).Covers w op.id := by
  cases hstepped with
  | finished hfaces hnone =>
      exact (h.slot op hop).mono rfl fun maker =>
        Bylines.audible_of_sign (Transports.live_of_sameFaces hfaces)
  | started hstarts hstart hnone =>
      have hfits : (Ask.call session c).Fits frame :=
        hsteady.lone.orderly.fits _ (Activity.mem_of_levels hlevels)
      rw [frame_of_starts hfits hstarts] at hlevels
      obtain ⟨a, hfind, hown⟩ := h.own session c hlevels op hop
      obtain ⟨a', hfind', hcover⟩ := h.slot op hop
      cases hfind.symm.trans hfind'
      refine ⟨a, hfind, fun maker hmaker => ?_⟩
      -- whoever can be heard now and could not be heard before is the attempt's own
      rcases hmaker with hwaiting | hunderway | hlive
      · exact hcover maker (Bylines.audible_of_sign id (.inl hwaiting))
      · exact hcover maker (.inr (.inl hunderway))
      · rcases Transports.live_of_starts hstart hlive with hlive | hnew
        · exact hcover maker (.inr (.inr hlive))
        · exact .inl (hnew.trans hown.symm)

lemma Attributed.works (h : l.Attributed g) (hsteady : l.Steady) (hwired : l.Wired)
    (hw : Works Transports.model l l') :
    l'.Attributed (Bylines.note .work l l' g) := by
  have hlone' := (hsteady.of_works hw).lone
  cases hw with
  | @chain c frame a traces hlevels hstep log sink =>
      simp only [Bylines.note, hlevels]
      refine attributed_of_step hsteady (m := .proceed) trivial hstep hlone' ?_ ?_ ?_ ?_ ?_
      · intro session call hcall
        rw [Activity.asked?_of_levels hlevels] at hcall
        cases hcall
      · simpa [Bylines.sign] using h.aligned
      · exact h.author
      · exact fun op hop => (h.slot op hop).mono rfl fun maker => Bylines.audible_of_sign id
      · exact fun r author hr honattempt t ht ask next hn =>
          h.onlyHeld_proceed hlevels hr honattempt ht hn
  | @create args frame a traces hlevels hstep log sink =>
      have hfaces := Transports.sameFaces_create l.world args
      simp only [Bylines.note, hlevels]
      refine attributed_of_step hsteady (m := .created _) trivial hstep hlone' ?_ ?_ ?_ ?_ ?_
      · intro session call hcall
        rw [Activity.asked?_of_levels hlevels] at hcall
        cases hcall
      · simpa [Bylines.sign] using h.aligned
      · exact h.author
      · exact fun op hop => (h.slot op hop).mono rfl fun maker =>
          Bylines.audible_of_sign (Transports.live_of_sameFaces hfaces)
      · exact fun r author hr honattempt =>
          (h.not_onAttempt hsteady hlevels (by rintro c ⟨⟩) hr honattempt).elim
  | @call session c frame reports world hlevels hcall =>
      obtain ⟨⟨told, rfl⟩, hstepped⟩ := Transports.stepped (hwired.due hlevels) hcall
      have hasked := Activity.asked?_of_levels hlevels
      cases hstepped with
      | more hfaces hdue =>
          simp only [Bylines.note, hlevels, Bylines.attempt_eq_of_call hasked]
          refine ⟨?_, h.author, h.frames, ?_, ?_, ?_⟩
          · exact aligned_put h.aligned fun job hjob => vouched_acknowledgement hjob
          · exact fun op hop => (h.slot op hop).mono rfl fun maker =>
              Bylines.audible_of_sign (Transports.live_of_sameFaces hfaces)
          · intro s c hstarting op hop
            rw [hfaces.next]
            exact h.own s c hstarting op hop
          · exact fun r author hr honattempt =>
              (h.not_onAttempt hsteady hlevels (by rintro c ⟨⟩) hr honattempt).elim
  | @answer session c frame answer reports world a traces hlevels hcall hstep log sink =>
      obtain ⟨⟨told, rfl⟩, hstepped⟩ := Transports.stepped (hwired.due hlevels) hcall
      simp only [Bylines.note, hlevels]
      refine attributed_of_step hsteady (byWorker_ended answer hlevels) hstep hlone' ?_ ?_ ?_ ?_ ?_
      · exact fun _ _ _ => ⟨answer, rfl⟩
      · exact aligned_put h.aligned fun job hjob => vouched_acknowledgement hjob
      · exact h.author
      · exact fun op hop => h.covers_of_stepped hsteady hlevels hstepped _ hop
      · exact fun r author hr honattempt =>
          (h.not_onAttempt hsteady hlevels (by rintro c ⟨⟩) hr honattempt).elim
  | @job job rest a traces hlevels hqueue hstep log sink =>
      have haligned := h.aligned
      rw [hqueue] at haligned
      obtain ⟨author, later, hvouched, hlater, hwaiting⟩ := List.forall₂_cons_left_iff.mp haligned
      have hm := hsteady.byWorker_start hlevels hqueue
      simp only [Bylines.note, hlevels]
      refine attributed_of_step hsteady hm hstep hlone' ?_ ?_ ?_ ?_ ?_
      · intro session call hcall
        rw [Activity.asked?_of_nil hlevels] at hcall
        cases hcall
      · rwa [Bylines.take, hwaiting]
      · intro r other hr honattempt
        obtain ⟨rfl, rfl⟩ := underway_take hqueue hr
        rw [hwaiting]
        exact hvouched r rfl honattempt
      · exact fun op hop => (h.slot op hop).mono rfl fun maker => Bylines.audible_of_take
      · intro r other hr honattempt t ht ask next hn
        obtain ⟨rfl, -⟩ := underway_take hqueue hr
        cases ht
        exact onlyHeld_report honattempt hn

/-- What is posted by the world keeps whoever is covered, if nobody can be heard who could not be
heard before. -/
lemma Attributed.of_post (h : l.Attributed g) {reports : List Report} {w : Transports}
    {author : Option Maker} (hfaces : ∀ s, w.next s = l.world.next s)
    (hvouched : ∀ r ∈ reports, r.onAttempt → author.isSome)
    (haudible : ∀ maker, (g.sign l { l with
        world := w, inbox := l.inbox.put (reports.map Job.report) } author).Audible w maker →
      g.Audible l.world maker) :
    Attributed { l with world := w, inbox := l.inbox.put (reports.map Job.report) }
      (g.sign l { l with world := w, inbox := l.inbox.put (reports.map Job.report) } author) := by
  refine ⟨?_, h.author, h.frames, ?_, ?_, ?_⟩
  · refine aligned_put h.aligned fun job hjob => ?_
    obtain ⟨r, hr, rfl⟩ := List.mem_map.mp hjob
    rintro other ⟨⟩ honattempt
    exact hvouched r hr honattempt
  · exact fun op hop => (h.slot op hop).mono rfl haudible
  · intro s c hlevels op hop
    rw [hfaces]
    exact h.own s c hlevels op hop
  · exact fun r other hr honattempt op frame hlevels =>
      (h.completed r other hr honattempt op frame hlevels).mono rfl haudible

/-- **Everything that happens keeps whoever is covered.** -/
theorem Attributed.happens (h : l.Attributed g) (hsteady : l.Steady) (hwired : l.Wired)
    {happening : Happening κ Stirring} (hs : l.happens Transports.world happening = some l') :
    l'.Attributed (Bylines.note happening l l' g) := by
  cases happening with
  | submit caller request callback =>
      cases hs
      obtain ⟨log, heq⟩ := exists_submit_eq hsteady.inbox caller request callback
      rw [heq]
      refine ⟨?_, h.author, h.frames, ?_, h.own, ?_⟩
      · refine aligned_put h.aligned fun job hjob => ?_
        rw [List.mem_singleton.mp hjob]
        rintro r ⟨⟩
      · exact fun op hop => (h.slot op hop).mono rfl fun maker => Bylines.audible_of_sign id
      · exact fun r author hr honattempt op frame hlevels =>
          (h.completed r author hr honattempt op frame hlevels).mono rfl fun maker =>
            Bylines.audible_of_sign id
  | stir e =>
      obtain ⟨⟨reports, w⟩, hw, rfl⟩ := Option.map_eq_some_iff.mp hs
      rw [happen_eq hsteady.inbox]
      cases e with
      | drive maker turn =>
          obtain ⟨hown, hlive⟩ := Transports.live_of_drive hw
          obtain ⟨c, c', effects, -, -, -, -, -, hnext, -, -⟩ := Transports.drive_face hw
          exact h.of_post hnext (fun _ _ _ => rfl) fun other =>
            Bylines.audible_of_sign_some (hlive other) hown
      | room maker room =>
          obtain ⟨rfl, hfaces, -, -⟩ := Transports.stir_room hw
          exact h.of_post hfaces.next (List.forall_mem_nil _) fun other =>
            Bylines.audible_of_sign (Transports.live_of_sameFaces hfaces)
  | work => exact h.works hsteady hwired (hsteady.works hs)
  | beginUser =>
      obtain ⟨c, rest, -, hqueue, rfl⟩ := hsteady.beginUser_cases hs
      exact ⟨h.aligned, h.author, h.frames, h.slot, h.own, h.completed⟩
  | endUser panic =>
      obtain ⟨log, sink, rfl⟩ := exists_eq_of_endUser hs
      exact ⟨h.aligned, h.author, h.frames, h.slot, h.own, h.completed⟩
  | handle kept =>
      cases hs
      exact ⟨h.aligned, h.author, h.frames, h.slot, h.own, h.completed⟩

lemma attributed_follow {c : PipelineConfig} {listens : Bool} {config : TransportConfig}
    {files : Config.Files} (h : Link.build c listens (some { config, files }) = .ok l)
    (happenings : List (Happening κ Stirring)) :
    (follow Transports.world Bylines.note (l, {}) happenings).1.Steady ∧
      (follow Transports.world Bylines.note (l, {}) happenings).1.Attributed
        (follow Transports.world Bylines.note (l, {}) happenings).2 := by
  refine wired_follow_induction Attributed ?_ h ?_ happenings
  · exact fun happening l g next hsteady hwired hl hn => hl.happens hsteady hwired hn
  · cases h
    refine ⟨.nil, ?_, ?_, ?_, ?_, ?_⟩
    · rintro r author ⟨⟩
    · rintro r author ⟨⟩
    · rintro op ⟨⟩
    · rintro s c ⟨⟩
    · rintro r author ⟨⟩

/-- **An operation that a report on a connection attempt completes** owes that to the connection
that its own call of the session has started, or to an earlier one that could still be heard when
that call was made. -/
theorem author_of_completed {c : PipelineConfig} {listens : Bool} {config : TransportConfig}
    {files : Config.Files} (hbuild : Link.build c listens (some { config, files }) = .ok l)
    (happenings : List (Happening κ Stirring)) {g : Bylines}
    (hrun : follow Transports.world Bylines.note (l, {}) happenings = (l', g)) {r : Report}
    {author : Option Maker} (hunder : g.underway = some (r, author)) (hr : r.onAttempt)
    {op : Operation κ} (hover : l'.activity.asked? = some (.chain (.complete op))) :
    ∃ maker a, author = some maker ∧ g.attempt? op.id = some a ∧
      (maker = a.own ∨ a.late maker) := by
  obtain ⟨hsteady, h⟩ := attributed_follow hbuild happenings
  rw [hrun] at hsteady h
  obtain ⟨⟨ask, frame⟩, hhead, hask⟩ := Option.map_eq_some_iff.mp hover
  cases (hask : ask = _)
  have hlevels := hsteady.lone.levels_eq (List.mem_of_head? hhead)
  obtain ⟨a, hfind, hcover⟩ := h.completed r author hunder hr op frame hlevels
  obtain ⟨maker, rfl⟩ := Option.isSome_iff_exists.mp (h.author r author hunder hr)
  exact ⟨maker, a, rfl, hfind, hcover maker (.inr (.inl ⟨r, hunder⟩))⟩

/-- Two operations connect one after the other; the report of the first connection is queued behind
the second operation, and is under way when that one waits for its own connection. -/
def lateReport : List (Happening Nat Stirring) :=
  [.submit none (.setConnectionArgs ⟨"hub", "device", "id", none⟩) 10, .work, .work, .work,
    .submit none .connect 20, .work, .work, .work,
    .stir (.drive ⟨0, 0⟩ (.wake (.event (.arrived (.connAck .success))))),
    .stir (.drive ⟨0, 0⟩ .advance),
    .submit none .connect 30, .stir (.drive ⟨0, 0⟩ .advance),
    .work, .work, .work, .work, .work, .work, .work, .work, .work]

/-- How that run ends: the report of the first connection is under way, the second operation is
being completed, and its own connection is the second. -/
lemma lateReport_ends {l : Link Nat Transports}
    (h : Link.build {} false (some .unsecured) = .ok l) :
    let p := follow Transports.world Bylines.note (l, {}) lateReport
    p.2.underway = some (.connected, some ⟨0, 0⟩) ∧
      p.1.activity.asked? = some (.chain (.complete ⟨3, .connect, none, some 30⟩)) ∧
      (p.2.attempt? 3).map Attempt.own = some ⟨0, 1⟩ := by
  cases h
  exact ⟨by decide, by decide, by decide⟩

/-- The second operation is completed by the report of the first connection, which could be heard
when the second was started. -/
theorem author_of_lateReport :
    ∃ l : Link Nat Transports, Link.build {} false (some .unsecured) = .ok l ∧
      let p := follow Transports.world Bylines.note (l, {}) lateReport
      p.2.underway = some (.connected, some ⟨0, 0⟩) ∧
        ∃ maker a, some ⟨0, 0⟩ = some maker ∧ p.2.attempt? 3 = some a ∧
          (maker = a.own ∨ a.late maker) := by
  obtain ⟨l, hl⟩ : ∃ l : Link Nat Transports, Link.build {} false (some .unsecured) = .ok l :=
    ⟨_, rfl⟩
  obtain ⟨hunder, hover, -⟩ := lateReport_ends hl
  exact ⟨l, hl, hunder,
    author_of_completed hl lateReport (Prod.eta _).symm hunder rfl hover⟩

/-- An operation can owe its completion to another connection than its own. -/
theorem completed_by_earlier :
    ¬ ∀ (l l' : Link Nat Transports) (happenings : List (Happening Nat Stirring)) (g : Bylines)
        (r : Report) (author : Option Maker) (op : Operation Nat),
      Link.build {} false (some .unsecured) = .ok l →
      follow Transports.world Bylines.note (l, {}) happenings = (l', g) →
      g.underway = some (r, author) → r.onAttempt →
      l'.activity.asked? = some (.chain (.complete op)) →
      ∃ a, g.attempt? op.id = some a ∧ author = some a.own := by
  intro h
  obtain ⟨l, hl⟩ : ∃ l : Link Nat Transports, Link.build {} false (some .unsecured) = .ok l :=
    ⟨_, rfl⟩
  obtain ⟨hunder, hover, hsecond⟩ := lateReport_ends hl
  obtain ⟨a, hfind, hown⟩ := h _ _ lateReport _ _ _ _ hl (Prod.eta _).symm hunder rfl hover
  rw [hfind, Option.map_some, ← hown] at hsecond
  cases hsecond

end Link

end DeviceLink
