import DeviceLink.Proofs.Record
import DeviceLink.Waiter

/-!
# What a waiter tells

The two ends of a pair go their ways: the callback is called or dropped, and the waiter is looked
at, and waited on.  What the waiter tells at any time is determined by what has happened before:
nothing while the callback can still be called, and then its outcome.  But a look that has shown a
result uses the waiter up; whoever looks again is told that the callback was dropped, even if it was
called, and whoever waits then panics.

* `Turn`, `Pair` — what the two ends can do, and the pair in between.
* `Note`, `history` — the record of a pair.
* `fate`, `shown` — what a record says of the callback, and of the looks.
* `Due`, **`due_history`** — what each end can be told, given the record so far.
* `Truthful` — a record in which the waiter has told the truth.
* `Again`, `Harmless`, `NoHarm` — what comes of asking again, and when that does no harm.
* **`truthful_iff`** — a waiter tells the truth until it has told it.
* `askedAgain_untruthful` — a waiter that is asked again.
-/

namespace DeviceLink.Waiter

/-! ## A pair -/

/-- How somebody waits. -/
inductive Manner where
  /-- In a task. -/
  | task
  /-- By standing still, in a thread that drives a task or not. -/
  | still (inTask : Bool)
  deriving DecidableEq

/-- An attempt to go on for somebody who waits. -/
def attempt (w : Waiter) : Manner → Wait
  | .task => w.wait
  | .still inTask => w.waitBlocking inTask

/-- What one of the two ends does. -/
inductive Turn where
  | call (outcome : Outcome)
  | drop
  | look
  /-- Begins to wait, which takes the waiter. -/
  | wait (manner : Manner)
  /-- Tries to go on. -/
  | poll
  /-- Drops the waiter, or gives up waiting. -/
  | leave

/-- What is at the waiting end. -/
inductive Place where
  | waiter
  /-- Somebody waits. -/
  | waiting (manner : Manner)
  | gone

structure Pair where
  waiter : Waiter := {}
  place : Place := .waiter

/-- What happens at a pair, as far as it is noted. -/
inductive Note where
  | called (outcome : Outcome)
  | dropped
  /-- A look, and what it has shown. -/
  | looked (seen : Option Outcome)
  /-- An attempt to go on, and what it has come to. -/
  | waited (manner : Manner) (wait : Wait)

/-- Whoever has a result, or panics, waits no more. -/
def Place.afterWait (manner : Manner) : Wait → Place
  | .blocked => .waiting manner
  | .outcome _ | .panic _ => .gone

/-- A turn, which passes if there is nobody to take it. -/
def Pair.turn (p : Pair) : Turn → Option Note × Pair
  | .call outcome =>
    match p.waiter.channel.sender with
    | .held => (some (.called outcome), { p with waiter := p.waiter.call outcome })
    | .sent _ | .dropped => (none, p)
  | .drop =>
    match p.waiter.channel.sender with
    | .held => (some .dropped, { p with waiter := p.waiter.drop })
    | .sent _ | .dropped => (none, p)
  | .look =>
    match p.place with
    | .waiter => (some (.looked p.waiter.look.1), { p with waiter := p.waiter.look.2 })
    | .waiting _ | .gone => (none, p)
  | .wait manner =>
    match p.place with
    | .waiter => (none, { p with place := .waiting manner })
    | .waiting _ | .gone => (none, p)
  | .poll =>
    match p.place with
    | .waiting manner =>
      (some (.waited manner (p.waiter.attempt manner)),
        { p with place := .afterWait manner (p.waiter.attempt manner) })
    | .waiter | .gone => (none, p)
  | .leave => (none, { p with place := .gone })

/-- A pair with its record, after one more turn. -/
def noted (x : Pair × List Note) (turn : Turn) : Pair × List Note :=
  ((x.1.turn turn).2, x.2 ++ (x.1.turn turn).1.toList)

/-- A new pair after turns, with its record. -/
def follow (turns : List Turn) : Pair × List Note := turns.foldl noted ({}, [])

/-- **The record of a pair.** -/
def history (turns : List Turn) : List Note := (follow turns).2

/-! ## What a record says -/

def Note.fate? : Note → Option (Sender Outcome)
  | called outcome => some (.sent outcome)
  | dropped => some .dropped
  | looked _ | waited _ _ => none

def Note.shows : Note → Bool
  | looked (some _) => true
  | called _ | dropped | looked none | waited _ _ => false

/-- What has become of the callback. -/
def fate (h : List Note) : Sender Outcome := (h.findSome? Note.fate?).getD .held

/-- A look has shown a result. -/
def shown (h : List Note) : Bool := h.any Note.shows

variable {h earlier : List Note} {n : Note} {o : Outcome}

lemma fate_concat (h : List Note) (n : Note) :
    fate (h ++ [n]) = ((h.findSome? Note.fate?).or n.fate?).getD .held := by
  rw [fate, List.findSome?_append, List.findSome?_singleton]

lemma fate_concat_of_none (h : List Note) (hn : n.fate? = none) : fate (h ++ [n]) = fate h := by
  rw [fate_concat, hn, Option.or_none, fate]

lemma fate_concat_of_held (hheld : fate h = .held) (n : Note) :
    fate (h ++ [n]) = n.fate?.getD .held := by
  cases hfind : h.findSome? Note.fate? with
  | none => rw [fate_concat, hfind, Option.none_or]
  | some s =>
      rw [fate, hfind] at hheld
      obtain ⟨m, -, hm⟩ := List.exists_of_findSome?_eq_some hfind
      cases m <;> cases hm <;> cases hheld

lemma shown_concat (h : List Note) (n : Note) : shown (h ++ [n]) = (shown h || n.shows) := by
  rw [shown, List.any_append, List.any_cons, List.any_nil, Bool.or_false, shown]

/-- What has become of the callback was noted. -/
lemma mem_of_fate (hn : n.fate? = some (fate h)) : n ∈ h := by
  cases hfind : h.findSome? Note.fate? with
  | none =>
      -- nothing was, so the callback is still there, and no note says that
      rw [fate, hfind] at hn
      cases n <;> cases hn
  | some s =>
      obtain ⟨m, hm, he⟩ := List.exists_of_findSome?_eq_some hfind
      rw [fate, hfind, Option.getD_some, ← he] at hn
      cases m <;> cases he <;> cases n <;> cases hn <;> exact hm

/-- The callback is called once or dropped once, if at all. -/
def Settled (h : List Note) : Prop := ∀ m ∈ h, ∀ s, m.fate? = some s → fate h = s

/-! ## What is due -/

/-- The result that there is for whoever has not had it yet. -/
def told? : Sender Outcome → Option Outcome
  | .held => none
  | .sent outcome => some outcome
  | .dropped => some (.error lost)

/-- **What can happen next,** given the record so far. -/
def Due (earlier : List Note) : Note → Prop
  | .called _ | .dropped => fate earlier = .held
  | .looked seen => seen = if shown earlier then some (.error lost) else told? (fate earlier)
  | .waited manner wait =>
    wait = if manner = .still true then .panic Dispatch.blockedInTask
      else if shown earlier then .panic "called after complete"
        else (told? (fate earlier)).elim .blocked .outcome

/-- Only a callback that is still there is called or dropped. -/
lemma held_of_due (hn : Due h n) {s : Sender Outcome} (hs : n.fate? = some s) :
    fate h = .held := by
  cases n with
  | called _ | dropped => exact hn
  | looked _ | waited _ _ => cases hs

/-- A record that holds what was due, each time. -/
def AllDue (h : List Note) : Prop :=
  ∀ earlier n later, h = earlier ++ n :: later → Settled earlier ∧ Due earlier n

/-- **A pair is as its record says.** -/
structure Recorded (p : Pair) (h : List Note) : Prop where
  waiter : p.waiter = ⟨⟨fate h, shown h⟩⟩
  settled : Settled h
  due : AllDue h

lemma recorded_new : Recorded {} [] where
  waiter := rfl
  settled := by rintro m ⟨⟩
  due earlier n later heq := by cases earlier <;> cases heq

lemma AllDue.concat (hd : AllDue h) (hs : Settled h) (hn : Due h n) : AllDue (h ++ [n]) :=
  forall_entry_concat hd ⟨hs, hn⟩

lemma Settled.concat (hs : Settled h) (hn : Due h n) : Settled (h ++ [n]) := by
  intro m hm s he
  rcases List.mem_append.mp hm with hm | hm
  · cases hf : n.fate? with
    | none => rw [fate_concat_of_none h hf]; exact hs m hm s he
    | some t =>
        -- the callback was there until now, so nothing was noted of it before
        have hnever := (hs m hm s he).symm.trans (held_of_due hn hf)
        cases m <;> cases he <;> cases hnever
  · cases List.mem_singleton.mp hm
    rw [fate_concat_of_held (held_of_due hn he), he, Option.getD_some]

lemma Recorded.concat {p p' : Pair} (hr : Recorded p h) (hn : Due h n)
    (hwaiter : p'.waiter = ⟨⟨fate (h ++ [n]), shown (h ++ [n])⟩⟩) : Recorded p' (h ++ [n]) where
  waiter := hwaiter
  settled := hr.settled.concat hn
  due := hr.due.concat hr.settled hn

lemma shown_concat_of_false (h : List Note) (hn : n.shows = false) :
    shown (h ++ [n]) = shown h := by
  rw [shown_concat, hn, Bool.or_false]

lemma shows_looked (seen : Option Outcome) : (Note.looked seen).shows = seen.isSome := by
  cases seen <;> rfl

/-- What a look shows, and what it leaves. -/
lemma look_eq (s : Sender Outcome) (spent : Bool) :
    look ⟨⟨s, spent⟩⟩ = (if spent then some (.error lost) else told? s,
      ⟨⟨s, spent || (told? s).isSome⟩⟩) := by
  cases spent <;> cases s <;> rfl

/-- What an attempt comes to. -/
lemma attempt_eq (s : Sender Outcome) (spent : Bool) (manner : Manner) :
    attempt ⟨⟨s, spent⟩⟩ manner =
      if manner = .still true then .panic Dispatch.blockedInTask
      else if spent then .panic "called after complete"
        else (told? s).elim .blocked .outcome := by
  rcases manner with _ | _ | _ <;> cases spent <;> cases s <;> rfl

/-- **A turn is as the record says,** and so is what it leaves. -/
theorem Recorded.turn {p : Pair} (hr : Recorded p h) (turn : Turn) :
    Recorded (p.turn turn).2 (h ++ (p.turn turn).1.toList) := by
  obtain ⟨waiter, place⟩ := p
  obtain rfl : waiter = ⟨⟨fate h, shown h⟩⟩ := hr.waiter
  -- a turn that passes, or that only takes somebody to another place
  have hpass : ∀ place', Recorded ⟨⟨⟨fate h, shown h⟩⟩, place'⟩ (h ++ []) := fun place' =>
    (List.append_nil h).symm ▸ ⟨rfl, hr.settled, hr.due⟩
  cases turn with
  | call outcome =>
      rw [Pair.turn]
      split
      · rename_i hheld
        refine hr.concat hheld ?_
        rw [fate_concat_of_held hheld, shown_concat_of_false h rfl]
        exact congrArg (fun s => Waiter.mk ((Oneshot.mk s (shown h)).send outcome)) hheld
      · exact hpass place
      · exact hpass place
  | drop =>
      rw [Pair.turn]
      split
      · rename_i hheld
        refine hr.concat hheld ?_
        rw [fate_concat_of_held hheld, shown_concat_of_false h rfl]
        exact congrArg (fun s => Waiter.mk (Oneshot.mk s (shown h)).hangUp) hheld
      · exact hpass place
      · exact hpass place
  | look =>
      cases place with
      | waiter =>
          have hlook := look_eq (fate h) (shown h)
          refine hr.concat (congrArg Prod.fst hlook) ((congrArg Prod.snd hlook).trans ?_)
          rw [fate_concat_of_none h rfl, shown_concat, shows_looked, hlook]
          cases shown h <;> rfl
      | waiting _ | gone => exact hpass _
  | wait manner =>
      cases place with
      | waiter => exact hpass _
      | waiting _ | gone => exact hpass _
  | poll =>
      cases place with
      | waiting manner =>
          refine hr.concat (attempt_eq (fate h) (shown h) manner) ?_
          rw [fate_concat_of_none h rfl, shown_concat_of_false h rfl]
          rfl
      | waiter | gone => exact hpass _
  | leave => exact hpass .gone

lemma recorded_foldl (turns : List Turn) {x : Pair × List Note} (hx : Recorded x.1 x.2) :
    Recorded (turns.foldl noted x).1 (turns.foldl noted x).2 := by
  induction turns generalizing x with
  | nil => exact hx
  | cons turn turns ih => exact ih (hx.turn turn)

/-- **Whatever is noted was due.** -/
theorem due_history (turns : List Turn) : AllDue (history turns) :=
  (recorded_foldl turns recorded_new).due

/-! ## The truth -/

/-- The result that somebody was given. -/
def Note.result? : Note → Option Outcome
  | looked seen => seen
  | waited _ (.outcome o) => some o
  | called _ | dropped | waited _ .blocked | waited _ (.panic _) => none

/-- Somebody has asked, and was given nothing. -/
def Note.IsSilent (n : Note) : Prop := n = looked none ∨ ∃ manner, n = waited manner .blocked

/-- Somebody has asked, and would not hold up a task by that. -/
def Note.Asks (n : Note) : Prop :=
  (∃ seen, n = looked seen) ∨ ∃ manner wait, n = waited manner wait ∧ manner ≠ .still true

/-- **A record in which the waiter has told the truth.** -/
structure Truthful (h : List Note) : Prop where
  /-- Once the callback was called, nobody is given any other outcome. -/
  outcome : ∀ earlier n later, h = earlier ++ n :: later →
    ∀ o r, .called o ∈ earlier → n.result? = some r → r = o
  /-- Nobody is told that the callback was dropped, unless it was, or was called with just that. -/
  loss : ∀ earlier n later, h = earlier ++ n :: later →
    n.result? = some (.error lost) → .dropped ∈ earlier ∨ .called (.error lost) ∈ earlier
  /-- Nothing is given only while the callback can still be called. -/
  silence : ∀ earlier n later, h = earlier ++ n :: later →
    n.IsSilent → .dropped ∉ earlier ∧ ∀ o, .called o ∉ earlier
  /-- Nobody panics who waits, unless that would hold up a task. -/
  calm : ∀ earlier n later, h = earlier ++ n :: later →
    ∀ manner message, n = .waited manner (.panic message) → manner = .still true

section First

variable {r : Outcome} {manner : Manner} {message : String}

lemma shown_iff : shown h = true ↔ ∃ r, .looked (some r) ∈ h := by
  rw [shown, List.any_eq_true]
  constructor
  · rintro ⟨n, hn, hshows⟩
    cases n with
    | looked seen =>
        obtain ⟨r, rfl⟩ := Option.isSome_iff_exists.mp ((shows_looked seen).symm.trans hshows)
        exact ⟨r, hn⟩
    | called _ | dropped | waited _ _ => cases hshows
  · rintro ⟨r, hr⟩
    exact ⟨_, hr, rfl⟩

/-- Whoever is given a result first is given the one that there is. -/
lemma told_of_first (hd : Due earlier n) (hfirst : shown earlier = false)
    (hr : n.result? = some r) : told? (fate earlier) = some r := by
  cases n with
  | called _ | dropped => cases hr
  | looked seen =>
      rw [Due, hfirst] at hd
      exact hd.symm.trans hr
  | waited manner wait =>
      rw [Due, hfirst] at hd
      split at hd
      · subst hd
        cases hr
      · subst hd
        cases ht : told? (fate earlier) with
        | none => rw [ht] at hr; cases hr
        | some o => rw [ht] at hr; exact hr

/-- Whoever is given a result after a look has shown one has looked, and is told of a loss. -/
lemma lost_of_again (hd : Due earlier n) (hshown : shown earlier = true)
    (hr : n.result? = some r) : r = .error lost ∧ ∃ seen, n = .looked seen := by
  cases n with
  | called _ | dropped => cases hr
  | looked seen =>
      rw [Due, hshown] at hd
      exact ⟨Option.some.inj (hr.symm.trans hd), seen, rfl⟩
  | waited manner wait =>
      rw [Due, hshown] at hd
      split at hd <;> subst hd <;> cases hr

/-- Nothing is given while the callback is there. -/
lemma held_of_silent (hd : Due earlier n) (hn : n.IsSilent) : fate earlier = .held := by
  have hnone : told? (fate earlier) = none := by
    rcases hn with rfl | ⟨manner, rfl⟩
    · rw [Due] at hd
      split at hd
      · cases hd
      · exact hd.symm
    · rw [Due] at hd
      split at hd
      · cases hd
      · split at hd
        · cases hd
        · cases ht : told? (fate earlier) with
          | none => rfl
          | some o => rw [ht] at hd; cases hd
  cases hf : fate earlier with
  | held => rfl
  | sent _ | dropped => rw [hf] at hnone; cases hnone

/-- Whoever panics would hold up a task, or waits on a waiter that is used up. -/
lemma shown_of_panic (hd : Due earlier (.waited manner (.panic message)))
    (hmanner : manner ≠ .still true) : shown earlier = true := by
  rw [Due, if_neg hmanner] at hd
  cases hs : shown earlier with
  | true => rfl
  | false =>
      rw [hs] at hd
      cases ht : told? (fate earlier) <;> rw [ht] at hd <;> cases hd

/-- Only a callback that was dropped, or called with that, has a loss as its outcome. -/
lemma mem_of_lost (ht : told? (fate earlier) = some (.error lost)) :
    .dropped ∈ earlier ∨ .called (.error lost) ∈ earlier := by
  cases hf : fate earlier with
  | held => rw [hf] at ht; cases ht
  | dropped => exact .inl (mem_of_fate (congrArg some hf.symm))
  | sent o =>
      rw [hf] at ht
      cases Option.some.inj ht
      exact .inr (mem_of_fate (congrArg some hf.symm))

end First

/-- What comes of asking after a look has shown a result. -/
inductive Again : Note → Prop where
  | looked : Again (.looked (some (.error lost)))
  | waited (manner : Manner) : Again (.waited manner (.panic "called after complete"))

lemma again_of_due (hd : Due earlier n) (hshown : shown earlier = true) (hn : n.Asks) :
    Again n := by
  rcases hn with ⟨seen, rfl⟩ | ⟨manner, wait, rfl, hmanner⟩
  · rw [Due, hshown] at hd
    subst hd
    exact .looked
  · rw [Due, if_neg hmanner, hshown] at hd
    subst hd
    exact .waited manner

/-- A look that shows again what is true anyway: that the callback was dropped. -/
def Harmless (earlier : List Note) (n : Note) : Prop :=
  (∃ seen, n = .looked seen) ∧ (.dropped ∈ earlier ∨ .called (.error lost) ∈ earlier)

/-- Whoever asks after a look has shown a result does no harm. -/
def NoHarm (h : List Note) : Prop :=
  ∀ earlier n later, h = earlier ++ n :: later → (∃ r, .looked (some r) ∈ earlier) → n.Asks →
    Harmless earlier n

section NoHarm

variable {later : List Note} {r : Outcome} {manner : Manner} {message : String}

/-- Where the waiter has told the truth, only a look can have shown a result again, and rightly. -/
lemma Truthful.noHarm (htruth : Truthful h) (hdue : AllDue h) : NoHarm h := by
  intro earlier n later heq hshown hasks
  cases again_of_due (hdue earlier n later heq).2 (shown_iff.mpr hshown) hasks with
  | looked => exact ⟨⟨_, rfl⟩, htruth.loss earlier _ later heq rfl⟩
  | waited manner =>
      have hstill := htruth.calm earlier _ later heq manner _ rfl
      obtain ⟨seen, hseen⟩ | ⟨manner', wait, hwaited, hmanner⟩ := hasks
      · cases hseen
      · cases hwaited
        exact (hmanner hstill).elim

/-- Whoever has a result after another look is told of a loss, and rightly so. -/
lemma NoHarm.again (hharm : NoHarm h) (hdue : AllDue h) (heq : h = earlier ++ n :: later)
    (hshown : shown earlier = true) (hr : n.result? = some r) :
    r = .error lost ∧ (.dropped ∈ earlier ∨ .called (.error lost) ∈ earlier) := by
  obtain ⟨hlost, seen, hseen⟩ := lost_of_again (hdue earlier n later heq).2 hshown hr
  exact ⟨hlost, (hharm earlier n later heq (shown_iff.mp hshown) (.inl ⟨seen, hseen⟩)).2⟩

lemma NoHarm.outcome (hharm : NoHarm h) (hdue : AllDue h) (heq : h = earlier ++ n :: later)
    (hcalled : .called o ∈ earlier) (hr : n.result? = some r) : r = o := by
  obtain ⟨hsettled, hd⟩ := hdue earlier n later heq
  have hfate : fate earlier = .sent o := hsettled _ hcalled _ rfl
  cases hshown : shown earlier with
  | false =>
      have htold := told_of_first hd hshown hr
      rw [hfate] at htold
      exact (Option.some.inj htold).symm
  | true =>
      obtain ⟨rfl, hdropped | hlost⟩ := hharm.again hdue heq hshown hr
      · have hnever := hfate.symm.trans (hsettled _ hdropped _ rfl)
        cases hnever
      · have hsame := hfate.symm.trans (hsettled _ hlost _ rfl)
        cases hsame
        rfl

lemma NoHarm.loss (hharm : NoHarm h) (hdue : AllDue h) (heq : h = earlier ++ n :: later)
    (hr : n.result? = some (.error lost)) :
    .dropped ∈ earlier ∨ .called (.error lost) ∈ earlier := by
  cases hshown : shown earlier with
  | false => exact mem_of_lost (told_of_first (hdue earlier n later heq).2 hshown hr)
  | true => exact (hharm.again hdue heq hshown hr).2

/-- A waiter is silent for no other reason, whatever was asked before. -/
lemma AllDue.silence (hdue : AllDue h) (heq : h = earlier ++ n :: later) (hn : n.IsSilent) :
    .dropped ∉ earlier ∧ ∀ o, .called o ∉ earlier := by
  obtain ⟨hsettled, hd⟩ := hdue earlier n later heq
  have hheld := held_of_silent hd hn
  refine ⟨fun hdropped => ?_, fun o hcalled => ?_⟩
  · cases (hsettled _ hdropped _ rfl).symm.trans hheld
  · cases (hsettled _ hcalled _ rfl).symm.trans hheld

lemma NoHarm.calm (hharm : NoHarm h) (hdue : AllDue h)
    (heq : h = earlier ++ .waited manner (.panic message) :: later) : manner = .still true := by
  by_contra hmanner
  have hshown := shown_of_panic (hdue earlier _ later heq).2 hmanner
  obtain ⟨⟨seen, hseen⟩, -⟩ := hharm earlier _ later heq (shown_iff.mp hshown)
    (.inr ⟨manner, _, rfl, hmanner⟩)
  cases hseen

lemma NoHarm.truthful (hharm : NoHarm h) (hdue : AllDue h) : Truthful h where
  outcome _ _ _ heq _ _ hcalled hr := hharm.outcome hdue heq hcalled hr
  loss _ _ _ heq hr := hharm.loss hdue heq hr
  silence _ _ _ heq hn := hdue.silence heq hn
  calm _ _ _ heq _ _ hn := hharm.calm hdue (hn ▸ heq)

end NoHarm

/-- **A waiter tells the truth until it has told it.**  Nothing is wrong with a record just if
whoever asked after a look had shown a result has looked, and what was shown was the loss of the
callback.  Whoever else asks then is told of a loss that is none, or panics. -/
theorem truthful_iff (turns : List Turn) :
    (Truthful (history turns) ↔ ∀ earlier n later, history turns = earlier ++ n :: later →
      (∃ r, .looked (some r) ∈ earlier) → n.Asks → Harmless earlier n) ∧
    ∀ earlier n later, history turns = earlier ++ n :: later →
      (∃ r, .looked (some r) ∈ earlier) → n.Asks → Again n := by
  have hdue := due_history turns
  refine ⟨⟨fun htruth => htruth.noHarm hdue, fun hharm => NoHarm.truthful hharm hdue⟩, ?_⟩
  intro earlier n later heq hshown hasks
  exact again_of_due (hdue earlier n later heq).2 (shown_iff.mpr hshown) hasks

/-! ## Asking again -/

/-- The callback is called, somebody looks twice, and then waits. -/
def askedAgain : List Turn := [.call (.ok ()), .look, .look, .wait .task, .poll]

/-- The first look shows the outcome, the second one that the callback was dropped, and whoever
waits panics: this is not the truth. -/
theorem askedAgain_untruthful :
    history askedAgain = [.called (.ok ()), .looked (some (.ok ())), .looked (some (.error lost)),
      .waited .task (.panic "called after complete")] ∧ ¬ Truthful (history askedAgain) := by
  refine ⟨rfl, fun htruth => ?_⟩
  have hwrong := htruth.outcome [.called (.ok ()), .looked (some (.ok ()))] _ _ rfl (.ok ())
    (.error lost) (.head _) rfl
  cases hwrong

end DeviceLink.Waiter
