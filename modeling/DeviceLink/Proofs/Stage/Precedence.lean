import DeviceLink.Proofs.Record
import DeviceLink.Proofs.Stage.Discipline

/-!
# What comes before what

Everything that a stage hands over stands in one list, among what has come to it.  An operation that
makes a connection is not completed without the chain being told first that the connection is up,
and nothing comes in between; so with an operation that ends one.  And no session is called for an
operation on the connection before whatever that operation supersedes is over.

* `Parting` — why an operation that ends the connection is over.
* `Entry.Preceded`, `Timely` — what stands right before an entry.
* `Frame.Recalled` — what a frame says of the end of the list.
* **`announces_of_ok`** — what a stretch of work goes on from that completes a connection.
* **`timed_deed`** — whatever a stretch of work hands over comes at its time.
* **`timely_watch`** — so every list is in order, whatever comes to the stage.
-/

namespace DeviceLink

variable {κ : Type}

/-! ## Order in a record -/

/-- Why an operation that ends the connection is over, with the failure that it carries then. -/
inductive Parting (before : List (Entry κ)) (op : Operation κ) : Prop where
  /-- The session has reported that the connection is down, and the chain was told just now. -/
  | down {cause : Option Failure}
      (told : [.reported (.disconnected cause), .asked (.chain .disconnected)] <:+ before)
      (hcause : cause.isSome → op.error = cause)
  | superseded {newer : Operation κ} (h : op.error = some (Stage.superseded newer))
  | cancelled (h : op.error = some Stage.cancelled)
  | noSession (h : op.error = some (Stage.noSession op))
  /-- The session was called just now, and has not started it. -/
  | unstarted {session : SessionId} {f : Failure}
      (refused : [.asked (.call session .disconnect), .answered (.error f)] <:+ before)
      (h : op.error = some f)

/-- What is superseded fails with an error of the pipeline, whose text says so. -/
lemma superseded_says (newer : Operation κ) :
    (Stage.superseded newer).kind = .pipeline ∧
      "superseded".toList <:+: (Stage.superseded newer).message.toList := by
  refine ⟨rfl, [],
    (": cancelled because a new " ++ newer.name ++ " operation was issued").toList, ?_⟩
  rw [List.nil_append, ← String.toList_append]
  rfl

/-- What a shutdown cancels fails with an error of its own kind. -/
lemma kind_cancelled : Stage.cancelled.kind = .operationCancelled := rfl

/-- An operation arrives, and whatever is in the slots then is over: it is superseded. -/
def supersession (op : Operation κ) (occupants : List (Operation κ)) : List (Entry κ) :=
  occupants.map fun old => .asked (.chain (.complete (old.fail (Stage.superseded op))))

/-- **What stands right before an entry.** -/
def Entry.Preceded (before : List (Entry κ)) : Entry κ → Prop
  | asked (.chain (.complete op)) =>
    (op.request = .connect ∨ op.request = .reconnect → op.outcome = .ok () →
        [.reported .connected, .asked (.chain .connected)] <:+ before) ∧
      (op.request = .disconnect → Parting before op)
  | asked (.call _ c) =>
    ∀ aim, c.aim? = some aim → ∃ op occupants, op.request.aim? = some aim ∧
      (.arrived op occupants :: supersession op occupants) <:+ before
  | asked _ | arrived _ _ | reported _ | answered _ => True

/-- **Every entry of a record comes at its time.** -/
def Timely (record : List (Entry κ)) : Prop :=
  ∀ before e after, record = before ++ e :: after → e.Preceded before

lemma timely_nil : Timely ([] : List (Entry κ)) := by
  intro before e after h
  cases before <;> cases h

lemma Timely.concat {g : List (Entry κ)} (h : Timely g) {e : Entry κ} (he : e.Preceded g) :
    Timely (g ++ [e]) :=
  forall_entry_concat h he

/-- What comes to a stage may come at any time. -/
lemma Timely.come {g : List (Entry κ)} (h : Timely g) (s : Stage κ) (m : Move κ) :
    Timely (g ++ (m.noted? s).toList) := by
  cases m with
  | enter _ _ | deliver _ | answered _ => exact h.concat trivial
  | abandon _ | proceed | created _ | panic _ => rwa [Move.noted?, Option.toList_none,
      List.append_nil]

/-! ## What a frame recalls -/

/-- **What a frame says of the end of the record.** -/
def Frame.Recalled (g : List (Entry κ)) : Frame κ → Prop
  | announced => [.reported .connected, .asked (.chain .connected)] <:+ g
  | retired cause => [.reported (.disconnected cause), .asked (.chain .disconnected)] <:+ g
  | superseding left _ op => ∃ done,
    (.arrived op (done ++ left) :: supersession op done) <:+ g
  | starting slot => slot = .disconnect → ∃ session, [.asked (.call session .disconnect)] <:+ g
  | last | creating _ _ | replacing _ | requesting _ | abandoning _ _ => True

/-- What is handed over comes at its time, and the frame that is left recalls it. -/
def Next.Timed (g : List (Entry κ)) (n : Next κ) : Prop :=
  ∀ ask f, n = .ask ask f → (Entry.asked ask).Preceded g ∧ f.Recalled (g ++ [.asked ask])

namespace Stage

variable {s t : Stage κ} {op : Operation κ} {frame : Option (Frame κ)} {m : Move κ}
  {spilt : List Failure} {n : Next κ} {aim : Aim} {g : List (Entry κ)}
  {clean : Operation κ → Prop}

lemma aim?_of_connects (h : op.request = .connect ∨ op.request = .reconnect) :
    op.request.aim? ≠ none := by
  rcases h with h | h <;> rw [h] <;> rintro ⟨⟩

lemma timed_done : (Next.done : Next κ).Timed g := by rintro ask f ⟨⟩

lemma timed_ending (h : (Entry.asked (.chain (.complete op))).Preceded g) :
    (Next.ending op).Timed g := by
  rintro ask f ⟨⟩
  exact ⟨h, trivial⟩

/-- Nothing has to come before the end of an operation that is not about the connection. -/
lemma timed_ending_of_aim? (h : op.request.aim? = none) : (Next.ending op).Timed g := by
  refine timed_ending ⟨fun hr => (aim?_of_connects hr h).elim, fun hr => ?_⟩
  rw [hr] at h
  cases h

/-- An operation that fails does not complete a connection. -/
lemma preceded_of_fail (f : Failure) (h : op.request = .disconnect → Parting g (op.fail f)) :
    (Entry.asked (.chain (.complete (op.fail f)))).Preceded g :=
  ⟨fun _ hok => (by cases hok), h⟩

lemma aim?_of_awaiting? (h : s.Suited clean) {id : Nat} (hop : s.awaiting? id = some op) :
    op.request.aim? = none :=
  Request.aim?_of_kind? (h.waiting _ (mem_of_awaiting? hop)).1

/-- An operation starts when everything that it supersedes is over. -/
lemma timed_starts (hr : op.request.aim? = some aim) {occupants : List (Operation κ)}
    (hg : (.arrived op occupants :: supersession op occupants) <:+ g)
    (hs : s.Starts aim op t n) : n.Timed g := by
  cases hs with
  | barred text => rintro ask f ⟨⟩
  | refused hnone => exact timed_ending (preceded_of_fail _ fun _ => .noSession rfl)
  | @called session hsome =>
      rintro ask f ⟨⟩
      refine ⟨fun other haim => ⟨op, occupants, ?_, hg⟩, fun hslot => ⟨session, ?_⟩⟩
      · rw [hr, ← haim, aim?_callFor]
      · cases aim <;> cases hslot
        exact List.suffix_append _ _

lemma timed_supersedes (hr : op.request.aim? = some aim) (done : List (Operation κ))
    {left : List (Operation κ)}
    (hg : (.arrived op (done ++ left) :: supersession op done) <:+ g)
    (hs : s.Supersedes aim op left t n) : n.Timed g := by
  cases hs with
  | last hs => exact timed_starts hr (by rwa [List.append_nil] at hg) hs
  | @next old left =>
      rintro ask f ⟨⟩
      refine ⟨preceded_of_fail _ fun _ => .superseded rfl, done ++ [old], ?_⟩
      rw [List.append_assoc, supersession, List.map_append, ← List.cons_append]
      obtain ⟨earlier, rfl⟩ := hg
      exact ⟨earlier, by simp [supersession]⟩

lemma timed_abandons {session : Option SessionId} {left : List (Operation κ)}
    (h : Abandons session left n) : n.Timed g := by
  cases h with
  | done => exact timed_done
  | releases =>
      rintro ask f ⟨⟩
      exact ⟨trivial, trivial⟩
  | next =>
      rintro ask f ⟨⟩
      exact ⟨preceded_of_fail _ fun _ => .cancelled rfl, trivial⟩

lemma not_ok_of_supersedes {left : List (Operation κ)} (hs : s.Supersedes aim op left t n)
    {ended : Operation κ} {f : Frame κ} (hn : n = .ask (.chain (.complete ended)) f) :
    ended.outcome ≠ .ok () := by
  cases hs with
  | next =>
      cases hn
      rintro ⟨⟩
  | last hs =>
      cases hs <;> cases hn
      rintro ⟨⟩

lemma not_ok_of_abandons {session : Option SessionId} {left : List (Operation κ)}
    (h : Abandons session left n) {ended : Operation κ} {f : Frame κ}
    (hn : n = .ask (.chain (.complete ended)) f) : ended.outcome ≠ .ok () := by
  cases h <;> cases hn
  rintro ⟨⟩

/-- **A connection is completed** only when everybody has been told that it is up. -/
theorem announces_of_ok (h : s.Suited clean) (hframe : ∀ f, frame = some f → f.Suited clean)
    (hd : s.Deed frame m t spilt n) {f : Frame κ} (hn : n = .ask (.chain (.complete op)) f)
    (hr : op.request = .connect ∨ op.request = .reconnect) (hok : op.outcome = .ok ()) :
    m = .proceed ∧ frame = some .announced := by
  have haim := aim?_of_connects hr
  cases hd with
  | announces here hop => exact ⟨rfl, here⟩
  | barred _ | wants _ _ | asks _ _ _ | passes | rises | falls | hears | failsAlone _
  | acknowledgesNobody _ | ends _ | announcesAlone _ _ | retiresAlone _ _ | remade _ _ | accepts _
  | unstartedNobody _ _ | unaskedNobody _ _ => cases hn
  | rejects _ | refuses _ _ | fails _ | unmade _ | unstarted _ _ | unasked _ _ =>
      cases hn
      cases hok
  | turns _ hs => exact (not_ok_of_supersedes hs hn hok).elim
  | supersedes _ hs => exact (not_ok_of_supersedes hs hn hok).elim
  | givesUp ha => exact (not_ok_of_abandons ha hn hok).elim
  | abandons _ ha => exact (not_ok_of_abandons ha hn hok).elim
  | keeps hcredential =>
      cases hn
      exact (haim (by rw [hcredential]; rfl)).elim
  | @acknowledges id outcome held hop =>
      cases hn
      cases outcome with
      | ok u => exact (haim (aim?_of_awaiting? h hop)).elim
      | error f => cases hok
  | @retires cause held here hop =>
      cases hn
      have hheld := h.disconnect hop
      cases cause with
      | none => exact (by rcases hr with hr | hr <;> cases hheld.symm.trans hr)
      | some f => cases hok
  | replaces here =>
      cases hn
      obtain ⟨⟨args, hargs⟩, -⟩ := hframe _ here
      exact (haim (by rw [hargs]; rfl)).elim
  | made here _ =>
      cases hn
      obtain ⟨⟨args, hargs⟩, -⟩ := hframe _ here
      exact (haim (by rw [hargs]; rfl)).elim

/-- **Whatever a stretch of work hands over** comes at its time. -/
theorem timed_deed (h : s.Suited clean) (hframe : ∀ f, frame = some f → f.Suited clean)
    (hrecalled : ∀ f, frame = some f → f.Recalled g) (hd : s.Deed frame m t spilt n) :
    n.Timed (g ++ (m.noted? s).toList) := by
  cases hd with
  | barred _ => rintro ask f ⟨⟩
  | failsAlone _ | acknowledgesNobody _ | ends _ | announcesAlone _ _ | retiresAlone _ _
  | accepts _ | unstartedNobody _ _ | unaskedNobody _ _ => exact timed_done
  | rejects hr => exact timed_ending_of_aim? (by rw [Operation.fail, hr]; rfl)
  | keeps hr => exact timed_ending_of_aim? (by rw [hr]; rfl)
  | refuses hk hnone => exact timed_ending_of_aim? (Request.aim?_of_kind? hk)
  | wants _ _ | passes | hears | remade _ _ =>
      rintro ask f ⟨⟩
      exact ⟨trivial, trivial⟩
  | asks hk hc hsome =>
      rintro ask f ⟨⟩
      have hnone := SessionCall.aim?_of_tracked? (Option.isSome_of_eq_some hc)
      exact ⟨fun aim haim => (by cases hnone.symm.trans haim), trivial⟩
  | turns hr hs => exact timed_supersedes hr [] (List.suffix_append _ _) hs
  | rises =>
      rintro ask f ⟨⟩
      refine ⟨trivial, g, ?_⟩
      simp [Move.noted?]
  | falls =>
      rintro ask f ⟨⟩
      refine ⟨trivial, g, ?_⟩
      simp [Move.noted?]
  | fails hop =>
      refine timed_ending (preceded_of_fail _ fun hr => ?_)
      rcases h.connect hop with hc | hc <;> cases hc.symm.trans hr
  | @acknowledges id outcome held hop =>
      have haim := aim?_of_awaiting? h hop
      cases outcome <;> exact timed_ending_of_aim? haim
  | givesUp ha => exact timed_abandons ha
  | abandons _ ha => exact timed_abandons ha
  | supersedes here hs =>
      obtain ⟨done, hg⟩ := hrecalled _ here
      rw [Move.noted?, Option.toList_none, List.append_nil]
      exact timed_supersedes (hframe _ here).1 done hg hs
  | announces here hop =>
      rw [Move.noted?, Option.toList_none, List.append_nil]
      refine timed_ending ⟨fun _ _ => hrecalled _ here, fun hr => ?_⟩
      rcases h.connect hop with hc | hc <;> cases hc.symm.trans hr
  | @retires cause held here hop =>
      rw [Move.noted?, Option.toList_none, List.append_nil]
      have hheld := h.disconnect hop
      have htold := hrecalled _ here
      cases cause with
      | none =>
          refine timed_ending ⟨fun hr => ?_, fun _ => .down htold (by rintro ⟨⟩)⟩
          rcases hr with hr | hr <;> cases hheld.symm.trans hr
      | some f => exact timed_ending (preceded_of_fail f fun _ => .down htold fun _ => rfl)
  | replaces here | made here _ =>
      obtain ⟨⟨args, hargs⟩, -⟩ := hframe _ here
      exact timed_ending_of_aim? (by rw [hargs]; rfl)
  | unmade here =>
      obtain ⟨⟨args, hargs⟩, -⟩ := hframe _ here
      exact timed_ending_of_aim? (by rw [Operation.fail, hargs]; rfl)
  | @unstarted slot f held here hop =>
      refine timed_ending (preceded_of_fail f fun hr => ?_)
      cases slot with
      | connect => rcases h.connect hop with hc | hc <;> cases hc.symm.trans hr
      | disconnect =>
          obtain ⟨session, earlier, hg⟩ := hrecalled _ here rfl
          have hlast : [.asked (.call session .disconnect), .answered (.error f)]
              <:+ g ++ ((Move.answered (.error f)).noted? s).toList := by
            refine ⟨earlier, ?_⟩
            rw [← hg]
            simp [Move.noted?]
          exact .unstarted hlast rfl
  | unasked here hop =>
      have haim := aim?_of_awaiting? h hop
      exact timed_ending_of_aim? haim

end Stage

/-! ## Runs -/

namespace Activity

variable {a a' : Activity κ} {m : Move κ} {traces : List (Trace κ)} {g : List (Entry κ)}

/-- A stage and its record: everything has come at its time, and what the stage waits for recalls
the end of the record. -/
structure InTime (a : Activity κ) (g : List (Entry κ)) : Prop where
  alone : a.levels.length ≤ 1
  sited : a.Sited fun _ => True
  recalled : ∀ l ∈ a.levels, l.2.Recalled g
  timely : Timely g

lemma inTime_new (name : String) : ({ stage := .new name } : Activity κ).InTime [] :=
  ⟨Nat.zero_le 1, sited_new name, List.forall_mem_nil _, timely_nil⟩

/-- **Every move with which nobody comes back** keeps the order. -/
theorem InTime.comes (h : a.InTime g) (hm : a.comes m = some (a', traces)) :
    a'.InTime (g ++ a.entries m traces) := by
  rw [entries, ← List.append_assoc]
  rcases comes_cases h.alone hm with ⟨message, rfl, rfl⟩ | ⟨-, t, ht, rfl, rfl⟩
  · rw [filterMap_noted?_unwind, List.append_nil]
    exact ⟨Nat.zero_le 1, h.sited.unwound message _, List.forall_mem_nil _, h.timely.come _ _⟩
  · have hdoes := does_turn ht
    have hrecalled : ∀ f, a.frame? = some f → f.Recalled g := by
      intro f hf
      obtain ⟨ask, hl⟩ := mem_levels_of_frame? hf
      exact h.recalled _ hl
    have htimed := Stage.timed_deed h.sited.stage h.sited.frame hrecalled hdoes.deed
    rw [filterMap_noted?_settle hdoes.quiet]
    refine ⟨?_, h.sited.turn (fun _ _ => trivial) ht, fun l hl => ?_, ?_⟩
    · rw [settle]
      cases t.next <;> simp [unwind]
    · have hn := mem_levels_settle.mp hl
      rw [hn]
      exact (htimed l.1 l.2 hn).2
    · cases hn : t.next with
      | done | panic message =>
          rw [Next.noted?, Option.toList_none, List.append_nil]
          exact h.timely.come _ _
      | ask ask frame => exact (h.timely.come _ _).concat (htimed ask frame hn).1

/-- **Every record is in order**, whatever comes to the stage. -/
theorem timely_watch (name : String) (moves : List (Move κ)) :
    Timely (watch ({ stage := .new name }, []) moves).2 := by
  have htime : InTime (watch ({ stage := .new name }, []) moves).1
      (watch ({ stage := .new name }, []) moves).2 := by
    refine runWith_induction InTime ?_ (inTime_new name)
    exact fun _ _ _ _ _ h hm => h.comes hm
  exact htime.timely

end Activity

end DeviceLink
