import DeviceLink.Proofs.Stage.Custody
import DeviceLink.Proofs.Whereabouts
import DeviceLink.Stage.Activity

/-!
# Coming back into a stage

The chain may come back into a stage while the stage hands something to it, and again while that
is handed over, to any depth.  So what holds of one stretch of work is carried through stacks of
stretches that are cut short.

* `Activity.Orderly` — the shape of a stage at work: only the innermost level may hold the cell.
* `Activity.Lawful` — a run in which only the worker and the chain bring operations, and only the
  worker delivers reports.
* `Activity.lost` — what is lost in a run: an operation that stands in a slot when another one is
  put into it, and what is in hand when a panic unwinds the levels.
* **`stock_run`** — every operation is in hand, handed over, or lost.
* **`standsOnce_iff_lost_eq_nil`** — once control is back with the worker, every operation that was
  brought is in exactly one place just when nothing was lost.
-/

namespace DeviceLink

variable {κ : Type}

/-! ## Moves -/

def Move.brings : Move κ → List (Operation κ)
  | enter _ op => [op]
  | deliver _ | abandon _ | proceed | created _ | answered _ | panic _ => []

/-- Every operation that is brought in the course of some moves. -/
def brought (moves : List (Move κ)) : List (Operation κ) := moves.flatMap Move.brings

namespace Activity

variable {a a' : Activity κ} {m : Move κ} {traces : List (Trace κ)}

/-- The operations that the stage has in hand or keeps, apart from those that are handed over. -/
def inHand (a : Activity κ) : List (Operation κ) :=
  a.levels.flatMap (·.2.operations) ++ a.stage.pending

/-- Control lies with the worker or with the chain. -/
def isOpen (a : Activity κ) : Bool :=
  match a.asked? with
  | none | some (.chain _) => true
  | some (.create _) | some (.call _ _) | some (.release _) => false

/-- Whether whoever has control may make a move; returning and panicking are open to everybody. -/
def Permits (a : Activity κ) : Move κ → Prop
  | .enter o _ | .abandon o => o = .on .pipeline ∧ a.isOpen
  | .deliver _ => a.levels = []
  | .proceed | .created _ | .answered _ | .panic _ => True

/-- What is lost by a move: the occupant of a slot that is filled again, and what is in hand when
everything is unwound. -/
def losing (a : Activity κ) : Move κ → List (Operation κ)
  | .proceed => a.levels.head?.toList.flatMap fun l => (a.stage.displaced l.2).toList
  | .panic _ => a.levels.flatMap (·.2.operations)
  | .enter _ _ | .deliver _ | .abandon _ | .created _ | .answered _ => []

/-- The levels that stay as they are while a move is made. -/
def beneath (a : Activity κ) : Move κ → List (Ask κ × Frame κ)
  | .enter _ _ | .deliver _ | .abandon _ => a.levels
  | .proceed | .created _ | .answered _ => a.levels.tail
  | .panic _ => []

/-- The stretch of work that a move starts; a panic starts none. -/
def turn? (a : Activity κ) : Move κ → Option (Turn κ)
  | .enter o op => some (a.stage.run o op)
  | .deliver r => some (a.stage.report r)
  | .abandon o => some (a.stage.abandon o)
  | .proceed => a.levels.head?.bind fun l => a.stage.proceed l.2
  | .created result => a.levels.head?.bind fun l => a.stage.created result l.2
  | .answered outcome => a.levels.head?.bind fun l => a.stage.answered outcome l.2
  | .panic _ => none

lemma step_eq (a : Activity κ) (m : Move κ) :
    a.step m = match m with
      | .panic message => some (unwind a.stage message a.levels)
      | m => (a.turn? m).map (settle (a.beneath m)) := by
  obtain ⟨s, levels⟩ := a
  cases m with
  | enter _ _ | deliver _ | abandon _ | panic _ => rfl
  | proceed | created _ | answered _ => cases levels <;> rfl

/-- **The shape of a stage at work.**  Each level waits for what its frame goes on from, and at most
the innermost one holds the cell. -/
structure Orderly (a : Activity κ) : Prop where
  filed : a.stage.Filed
  fits : ∀ l ∈ a.levels, l.1.Fits l.2
  cell : a.stage.entered = a.levels.head?.any (·.2.holdsCell)
  outer : ∀ l ∈ a.levels.tail, l.2.holdsCell = false

lemma orderly_new (name : String) : ({ stage := .new name } : Activity κ).Orderly :=
  ⟨Stage.filed_new name, List.forall_mem_nil _, rfl, List.forall_mem_nil _⟩

lemma holdsCell_of_chain {c : ChainCall κ} {frame : Frame κ} (h : (Ask.chain c).Fits frame) :
    frame.holdsCell = false := by
  cases frame <;> first | rfl | (cases c <;> exact h.elim)

/-- Where control lies with the worker or the chain, nobody is inside the cell. -/
lemma Orderly.outside (h : a.Orderly) (ho : a.isOpen) :
    a.stage.entered = false ∧ ∀ l ∈ a.levels, l.2.holdsCell = false := by
  obtain ⟨s, levels⟩ := a
  cases levels with
  | nil => exact ⟨h.cell, List.forall_mem_nil _⟩
  | cons l below =>
      obtain ⟨ask, frame⟩ := l
      have hl : frame.holdsCell = false := by
        cases ask with
        | chain c => exact holdsCell_of_chain (h.fits _ List.mem_cons_self)
        | create _ | call _ _ | release _ => cases ho
      refine ⟨h.cell.trans hl, ?_⟩
      intro k hk
      rcases List.mem_cons.mp hk with rfl | hk
      · exact hl
      · exact h.outer k hk

/-! ## One move -/

/-- What a stretch of work in order leaves above levels that are outside of the cell. -/
lemma orderly_settle {t : Turn κ} {given lost : Multiset (Operation κ)} (h : t.InOrder given lost)
    {below : List (Ask κ × Frame κ)} (hfits : ∀ l ∈ below, l.1.Fits l.2)
    (hout : ∀ l ∈ below, l.2.holdsCell = false) : (settle below t).1.Orderly := by
  have hready := h.ready
  rw [Turn.Ready] at hready
  rw [settle]
  cases hn : t.next with
  | done =>
      simp only [hn] at hready
      refine ⟨h.filed, hfits, ?_, fun l hl => hout l (List.mem_of_mem_tail hl)⟩
      cases below with
      | nil => exact hready
      | cons l rest => exact hready.trans (hout l List.mem_cons_self).symm
  | ask ask frame =>
      simp only [hn] at hready
      refine ⟨h.filed, ?_, hready.2, hout⟩
      intro l hl
      rcases List.mem_cons.mp hl with rfl | hl
      · exact hready.1
      · exact hfits l hl
  | panic message =>
      simp only [hn] at hready

lemma stock_settle {t : Turn κ} {given lost : Multiset (Operation κ)} (h : t.InOrder given lost)
    (below : List (Ask κ × Frame κ)) :
    stock (settle below t).1.inHand + stock (handed (settle below t).2) + lost
      = given + stock (below.flatMap (·.2.operations)) := by
  have hready := h.ready
  rw [Turn.Ready] at hready
  rw [← h.stock, Turn.operations, settle]
  cases hn : t.next with
  | done =>
      simp only [inHand, handed_of_remarks h.quiet, stock_append, stock_nil]
      abel
  | ask ask frame =>
      simp only [inHand, handed_of_remarks h.quiet, List.flatMap_cons, handed_append, handed_cons,
        handed_nil, Trace.operations, stock_append, stock_nil]
      abel
  | panic message =>
      simp only [hn] at hready

lemma handed_unwind (s : Stage κ) (message : String) (levels : List (Ask κ × Frame κ)) :
    handed (unwind s message levels).2 = [] := by
  rw [unwind, handed_append, List.append_eq_nil_iff]
  refine ⟨?_, rfl⟩
  rw [handed, List.flatMap_eq_nil_iff]
  intro trace ht
  obtain ⟨l, -, hl⟩ := List.mem_filterMap.mp ht
  obtain ⟨session, -, rfl⟩ := Option.map_eq_some_iff.mp hl
  rfl

lemma Orderly.beneath (h : a.Orderly) (hp : a.Permits m) :
    ∀ l ∈ a.beneath m, l.1.Fits l.2 ∧ l.2.holdsCell = false := by
  intro l hl
  cases m with
  | enter o _ | abandon o => exact ⟨h.fits l hl, (h.outside hp.2).2 l hl⟩
  | deliver report =>
      rw [Activity.beneath, show a.levels = [] from hp] at hl
      exact absurd hl List.not_mem_nil
  | proceed | created _ | answered _ => exact ⟨h.fits l (List.mem_of_mem_tail hl), h.outer l hl⟩
  | panic _ => exact absurd hl List.not_mem_nil

/-- What a stretch of work is given: what the move brings, what the innermost level has in hand if
it returns, and what the stage keeps. -/
lemma stock_given {s : Stage κ} (l : Ask κ × Frame κ) (below : List (Ask κ × Frame κ)) :
    stock l.2.operations + stock s.pending + stock (below.flatMap (·.2.operations))
      = stock ([] : List (Operation κ))
        + stock ({ stage := s, levels := l :: below } : Activity κ).inHand := by
  simp only [inHand, List.flatMap_cons, stock_append, stock_nil]
  abel

/-- **Every stretch of work is in order**, whatever move starts it. -/
lemma Orderly.turn (h : a.Orderly) (hp : a.Permits m)
    (fresh : ∀ op ∈ m.brings, a.stage.awaiting? op.id = none) {t : Turn κ}
    (ht : a.turn? m = some t) :
    ∃ given, t.InOrder given (stock (a.losing m)) ∧
      given + stock ((a.beneath m).flatMap (·.2.operations))
        = stock m.brings + stock a.inHand := by
  cases m with
  | enter o op =>
      obtain ⟨rfl, ho⟩ := hp
      cases ht
      refine ⟨_, Stage.inOrder_run (h.outside ho).1 h.filed (fresh op List.mem_cons_self), ?_⟩
      simp only [inHand, Activity.beneath, Move.brings, stock_append, stock_cons, stock_nil]
      abel
  | deliver report =>
      cases ht
      have hcell : a.stage.entered = false := by
        rw [h.cell, show a.levels = [] from hp]
        rfl
      refine ⟨_, Stage.inOrder_report hcell h.filed report, ?_⟩
      simp [inHand, Activity.beneath, Move.brings, show a.levels = [] from hp]
  | abandon o =>
      obtain ⟨rfl, ho⟩ := hp
      cases ht
      refine ⟨_, Stage.inOrder_abandon (h.outside ho).1, ?_⟩
      simp only [inHand, Activity.beneath, Move.brings, stock_append, stock_nil]
      abel
  | proceed | created _ | answered _ =>
      obtain ⟨s, levels⟩ := a
      cases levels with
      | nil => cases ht
      | cons l below =>
          refine ⟨_, ?_, stock_given l below⟩
          first
          | exact Stage.inOrder_created h.cell h.filed ht
          | exact Stage.inOrder_answered h.filed ht
          | simpa [losing] using Stage.inOrder_proceed h.cell h.filed ht
  | panic message => cases ht

/-- **What a move can be**: a panic that unwinds everything, or a stretch of work above what stays
as it is. -/
lemma step_cases {r : Activity κ × List (Trace κ)} (hs : a.step m = some r) :
    (∃ message, m = .panic message ∧ r = unwind a.stage message a.levels) ∨
      ∃ t, a.turn? m = some t ∧ r = settle (a.beneath m) t := by
  rw [step_eq] at hs
  cases m with
  | panic message => exact .inl ⟨message, rfl, (Option.some.inj hs).symm⟩
  | enter _ _ | deliver _ | abandon _ | proceed | created _ | answered _ =>
      obtain ⟨t, ht, hr⟩ := Option.map_eq_some_iff.mp hs
      exact .inr ⟨t, ht, hr.symm⟩

theorem Orderly.step (h : a.Orderly) (hp : a.Permits m)
    (fresh : ∀ op ∈ m.brings, a.stage.awaiting? op.id = none)
    (hs : a.step m = some (a', traces)) : a'.Orderly := by
  rcases step_cases hs with ⟨message, rfl, hr⟩ | ⟨t, ht, hr⟩
  · have ha : a' = (unwind a.stage message a.levels).1 := congrArg Prod.fst hr
    subst ha
    refine ⟨h.filed.of_eq rfl, List.forall_mem_nil _, ?_, List.forall_mem_nil _⟩
    obtain ⟨s, levels⟩ := a
    have hcell := h.cell
    cases levels with
    | nil => simpa [unwind] using hcell
    | cons l below =>
        have hl : s.entered = l.2.holdsCell := hcell
        cases hh : l.2.holdsCell <;> simp [unwind, hl, hh]
  · have ha : a' = (settle (a.beneath m) t).1 := congrArg Prod.fst hr
    subst ha
    obtain ⟨given, horder, -⟩ := h.turn hp fresh ht
    have hbelow := h.beneath hp
    exact orderly_settle horder (fun l hl => (hbelow l hl).1) fun l hl => (hbelow l hl).2

/-- **One move accounts for every operation.** -/
theorem stock_step (h : a.Orderly) (hp : a.Permits m)
    (fresh : ∀ op ∈ m.brings, a.stage.awaiting? op.id = none)
    (hs : a.step m = some (a', traces)) :
    stock a'.inHand + stock (handed traces) + stock (a.losing m)
      = stock m.brings + stock a.inHand := by
  rcases step_cases hs with ⟨message, rfl, hr⟩ | ⟨t, ht, hr⟩
  · have ha : a' = (unwind a.stage message a.levels).1 := congrArg Prod.fst hr
    have htr : traces = (unwind a.stage message a.levels).2 := congrArg Prod.snd hr
    rw [htr, handed_unwind, ha]
    simp only [unwind, inHand, losing, Move.brings, List.flatMap_nil, List.nil_append, stock_append,
      stock_nil, Stage.stock_pending]
    abel
  · have ha : a' = (settle (a.beneath m) t).1 := congrArg Prod.fst hr
    have htr : traces = (settle (a.beneath m) t).2 := congrArg Prod.snd hr
    obtain ⟨given, horder, hgiven⟩ := h.turn hp fresh ht
    rw [ha, htr, stock_settle horder, hgiven]

/-! ## Runs -/

/-- **A run in which everybody keeps to the rules.** -/
def Lawful (a : Activity κ) : List (Move κ) → Prop
  | [] => True
  | m :: rest =>
    match a.step m with
    | none => a.Lawful rest
    | some (next, _) => a.Permits m ∧ next.Lawful rest

instance (a : Activity κ) (m : Move κ) : Decidable (a.Permits m) := by
  cases m <;> unfold Permits <;> infer_instance

instance decidableLawful : (a : Activity κ) → (moves : List (Move κ)) → Decidable (a.Lawful moves)
  | _, [] => .isTrue trivial
  | a, m :: rest =>
    match h : a.step m with
    | none => @decidable_of_iff _ (a.Lawful rest) (by rw [Lawful, h]) (decidableLawful a rest)
    | some (next, _) =>
      have := decidableLawful next rest
      decidable_of_iff (a.Permits m ∧ next.Lawful rest) (by rw [Lawful, h])

/-- Everything that is lost in the course of a run. -/
def lost (a : Activity κ) : List (Move κ) → List (Operation κ)
  | [] => []
  | m :: rest =>
    match a.step m with
    | none => a.lost rest
    | some (next, _) => a.losing m ++ next.lost rest

/-- Nothing is left to come back to under a number that is brought later. -/
lemma awaiting?_of_nodup (h : a.Orderly) {later : List (Operation κ)}
    (hn : ((m.brings ++ later ++ a.inHand).map Operation.id).Nodup) :
    ∀ op ∈ m.brings, a.stage.awaiting? op.id = none := by
  intro op hop
  refine h.filed.awaiting?_eq_none fun kept hkept he => ?_
  rw [List.map_append, List.nodup_append] at hn
  have hin : kept ∈ a.inHand := List.mem_append_right _ hkept
  exact hn.2.2 op.id (List.mem_map_of_mem (List.mem_append_left _ hop)) kept.id
    (List.mem_map_of_mem hin) he.symm

lemma coe_ids (ops : List (Operation κ)) :
    ((ops.map Operation.id : List Nat) : Multiset Nat) = (stock ops).map Operation.id := by
  rw [stock, Multiset.map_coe, List.map_map]
  rfl

/-- What is in hand after a move has come with it or was in hand before. -/
lemma nodup_of_step {later : List (Operation κ)} {gone : Multiset (Operation κ)}
    (hs : stock a'.inHand + gone = stock m.brings + stock a.inHand)
    (hn : ((m.brings ++ later ++ a.inHand).map Operation.id).Nodup) :
    ((later ++ a'.inHand).map Operation.id).Nodup := by
  have hle : stock (later ++ a'.inHand) ≤ stock (m.brings ++ later ++ a.inHand) := by
    simp only [stock_append]
    calc stock later + stock a'.inHand
        ≤ stock later + (stock a'.inHand + gone) := by gcongr; exact Multiset.le_add_right _ _
      _ = stock m.brings + stock later + stock a.inHand := by rw [hs]; abel
  rw [← Multiset.coe_nodup, coe_ids] at hn ⊢
  exact Multiset.nodup_of_le (Multiset.map_le_map hle) hn

/-- **A run accounts for every operation**: each is in hand, handed over, or lost. -/
theorem stock_run {moves : List (Move κ)} (h : a.Orderly) (hl : a.Lawful moves)
    (hn : ((brought moves ++ a.inHand).map Operation.id).Nodup) :
    (a.run moves).1.Orderly ∧
      stock (a.run moves).1.inHand + stock (handed (a.run moves).2) + stock (a.lost moves)
        = stock (brought moves) + stock a.inHand := by
  induction moves generalizing a with
  | nil => exact ⟨h, by simp [run, lost, brought]⟩
  | cons m rest ih =>
      rw [brought, List.flatMap_cons] at hn
      have hfresh := awaiting?_of_nodup h hn
      rw [run, lost]
      rw [Lawful] at hl
      cases hs : a.step m with
      | none =>
          -- bringing an operation is always possible
          have hbrings : m.brings = [] := by
            cases m with
            | enter o op => cases hs
            | deliver _ | abandon _ | proceed | created _ | answered _ | panic _ => rfl
          simp only [hs] at hl
          rw [hbrings, List.nil_append] at hn
          simpa [brought, hbrings] using ih h hl hn
      | some r =>
          obtain ⟨next, traces⟩ := r
          simp only [hs] at hl
          have hstep := stock_step h hl.1 hfresh hs
          have hkept : stock next.inHand + (stock (handed traces) + stock (a.losing m))
              = stock m.brings + stock a.inHand := by rw [← add_assoc, hstep]
          obtain ⟨horderly, hrest⟩ := ih (h.step hl.1 hfresh hs) hl.2 (nodup_of_step hkept hn)
          refine ⟨horderly, ?_⟩
          simp only [handed_append, stock_append, brought, List.flatMap_cons] at hrest ⊢
          calc _ = (stock (next.run rest).1.inHand + stock (handed (next.run rest).2)
                  + stock (next.lost rest)) + (stock (handed traces) + stock (a.losing m)) := by
                abel
            _ = stock (rest.flatMap Move.brings)
                  + (stock next.inHand + stock (handed traces) + stock (a.losing m)) := by
                rw [hrest]
                abel
            _ = stock m.brings + stock (rest.flatMap Move.brings) + stock a.inHand := by
                rw [hstep]
                abel

/-! ## Where every operation is -/

/-- What has become of an operation when control is back with the worker. -/
inductive Fate where
  | passed
  | completed
  /-- It is in the slot of those that make a connection. -/
  | connecting
  /-- It is in the slot of those that end one. -/
  | disconnecting
  | awaitingAck
  deriving DecidableEq

def Fate.all : List Fate := [.passed, .completed, .connecting, .disconnecting, .awaitingAck]

lemma Fate.mem_all (f : Fate) : f ∈ Fate.all := by cases f <;> decide

def completed? : Trace κ → Option (Operation κ)
  | .ask (.chain (.complete op)) => some op
  | _ => none

def passed? : Trace κ → Option (Operation κ)
  | .ask (.chain (.pass op)) => some op
  | _ => none

/-- The operations that have come to a fate, given what could be seen so far. -/
def fate (a : Activity κ) (traces : List (Trace κ)) : Fate → List (Operation κ)
  | .passed => traces.filterMap passed?
  | .completed => traces.filterMap completed?
  | .connecting => a.stage.activeConnect.toList
  | .disconnecting => a.stage.activeDisconnect.toList
  | .awaitingAck => a.stage.awaitingAck.map Prod.snd

lemma stock_handed (traces : List (Trace κ)) :
    stock (handed traces)
      = stock (traces.filterMap passed?) + stock (traces.filterMap completed?) := by
  induction traces with
  | nil => rfl
  | cons trace rest ih =>
      have hone : stock trace.operations
          = stock (passed? trace).toList + stock (completed? trace).toList := by
        rcases trace with _ | _ | ((_ | _ | _ | _ | _) | _ | _ | _) | _ | _ <;> rfl
      have hcons : ∀ f : Trace κ → Option (Operation κ),
          stock ((trace :: rest).filterMap f)
            = stock (f trace).toList + stock (rest.filterMap f) := by
        intro f
        rw [List.filterMap_cons]
        cases f trace <;> simp
      rw [handed_cons, stock_append, hone, ih, hcons, hcons]
      abel

/-- Without levels, everything that is in hand or handed over has come to its fate. -/
lemma stock_fates (hback : a.levels = []) (traces : List (Trace κ)) :
    ((Fate.all.flatMap fun f => (a.fate traces f).map Operation.bare : List (Operation κ)) :
        Multiset (Operation κ)) = stock a.inHand + stock (handed traces) := by
  rw [stock_handed, inHand, hback, List.flatMap_nil, List.nil_append, Stage.stock_pending]
  simp only [Fate.all, fate, stock, List.flatMap_cons, List.flatMap_nil, List.append_nil,
    ← Multiset.coe_add]
  abel

/-- **Every operation is in exactly one place just when nothing was lost.**  The chain may have come
back into the stage whenever something was handed to it; control is back with the worker. -/
theorem standsOnce_iff_lost_eq_nil {name : String} {moves : List (Move κ)}
    (hl : ({ stage := .new name } : Activity κ).Lawful moves)
    (hn : ((brought moves).map Operation.id).Nodup) {traces : List (Trace κ)}
    (hrun : ({ stage := .new name } : Activity κ).run moves = (a, traces))
    (hback : a.levels = []) :
    (∀ op ∈ brought moves,
        StandsOnce Operation.id (fun f => (a.fate traces f).map Operation.bare) op.bare) ↔
      ({ stage := .new name } : Activity κ).lost moves = [] := by
  have hnew : ({ stage := .new name } : Activity κ).inHand = [] := rfl
  have hsum := (stock_run (orderly_new name) hl (by rwa [hnew, List.append_nil])).2
  rw [hrun, hnew, stock_nil, add_zero, ← stock_fates hback] at hsum
  have hkeys : (((brought moves).map Operation.bare).map Operation.id).Nodup := by
    rwa [List.map_map]
  have hiff := forall_standsOnce_iff Fate.mem_all hkeys hsum
  rw [List.map_eq_nil_iff] at hiff
  rw [← hiff, List.forall_mem_map]

/-- A third operation that wants the connection to end keeps its own slot. -/
theorem standsOnce_of_nested_disconnect :
    let moves : List (Move Unit) :=
      [.enter (.on .pipeline) ⟨1, .setConnectionArgs ⟨"hub", "device", "id", none⟩, none, none⟩,
        .created (.ok 0), .proceed,
        .enter (.on .pipeline) ⟨2, .connect, none, none⟩, .answered (.ok ()),
        .enter (.on .pipeline) ⟨3, .connect, none, none⟩,
        .enter (.on .pipeline) ⟨4, .disconnect, none, none⟩, .answered (.ok ()),
        .proceed, .answered (.ok ())]
    let r := ({ stage := .new "mqtt" } : Activity Unit).run moves
    (brought moves).length = 4 ∧
      ∀ op ∈ brought moves,
        StandsOnce Operation.id (fun f => (r.1.fate r.2 f).map Operation.bare) op.bare :=
  ⟨rfl, (standsOnce_iff_lost_eq_nil (by decide) (by decide) rfl (by decide)).mpr (by decide)⟩

/-- A second connection supersedes a first; when the chain is told, it brings a third.  The third
takes the slot, and then the second does. -/
def thirdConnect : List (Move Unit) :=
  [.enter (.on .pipeline) ⟨1, .setConnectionArgs ⟨"hub", "device", "id", none⟩, none, none⟩,
    .created (.ok 0), .proceed,
    .enter (.on .pipeline) ⟨2, .connect, none, none⟩, .answered (.ok ()),
    .enter (.on .pipeline) ⟨3, .connect, none, none⟩,
    .enter (.on .pipeline) ⟨4, .connect, none, none⟩, .answered (.ok ()),
    .proceed, .answered (.ok ())]

/-- **The third connection is nowhere**: not every operation of every lawful run is in one place. -/
theorem thirdConnect_nowhere :
    ¬ ∀ (moves : List (Move Unit)) (a : Activity Unit) (traces : List (Trace Unit)),
      ({ stage := .new "mqtt" } : Activity Unit).Lawful moves →
      ((brought moves).map Operation.id).Nodup →
      ({ stage := .new "mqtt" } : Activity Unit).run moves = (a, traces) → a.levels = [] →
      ∀ op ∈ brought moves,
        StandsOnce Operation.id (fun f => (a.fate traces f).map Operation.bare) op.bare := by
  intro h
  obtain ⟨f, hf⟩ := (h thirdConnect _ _ (by decide) (by decide) rfl (by decide)
    ⟨4, .connect, none, none⟩ (by decide)).mem
  revert hf
  cases f <;> decide

end Activity

end DeviceLink
