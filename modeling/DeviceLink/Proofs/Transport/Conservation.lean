import DeviceLink.Proofs.Transport.Tracker
import Mathlib.Data.Multiset.AddSub

/-!
# Where every handler is

A handler that is registered with a tracker waits in the queue of its kind, then in flight under the
packet id with which its request has left, until it is told something or taken back.  No sequence of
moves loses a handler, doubles one, or lets one slip to another kind, however ids are reused and
whatever is acknowledged; and in which order the handlers are told that the connection has ended is
left open.

* `Dealing`, `AckTracker.Deals` — what a tracker is asked to do, and all that can come of it.
* `Tally`, `AckTracker.Reaches` — the record of everything that was done with a new tracker.
* `Post`, `AckTracker.spots` — the places of handlers, and who is at each.
* `Placed` — whoever was registered is at one place for its kind, and nobody else is.
* **`AckTracker.Deals.placed`** — whatever is done moves handlers from place to place.
* **`AckTracker.Reaches.accounted`** — every handler is in one place, of its own kind.
* `AckTracker.reusedId` — two requests that leave under one id.
-/

namespace DeviceLink.Transport

variable {η : Type}

/-! ## What is done with a tracker -/

/-- What a tracker is asked to do. -/
inductive Dealing (η : Type) where
  | enqueue (kind : AckKind) (h : η)
  | withdrawLast (kind : AckKind)
  | sent (kind : AckKind) (pkid : Nat)
  | acknowledged (kind : AckKind) (pkid : Nat) (outcome : Except Fault Unit)
  | failAll

/-- The kind that it is about; the end of a connection is about all of them. -/
def Dealing.kind? : Dealing η → Option AckKind
  | enqueue kind _ | withdrawLast kind | sent kind _ | acknowledged kind _ _ => some kind
  | failAll => none

namespace AckTracker

/-- **What can come of it:** the tracker that is left, the handler that is given back, and what
handlers are told, in order.  Those that wait when the connection ends are told so in any order. -/
inductive Deals (t : AckTracker η) :
    Dealing η → AckTracker η → Option η → List (Told η) → Prop where
  | enqueue (kind : AckKind) (h : η) : Deals t (.enqueue kind h) (t.enqueue kind h) none []
  | withdrawLast (kind : AckKind) :
      Deals t (.withdrawLast kind) (t.withdrawLast kind).2 (t.withdrawLast kind).1 []
  | sent (kind : AckKind) (pkid : Nat) :
      Deals t (.sent kind pkid) (t.sent kind pkid).1 none (t.sent kind pkid).2
  | acknowledged (kind : AckKind) (pkid : Nat) (outcome : Except Fault Unit) :
      Deals t (.acknowledged kind pkid outcome) (t.acknowledged kind pkid outcome).1 none
        (t.acknowledged kind pkid outcome).2
  | failAll {told : List (Told η)} (order : told.Perm t.failAll.2) :
      Deals t .failAll t.failAll.1 none told

end AckTracker

/-- **The record of a tracker.** -/
structure Tally (η : Type) where
  /-- The handlers that were registered, with their kinds, in order. -/
  registered : List (AckKind × η) := []
  /-- The handlers that were given back. -/
  returned : List η := []
  /-- What handlers were told, in order. -/
  told : List (Told η) := []

namespace Tally

def registers : Dealing η → List (AckKind × η)
  | .enqueue kind h => [(kind, h)]
  | .withdrawLast _ | .sent _ _ | .acknowledged _ _ _ | .failAll => []

/-- The record after one thing more. -/
def note (g : Tally η) (d : Dealing η) (back : Option η) (told : List (Told η)) : Tally η where
  registered := g.registered ++ registers d
  returned := g.returned ++ back.toList
  told := g.told ++ told

/-- The handlers of a kind that were registered, in order. -/
def ofKind (g : Tally η) (kind : AckKind) : List η :=
  (g.registered.filter (·.1 = kind)).map Prod.snd

variable {g : Tally η} {kind : AckKind} {h : η}

lemma registered_note {d : Dealing η} (hd : registers d = []) (g : Tally η) (back : Option η)
    (told : List (Told η)) : (g.note d back told).registered = g.registered := by
  rw [note, hd, List.append_nil]

lemma ofKind_note (g : Tally η) (d : Dealing η) (back : Option η) (told : List (Told η))
    (kind : AckKind) :
    (g.note d back told).ofKind kind
      = g.ofKind kind ++ ((registers d).filter (·.1 = kind)).map Prod.snd := by
  rw [ofKind, note, List.filter_append, List.map_append]
  rfl

end Tally

namespace AckTracker

variable {t t' : AckTracker η} {d : Dealing η} {back : Option η} {told : List (Told η)}
  {g : Tally η} {kind other : AckKind} {pkid : Nat} {h : η}

/-- **A tracker that comes about** from a new one, with the record of everything that was done. -/
inductive Reaches : Tally η → AckTracker η → Prop where
  | new : Reaches {} {}
  | deal {g : Tally η} {t t' : AckTracker η} {d : Dealing η} {back : Option η}
      {told : List (Told η)} (before : Reaches g t) (deals : t.Deals d t' back told) :
      Reaches (g.note d back told) t'

/-! ## One thing that is done -/

/-- A handler that is taken back was the last one in the queue of its kind. -/
lemma withdrawLast_cases (t : AckTracker η) (kind : AckKind) :
    t.queued kind = [] ∧ t.withdrawLast kind = (none, t) ∨
      ∃ rest h, t.queued kind = rest ++ [h] ∧
        t.withdrawLast kind = (some h, t.setQueue kind rest) := by
  rcases List.eq_nil_or_concat (t.queued kind) with hq | ⟨rest, h, hq⟩
  · exact .inl ⟨hq, by rw [withdrawLast, hq, List.getLast?_nil]⟩
  · rw [List.concat_eq_append] at hq
    refine .inr ⟨rest, h, hq, ?_⟩
    rw [withdrawLast, hq, List.getLast?_concat, List.dropLast_concat]

/-- A request that leaves takes its handler from the head of its queue. -/
lemma queued_sent (t : AckTracker η) (kind : AckKind) (pkid : Nat) :
    (t.sent kind pkid).1.queued other
      = if other = kind then (t.queued kind).tail else t.queued other := by
  rw [sent]
  cases hq : t.queued kind with
  | nil =>
      by_cases ho : other = kind
      · rw [if_pos ho, ho]
        exact hq
      · rw [if_neg ho]
  | cons h rest =>
      dsimp only
      split <;> exact queued_setQueue t kind other rest

/-- The handlers of a kind that are in flight, with their keys. -/
def aloft (t : AckTracker η) (kind : AckKind) : List ((AckKind × Nat) × η) :=
  t.inflight.filter (·.1.1 = kind)

lemma aloft_forget (hk : other ≠ kind) : (t.forget (kind, pkid)).aloft other = t.aloft other := by
  rw [aloft, aloft, forget, List.filter_filter]
  refine List.filter_congr fun x _ => ?_
  by_cases hx : x.1.1 = other
  · have hne : x.1 ≠ (kind, pkid) := fun he => hk (hx.symm.trans (congrArg Prod.fst he))
    simp [hx, hne]
  · simp [hx]

/-- **What is done about one kind** leaves the queue and the handlers in flight of every other. -/
theorem Deals.others (hd : t.Deals d t' back told) (hkind : d.kind? = some kind)
    (hother : other ≠ kind) :
    t'.queued other = t.queued other ∧ t'.aloft other = t.aloft other := by
  cases hd with
  | enqueue _ h =>
      cases hkind
      exact ⟨(queued_setQueue t kind other _).trans (if_neg hother), rfl⟩
  | withdrawLast _ =>
      cases hkind
      rcases t.withdrawLast_cases kind with ⟨-, he⟩ | ⟨rest, h, -, he⟩ <;> rw [he]
      · exact ⟨rfl, rfl⟩
      · exact ⟨(queued_setQueue t kind other rest).trans (if_neg hother), rfl⟩
  | sent _ pkid =>
      cases hkind
      refine ⟨(queued_sent t kind pkid).trans (if_neg hother), ?_⟩
      rw [AckTracker.sent]
      cases t.queued kind with
      | nil => rfl
      | cons h rest =>
          dsimp only
          split
          · rfl
          · have hnew : ([((kind, pkid), h)] : List ((AckKind × Nat) × η)).filter
                (·.1.1 = other) = [] := by
              simp [Ne.symm hother]
            rw [aloft, List.filter_append, hnew, List.append_nil]
            exact aloft_forget (t := t.setQueue kind rest) hother
  | acknowledged _ pkid outcome =>
      cases hkind
      refine ⟨queued_acknowledged t kind other pkid outcome, ?_⟩
      rw [AckTracker.acknowledged]
      cases t.find? (kind, pkid) with
      | none => rfl
      | some h => exact aloft_forget hother
  | failAll order => cases hkind

/-- When the connection ends nobody waits any more, and all that waited are told so. -/
theorem Deals.ended (hd : t.Deals .failAll t' back told) :
    t' = {} ∧ (told : Multiset (Told η))
      = t.handlers.map fun h => (h, Except.error Fault.connectionClosed) := by
  cases hd with
  | failAll order => exact ⟨rfl, Multiset.coe_eq_coe.mpr order⟩

/-- A queue keeps the order in which its handlers were registered. -/
lemma Reaches.queued_sublist (hr : Reaches g t) (kind : AckKind) :
    (t.queued kind).Sublist (g.ofKind kind) := by
  induction hr with
  | new => exact List.Sublist.refl _
  | @deal g t t' d back told _ deals ih =>
      rw [Tally.ofKind_note]
      cases deals with
      | enqueue other h =>
          rw [queued_enqueue]
          refine ih.append ?_
          by_cases hk : other = kind <;> simp [Tally.registers, hk]
      | withdrawLast other =>
          refine List.Sublist.trans ?_ (ih.trans (List.sublist_append_left _ _))
          rcases t.withdrawLast_cases other with ⟨-, he⟩ | ⟨rest, h, hq, he⟩ <;> rw [he]
          rw [queued_setQueue]
          split
          · next hk =>
              rw [hk, hq]
              exact List.sublist_append_left rest [h]
          · exact List.Sublist.refl _
      | sent other pkid =>
          refine List.Sublist.trans ?_ (ih.trans (List.sublist_append_left _ _))
          rw [queued_sent]
          split
          · next hk => exact hk ▸ List.tail_sublist _
          · exact List.Sublist.refl _
      | acknowledged other pkid outcome =>
          rw [queued_acknowledged]
          exact ih.trans (List.sublist_append_left _ _)
      | failAll order => exact List.nil_sublist _

/-- Whoever waits under a key is found there. -/
lemma Keyed.find?_eq (hk : t.Keyed) {key : AckKind × Nat} (hheld : (key, h) ∈ t.inflight) :
    t.find? key = some h := by
  cases hf : t.find? key with
  | none =>
      rw [find?, Option.map_eq_none_iff, List.find?_eq_none] at hf
      exact (hf _ hheld (decide_eq_true rfl)).elim
  | some held =>
      have hin : (key, h) ∈ (key, held) :: (t.forget key).inflight := (hk.perm hf).mem_iff.mp hheld
      rcases List.mem_cons.mp hin with he | hin
      · cases he
        rfl
      · exact absurd rfl (of_decide_eq_true (List.mem_filter.mp hin).2)

/-- Whoever waits under an id when it is used again is told at once that the connection is closed,
and no other handler is told anything. -/
lemma Keyed.told_sent (hk : t.Keyed) (hqueue : t.queued kind ≠ []) (hzero : pkid ≠ 0)
    (hheld : ((kind, pkid), h) ∈ t.inflight) :
    (t.sent kind pkid).2 = [(h, .error .connectionClosed)] := by
  obtain ⟨first, rest, hcons⟩ := List.exists_cons_of_ne_nil hqueue
  have hfound : (t.setQueue kind rest).find? (kind, pkid) = some h := hk.find?_eq hheld
  simp only [sent, hcons, if_neg hzero, hfound, Option.map_some, Option.toList_some]

end AckTracker

/-! ## The places of a handler -/

/-- Where a handler may be. -/
inductive Post where
  | queue (kind : AckKind)
  | flight (kind : AckKind) (pkid : Nat)
  /-- It was given back. -/
  | returned
  | told
  deriving DecidableEq, Repr

namespace Post

/-- A place for handlers of a kind. -/
def Suits (kind : AckKind) : Post → Prop
  | queue other | flight other _ => other = kind
  | returned | told => True

/-- The place where a handler is once the connection has ended. -/
def ended : Post → Post
  | queue _ | flight _ _ | told => told
  | returned => returned

lemma Suits.ended {kind : AckKind} {p : Post} (_ : p.Suits kind) : p.ended.Suits kind := by
  cases p <;> exact trivial

end Post

/-- **Whoever was registered is at one place**, which is for its kind, and nobody else is at any. -/
def Placed (registered : List (AckKind × η)) (spots : Multiset (Post × η)) : Prop :=
  ∃ all : Multiset (AckKind × Post × η),
    (all.map fun x => (x.1, x.2.2)) = registered ∧ all.map Prod.snd = spots ∧
      ∀ x ∈ all, x.2.1.Suits x.1

namespace Placed

variable {registered : List (AckKind × η)} {spots : Multiset (Post × η)} {p q : Post} {h : η}
  {kind : AckKind}

lemma nil : Placed ([] : List (AckKind × η)) 0 := ⟨0, rfl, rfl, fun _ hx => by cases hx⟩

lemma register (hp : Placed registered spots) (hq : q.Suits kind) (h : η) :
    Placed (registered ++ [(kind, h)]) ((q, h) ::ₘ spots) := by
  obtain ⟨all, hall, hspots, hsuits⟩ := hp
  refine ⟨(kind, q, h) ::ₘ all, ?_, by rw [Multiset.map_cons, hspots], ?_⟩
  · rw [Multiset.map_cons, hall, ← Multiset.coe_add, ← Multiset.singleton_add, add_comm]
    rfl
  · intro x hx
    rcases Multiset.mem_cons.mp hx with rfl | hx
    · exact hq
    · exact hsuits x hx

/-- One handler moves to a place that suits it. -/
lemma move (hp : Placed registered ((p, h) ::ₘ spots))
    (hpq : ∀ kind, p.Suits kind → q.Suits kind) : Placed registered ((q, h) ::ₘ spots) := by
  obtain ⟨all, hall, hspots, hsuits⟩ := hp
  have hin : (p, h) ∈ all.map Prod.snd := hspots ▸ Multiset.mem_cons_self _ _
  obtain ⟨⟨kind, place⟩, hmem, hplace⟩ := Multiset.mem_map.mp hin
  obtain rfl : place = (p, h) := hplace
  obtain ⟨rest, rfl⟩ := Multiset.exists_cons_of_mem hmem
  rw [Multiset.map_cons] at hspots
  refine ⟨(kind, q, h) ::ₘ rest, by rw [← hall, Multiset.map_cons, Multiset.map_cons], ?_, ?_⟩
  · rw [Multiset.map_cons, (Multiset.cons_inj_right _).mp hspots]
  · intro x hx
    rcases Multiset.mem_cons.mp hx with rfl | hx
    · exact hpq kind (hsuits _ (Multiset.mem_cons_self _ _))
    · exact hsuits x (Multiset.mem_cons_of_mem hx)

/-- The connection ends for all handlers at once. -/
lemma ended (hp : Placed registered spots) :
    Placed registered (spots.map fun x => (x.1.ended, x.2)) := by
  obtain ⟨all, hall, hspots, hsuits⟩ := hp
  refine ⟨all.map fun x => (x.1, x.2.1.ended, x.2.2), ?_, ?_, ?_⟩
  · rw [Multiset.map_map]
    exact hall
  · rw [Multiset.map_map, ← hspots, Multiset.map_map]
    rfl
  · intro x hx
    obtain ⟨y, hy, rfl⟩ := Multiset.mem_map.mp hx
    exact (hsuits y hy).ended

lemma map_snd (hp : Placed registered spots) :
    spots.map Prod.snd = (registered.map Prod.snd : List η) := by
  obtain ⟨all, hall, rfl, -⟩ := hp
  rw [Multiset.map_map, ← Multiset.map_coe, ← hall, Multiset.map_map]
  rfl

/-- **Handlers that can be told apart** are each at a single place, once, and it is for their
kind. -/
lemma alone (hp : Placed registered spots) (hn : (registered.map Prod.snd).Nodup) :
    (spots.map Prod.snd).Nodup ∧ ∀ kind h, (kind, h) ∈ registered →
      ∃! p : Post, p.Suits kind ∧ (p, h) ∈ spots := by
  have hnodup : (spots.map Prod.snd).Nodup := hp.map_snd ▸ Multiset.coe_nodup.mpr hn
  refine ⟨hnodup, fun kind h hin => ?_⟩
  obtain ⟨all, hall, hspots, hsuits⟩ := hp
  have hin : (kind, h) ∈ all.map fun x => (x.1, x.2.2) := hall ▸ Multiset.mem_coe.mpr hin
  obtain ⟨⟨kind, p, h⟩, hmem, hx⟩ := Multiset.mem_map.mp hin
  cases hx
  have hspot : (p, h) ∈ spots := hspots ▸ Multiset.mem_map_of_mem Prod.snd hmem
  refine ⟨p, ⟨hsuits _ hmem, hspot⟩, fun q hq => ?_⟩
  exact congrArg Prod.fst (Multiset.inj_on_of_nodup_map hnodup _ hq.2 _ hspot rfl)

end Placed

/-- Those that do not wait any more, each with its place. -/
def Tally.settled (g : Tally η) : Multiset (Post × η) :=
  (g.returned.map (Post.returned, ·) : List (Post × η))
    + (g.told.map fun x => (Post.told, x.1) : List (Post × η))

lemma Tally.settled_note (g : Tally η) (d : Dealing η) (back : Option η) (told : List (Told η)) :
    (g.note d back told).settled
      = (back.toList.map (Post.returned, ·) : List (Post × η))
        + (told.map fun x => (Post.told, x.1) : List (Post × η)) + g.settled := by
  simp only [Tally.settled, Tally.note, List.map_append, ← Multiset.coe_add]
  abel

namespace AckTracker

variable {t t' : AckTracker η} {g : Tally η} {d : Dealing η} {back : Option η}
  {told : List (Told η)} {kind : AckKind} {pkid : Nat} {h : η} {rest : List η}

/-- Those that wait, each with its place. -/
def pending (t : AckTracker η) : Multiset (Post × η) :=
  ((t.queued .publish).map (Post.queue .publish, ·) : List (Post × η))
    + ((t.queued .subscribe).map (Post.queue .subscribe, ·) : List (Post × η))
    + ((t.queued .unsubscribe).map (Post.queue .unsubscribe, ·) : List (Post × η))
    + (t.inflight.map fun x => (Post.flight x.1.1 x.1.2, x.2) : List (Post × η))

/-- **All places of handlers** that were registered, with who is there. -/
def spots (t : AckTracker η) (g : Tally η) : Multiset (Post × η) :=
  t.pending + g.settled

lemma pending_setQueue (hq : (t.queued kind : Multiset η) = h ::ₘ (rest : Multiset η)) :
    t.pending = (Post.queue kind, h) ::ₘ (t.setQueue kind rest).pending := by
  have hcons : ((t.queued kind).map (Post.queue kind, ·) : Multiset (Post × η))
      = {(Post.queue kind, h)} + (rest.map (Post.queue kind, ·) : List (Post × η)) := by
    rw [← Multiset.map_coe, hq, Multiset.map_cons, Multiset.map_coe, Multiset.singleton_add]
  rw [← Multiset.singleton_add, pending, pending]
  cases kind <;>
    simp only [queued_setQueue, inflight_setQueue, reduceCtorEq, if_false, if_true, hcons] <;> abel

lemma pending_enqueue (t : AckTracker η) (kind : AckKind) (h : η) :
    (t.enqueue kind h).pending = (Post.queue kind, h) ::ₘ t.pending := by
  have hself : (t.enqueue kind h).setQueue kind (t.queued kind) = t := by
    rw [enqueue, setQueue_setQueue, setQueue_queued]
  have hq : ((t.enqueue kind h).queued kind : Multiset η) = h ::ₘ (t.queued kind : Multiset η) := by
    rw [queued_enqueue, if_pos rfl, ← Multiset.coe_add, ← Multiset.singleton_add, add_comm]
    rfl
  rw [pending_setQueue hq, hself]

lemma Keyed.pending_forget (hk : t.Keyed) {key : AckKind × Nat} (hf : t.find? key = some h) :
    t.pending = (Post.flight key.1 key.2, h) ::ₘ (t.forget key).pending := by
  have hperm := Multiset.coe_eq_coe.mpr
    ((hk.perm hf).map fun x => (Post.flight x.1.1 x.1.2, x.2))
  rw [List.map_cons, ← Multiset.cons_coe, ← Multiset.singleton_add] at hperm
  rw [← Multiset.singleton_add, pending, pending, hperm]
  simp only [AckTracker.forget]
  abel

lemma pending_launch (t : AckTracker η) (key : AckKind × Nat) (h : η) :
    ({ t with inflight := t.inflight ++ [(key, h)] } : AckTracker η).pending
      = (Post.flight key.1 key.2, h) ::ₘ t.pending := by
  have hone : (([(Post.flight key.1 key.2, h)] : List (Post × η)) : Multiset (Post × η))
      = {(Post.flight key.1 key.2, h)} := rfl
  rw [← Multiset.singleton_add, pending, pending]
  simp only [List.map_append, List.map_cons, List.map_nil, ← Multiset.coe_add, hone]
  abel

/-- Whoever waits when the connection ends has been told so once it has. -/
lemma pending_ended (t : AckTracker η) :
    (t.pending.map fun x => (x.1.ended, x.2)) = t.handlers.map (Post.told, ·) := by
  rw [pending, handlers_eq]
  simp only [Multiset.map_add, Multiset.map_coe, List.map_map]
  rfl

/-! ## Everything that is done -/

/-- Whatever is done leaves the keys in flight apart. -/
lemma Deals.keyed (hk : t.Keyed) (hd : t.Deals d t' back told) : t'.Keyed := by
  cases hd with
  | enqueue kind h => exact hk
  | withdrawLast kind =>
      rcases t.withdrawLast_cases kind with ⟨-, he⟩ | ⟨rest, h, -, he⟩ <;> rw [he] <;> exact hk
  | sent kind pkid => exact (handlers_sent hk kind pkid).1
  | acknowledged kind pkid outcome => exact (handlers_acknowledged hk kind pkid outcome).1
  | failAll order => exact keyed_new

/-- Once the connection has ended nobody waits, and those that waited have been told. -/
lemma spots_ended (order : told.Perm t.failAll.2) :
    (t.failAll.1.spots (g.note .failAll none told))
      = (t.spots g).map fun x => (x.1.ended, x.2) := by
  have hsettled : (g.settled.map fun x => (x.1.ended, x.2)) = g.settled := by
    rw [Tally.settled]
    simp only [Multiset.map_add, Multiset.map_coe, List.map_map]
    rfl
  have htold : ((told.map fun x => (Post.told, x.1) : List (Post × η)) : Multiset (Post × η))
      = t.handlers.map (Post.told, ·) := by
    rw [Multiset.coe_eq_coe.mpr (order.map _), failAll, List.map_map, handlers, Multiset.map_coe]
    rfl
  have hnone : (t.failAll.1.pending : Multiset (Post × η)) = 0 := rfl
  rw [spots, spots, Multiset.map_add, hsettled, pending_ended, Tally.settled_note, htold, hnone,
    zero_add]
  exact congrArg (· + g.settled) (zero_add _)

/-- Nobody is told anything. -/
lemma spots_idle (t : AckTracker η) (g : Tally η) (d : Dealing η) :
    t.spots (g.note d none []) = t.spots g := by
  rw [spots, spots, Tally.settled_note]
  exact congrArg _ (zero_add _)

/-- One handler is told something. -/
lemma spots_told (t : AckTracker η) (g : Tally η) (d : Dealing η) (h : η)
    (outcome : Except Fault Unit) :
    t.spots (g.note d none [(h, outcome)]) = (Post.told, h) ::ₘ t.spots g := by
  have hone : ([(h, outcome)].map fun x => (Post.told, x.1)) = [(Post.told, h)] := rfl
  rw [spots, spots, Tally.settled_note, Option.toList_none, List.map_nil, hone, Multiset.coe_nil,
    zero_add, Multiset.coe_singleton, Multiset.singleton_add, Multiset.add_cons]

/-- One handler is given back. -/
lemma spots_returned (t : AckTracker η) (g : Tally η) (d : Dealing η) (h : η) :
    t.spots (g.note d (some h) []) = (Post.returned, h) ::ₘ t.spots g := by
  have hone : ((some h).toList.map (Post.returned, ·)) = [(Post.returned, h)] := rfl
  rw [spots, spots, Tally.settled_note, hone, List.map_nil, Multiset.coe_nil, add_zero,
    Multiset.coe_singleton, Multiset.singleton_add, Multiset.add_cons]

/-- The head of a queue has left it for its id, or was told something. -/
lemma placed_sent (hk : t.Keyed)
    (hp : Placed g.registered (t.spots g)) (hqueue : t.queued kind = h :: rest) :
    Placed g.registered
      ((t.sent kind pkid).1.spots (g.note (.sent kind pkid) none (t.sent kind pkid).2)) := by
  have hhead : Placed g.registered ((Post.queue kind, h) ::ₘ (t.setQueue kind rest).spots g) := by
    have hcons : (t.queued kind : Multiset η) = h ::ₘ (rest : Multiset η) := by rw [hqueue]; rfl
    rwa [spots, pending_setQueue hcons, Multiset.cons_add] at hp
  have hkeyed : (t.setQueue kind rest).Keyed := hk
  rw [sent, hqueue]
  dsimp only
  split
  · rw [spots_told]
    exact hhead.move fun _ _ => trivial
  · cases hf : (t.setQueue kind rest).find? (kind, pkid) with
    | none =>
        simp only [Option.map_none, Option.toList_none]
        rw [spots_idle, forget_of_find?_eq_none hf, spots, pending_launch, Multiset.cons_add]
        exact hhead.move fun _ hsuits => hsuits
    | some previous =>
        -- The one that waits under the id makes room before the other takes its place.
        have hprevious : Placed g.registered ((Post.flight kind pkid, previous) ::ₘ
            (Post.queue kind, h) ::ₘ ((t.setQueue kind rest).forget (kind, pkid)).spots g) := by
          rwa [spots, hkeyed.pending_forget hf, Multiset.cons_add, Multiset.cons_swap] at hhead
        have htold := hprevious.move (q := .told) fun _ _ => trivial
        rw [Multiset.cons_swap] at htold
        simp only [Option.map_some, Option.toList_some]
        rw [spots_told, spots, pending_launch, Multiset.cons_add, Multiset.cons_swap]
        exact htold.move fun _ hsuits => hsuits

/-- **Whatever is done moves handlers from place to place**, and puts one that is registered in the
queue of its kind. -/
theorem Deals.placed (hk : t.Keyed) (hd : t.Deals d t' back told)
    (hp : Placed g.registered (t.spots g)) :
    Placed (g.note d back told).registered (t'.spots (g.note d back told)) := by
  cases hd with
  | enqueue kind h =>
      have hspots : (t.enqueue kind h).spots (g.note (.enqueue kind h) none [])
          = (Post.queue kind, h) ::ₘ t.spots g := by
        rw [spots_idle, spots, spots, pending_enqueue, Multiset.cons_add]
      rw [hspots]
      exact hp.register (q := .queue kind) rfl h
  | withdrawLast kind =>
      rw [Tally.registered_note rfl]
      rcases t.withdrawLast_cases kind with ⟨-, he⟩ | ⟨rest, h, hq, he⟩ <;> rw [he]
      · rwa [spots_idle]
      · have hcons : (t.queued kind : Multiset η) = h ::ₘ (rest : Multiset η) := by
          rw [hq, ← Multiset.coe_add, add_comm]
          rfl
        rw [spots, pending_setQueue hcons, Multiset.cons_add] at hp
        rw [spots_returned]
        exact hp.move fun _ _ => trivial
  | sent kind pkid =>
      rw [Tally.registered_note rfl]
      cases hqueue : t.queued kind with
      | nil =>
          rw [AckTracker.sent, hqueue, spots_idle]
          exact hp
      | cons h rest => exact placed_sent hk hp hqueue
  | acknowledged kind pkid outcome =>
      rw [Tally.registered_note rfl]
      rw [AckTracker.acknowledged]
      cases hf : t.find? (kind, pkid) with
      | none =>
          rw [spots_idle]
          exact hp
      | some h =>
          rw [spots, hk.pending_forget hf, Multiset.cons_add] at hp
          rw [spots_told]
          exact hp.move fun _ _ => trivial
  | failAll order =>
      rw [Tally.registered_note rfl, spots_ended order]
      exact hp.ended

/-- A tracker that comes about has its keys in flight apart, and whoever was registered with it in
one place. -/
theorem Reaches.placed (hr : Reaches g t) : t.Keyed ∧ Placed g.registered (t.spots g) := by
  induction hr with
  | new => exact ⟨keyed_new, Placed.nil⟩
  | deal _ deals ih => exact ⟨deals.keyed ih.1, deals.placed ih.1 ih.2⟩

/-- **A tracker that has lost nobody**, after what has been done with it. -/
structure Accounted (t : AckTracker η) (g : Tally η) : Prop where
  /-- Whoever was registered waits in the queue of its kind, waits in flight under one id of its
  kind, was given back, or was told something, each of them once. -/
  placed : Placed g.registered (t.spots g)
  /-- No two wait under one id of a kind. -/
  keyed : t.Keyed
  /-- Handlers that can be told apart have each a single place. -/
  alone : (g.registered.map Prod.snd).Nodup →
    ((t.spots g).map Prod.snd).Nodup ∧ ∀ kind h, (kind, h) ∈ g.registered →
      ∃! p : Post, p.Suits kind ∧ (p, h) ∈ t.spots g
  /-- Those in a queue wait in the order in which they were registered. -/
  ordered : ∀ kind, (t.queued kind).Sublist (g.ofKind kind)
  /-- What is done next about one kind is nothing to the others. -/
  others : ∀ {d t' back told kind other}, t.Deals d t' back told → d.kind? = some kind →
    other ≠ kind → t'.queued other = t.queued other ∧ t'.aloft other = t.aloft other
  /-- Whoever waits under an id that is used again is told so at once. -/
  displaced : ∀ {kind pkid h}, t.queued kind ≠ [] → pkid ≠ 0 → ((kind, pkid), h) ∈ t.inflight →
    (t.sent kind pkid).2 = [(h, .error .connectionClosed)]
  /-- Whoever waits when the connection ends is told so, and nobody waits then. -/
  ended : ∀ {t' back told}, t.Deals .failAll t' back told → t' = {} ∧
    (told : Multiset (Told η)) = t.handlers.map fun h => (h, Except.error Fault.connectionClosed)

/-- **Every handler is in one place, of its own kind,** whatever is done with a tracker. -/
theorem Reaches.accounted (hr : Reaches g t) : t.Accounted g where
  placed := hr.placed.2
  keyed := hr.placed.1
  alone := hr.placed.2.alone
  ordered := hr.queued_sublist
  others := Deals.others
  displaced := hr.placed.1.told_sent
  ended := Deals.ended

/-! ## Ids used again -/

/-- What comes of it, where those that wait when the connection ends are told so in the order in
which they are listed. -/
def deal (t : AckTracker η) : Dealing η → AckTracker η × Option η × List (Told η)
  | .enqueue kind h => (t.enqueue kind h, none, [])
  | .withdrawLast kind => ((t.withdrawLast kind).2, (t.withdrawLast kind).1, [])
  | .sent kind pkid => ((t.sent kind pkid).1, none, (t.sent kind pkid).2)
  | .acknowledged kind pkid outcome =>
    ((t.acknowledged kind pkid outcome).1, none, (t.acknowledged kind pkid outcome).2)
  | .failAll => (t.failAll.1, none, t.failAll.2)

lemma deals_deal (t : AckTracker η) (d : Dealing η) :
    t.Deals d (t.deal d).1 (t.deal d).2.1 (t.deal d).2.2 := by
  cases d with
  | enqueue kind h => exact .enqueue kind h
  | withdrawLast kind => exact .withdrawLast kind
  | sent kind pkid => exact .sent kind pkid
  | acknowledged kind pkid outcome => exact .acknowledged kind pkid outcome
  | failAll => exact .failAll (.refl _)

/-- A tracker after one thing more, with its record. -/
def dealt (x : AckTracker η × Tally η) (d : Dealing η) : AckTracker η × Tally η :=
  ((x.1.deal d).1, x.2.note d (x.1.deal d).2.1 (x.1.deal d).2.2)

lemma reaches_dealt (ds : List (Dealing η)) {x : AckTracker η × Tally η} (hx : Reaches x.2 x.1) :
    Reaches (ds.foldl dealt x).2 (ds.foldl dealt x).1 := by
  induction ds generalizing x with
  | nil => exact hx
  | cons d ds ih => exact ih (.deal hx (deals_deal x.1 d))

/-- The second publish leaves under the id of the first, the third is taken back, an id that is
unknown is acknowledged, and an unsubscribe leaves under id 0. -/
def reusedId : List (Dealing Nat) :=
  [.enqueue .publish 1, .enqueue .publish 2, .enqueue .subscribe 3, .sent .publish 7,
    .sent .publish 7, .enqueue .publish 4, .withdrawLast .publish,
    .acknowledged .publish 9 (.ok ()), .enqueue .unsubscribe 5, .sent .unsubscribe 0]

/-- The first publish has lost its id, the second waits, and nobody is lost. -/
theorem accounted_of_reusedId :
    let x := reusedId.foldl dealt ({}, {})
    x.2.told = [(1, .error .connectionClosed), (5, .ok ())] ∧ x.2.returned = [4] ∧
      x.1.inflight = [((.publish, 7), 2)] ∧ x.1.queued .subscribe = [3] ∧ x.1.Accounted x.2 :=
  ⟨rfl, rfl, rfl, rfl, (reaches_dealt reusedId .new).accounted⟩

end AckTracker

end DeviceLink.Transport
