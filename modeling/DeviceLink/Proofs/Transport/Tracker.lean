import DeviceLink.Transport.Basic
import Mathlib.Algebra.Order.Group.Multiset
import Mathlib.Tactic.Abel

/-!
# The handlers that a tracker holds

A handler that is registered waits until it is told something, or taken back because its request was
not taken.

* `queued_setQueue`, `queued_enqueue` and their like — what a move changes of the queues.
* **`withdrawLast_enqueue`** — a request that is refused leaves nothing behind.
* `sent_eq`, `mem_inflight_acknowledged`, `of_mem_acknowledged` — what becomes of what is in flight
  when a packet leaves, or is acknowledged.
* `handlers` — all handlers that wait, however often each does.
* `handlers_enqueue`, `handlers_failAll` — what the moves of the owner make of them.
* **`handlers_sent`**, **`handlers_acknowledged`** — whoever waits is told something, or waits on.
-/

namespace DeviceLink.Transport.AckTracker

variable {η : Type} {t : AckTracker η} {kind other : AckKind} {h : η}

/-! ## Queues -/

@[simp] lemma queued_setQueue (t : AckTracker η) (kind other : AckKind) (queue : List η) :
    (t.setQueue kind queue).queued other = if other = kind then queue else t.queued other := rfl

@[simp] lemma inflight_setQueue (t : AckTracker η) (kind : AckKind) (queue : List η) :
    (t.setQueue kind queue).inflight = t.inflight := rfl

@[simp] lemma setQueue_setQueue (t : AckTracker η) (kind : AckKind) (queue more : List η) :
    (t.setQueue kind queue).setQueue kind more = t.setQueue kind more := by
  simp only [setQueue, AckTracker.mk.injEq, and_true]
  funext other
  by_cases ho : other = kind <;> simp [ho]

@[simp] lemma setQueue_queued (t : AckTracker η) (kind : AckKind) :
    t.setQueue kind (t.queued kind) = t := by
  obtain ⟨queued, inflight⟩ := t
  simp only [setQueue, AckTracker.mk.injEq, and_true]
  funext other
  by_cases ho : other = kind <;> simp [ho]

lemma queued_enqueue (t : AckTracker η) (kind other : AckKind) (h : η) :
    (t.enqueue kind h).queued other
      = t.queued other ++ if kind = other then [h] else [] := by
  rw [enqueue, queued_setQueue]
  by_cases hk : kind = other
  · rw [if_pos hk, if_pos hk.symm, hk]
  · rw [if_neg hk, if_neg (Ne.symm hk), List.append_nil]

/-- **A request that is refused** leaves nothing behind. -/
theorem withdrawLast_enqueue (t : AckTracker η) (kind : AckKind) (h : η) :
    (t.enqueue kind h).withdrawLast kind = (some h, t) := by
  have hqueue : (t.enqueue kind h).queued kind = t.queued kind ++ [h] := by
    rw [queued_enqueue, if_pos rfl]
  rw [withdrawLast, hqueue, List.getLast?_concat, List.dropLast_concat, enqueue, setQueue_setQueue,
    setQueue_queued]

/-! ## In flight -/

variable {pkid : Nat} {rest : List η} {outcome : Except Fault Unit}

lemma find?_eq_none {key : AckKind × Nat} (hfree : ∀ x ∈ t.inflight, x.1 ≠ key) :
    t.find? key = none := by
  rw [find?, Option.map_eq_none_iff, List.find?_eq_none]
  exact fun x hx => by simpa using hfree x hx

/-- A packet leaves under an id that is free: nobody is told anything, unless the id is 0. -/
lemma sent_eq (hqueue : t.queued kind = h :: rest) (hfree : ∀ x ∈ t.inflight, x.1 ≠ (kind, pkid)) :
    t.sent kind pkid =
      if pkid = 0 then (t.setQueue kind rest, [(h, .ok ())])
      else ({ t.setQueue kind rest with inflight := t.inflight ++ [((kind, pkid), h)] }, []) := by
  have hkeep : t.inflight.filter (·.1 ≠ (kind, pkid)) = t.inflight :=
    List.filter_eq_self.mpr fun x hx => decide_eq_true (hfree x hx)
  have hnone : (t.setQueue kind rest).find? (kind, pkid) = none := find?_eq_none hfree
  simp only [sent, hqueue, hnone, Option.map_none, Option.toList_none, forget, inflight_setQueue,
    hkeep]

@[simp] lemma queued_acknowledged (t : AckTracker η) (kind other : AckKind) (pkid : Nat)
    (outcome : Except Fault Unit) :
    (t.acknowledged kind pkid outcome).1.queued other = t.queued other := by
  rw [acknowledged]
  split <;> rfl

lemma mem_inflight_acknowledged {x : (AckKind × Nat) × η}
    (hx : x ∈ (t.acknowledged kind pkid outcome).1.inflight) :
    x ∈ t.inflight ∧ x.1 ≠ (kind, pkid) := by
  rw [acknowledged] at hx
  cases hf : t.find? (kind, pkid) with
  | none =>
      rw [hf] at hx
      rw [find?, Option.map_eq_none_iff, List.find?_eq_none] at hf
      exact ⟨hx, by simpa using hf x hx⟩
  | some handler =>
      rw [hf] at hx
      obtain ⟨hmem, hne⟩ := List.mem_filter.mp hx
      exact ⟨hmem, by simpa using hne⟩

/-- Whoever is told of an acknowledgement has waited for it. -/
lemma of_mem_acknowledged {told : Told η} (ht : told ∈ (t.acknowledged kind pkid outcome).2) :
    ((kind, pkid), told.1) ∈ t.inflight ∧ told.2 = outcome := by
  rw [acknowledged] at ht
  cases hf : t.find? (kind, pkid) with
  | none =>
      rw [hf] at ht
      cases ht
  | some handler =>
      rw [hf] at ht
      cases List.mem_singleton.mp ht
      obtain ⟨⟨key, other⟩, hfind, rfl⟩ := Option.map_eq_some_iff.mp hf
      have hkey : key = (kind, pkid) := by simpa using List.find?_some hfind
      exact ⟨hkey ▸ List.mem_of_find?_eq_some hfind, rfl⟩

/-! ## All that wait -/

/-- All handlers that wait, however often each does. -/
def handlers (t : AckTracker η) : Multiset η := (t.waiting : List η)

lemma handlers_eq (t : AckTracker η) :
    t.handlers = (t.queued .publish : Multiset η) + (t.queued .subscribe : List η)
      + (t.queued .unsubscribe : List η) + (t.inflight.map Prod.snd : List η) := by
  simp only [handlers, waiting, ← Multiset.coe_add]

lemma handlers_enqueue (t : AckTracker η) (kind : AckKind) (h : η) :
    (t.enqueue kind h).handlers = t.handlers + {h} := by
  have hone : ({h} : Multiset η) = ([h] : List η) := rfl
  rw [handlers_eq, handlers_eq, hone]
  cases kind <;> simp only [enqueue, queued_setQueue, inflight_setQueue, reduceCtorEq, if_false,
    if_true, ← Multiset.coe_add] <;> abel

@[simp] lemma handlers_failAll (t : AckTracker η) : t.failAll.1.handlers = 0 := rfl

lemma told_failAll (t : AckTracker η) : ((t.failAll.2.map Prod.fst : List η) : Multiset η)
    = t.handlers := by
  rw [failAll, List.map_map, handlers]
  exact congrArg _ (List.map_id _)

/-! ## Nobody is forgotten -/

/-- Under no kind and packet id do two handlers wait in flight. -/
def Keyed (t : AckTracker η) : Prop := (t.inflight.map Prod.fst).Nodup

lemma keyed_new : ({} : AckTracker η).Keyed := List.nodup_nil

lemma Keyed.forget (h : t.Keyed) (key : AckKind × Nat) : (t.forget key).Keyed :=
  (List.filter_sublist.map Prod.fst).nodup h

/-- What is found under a key is all that waits under it. -/
lemma Keyed.perm (hk : t.Keyed) {key : AckKind × Nat} (hf : t.find? key = some h) :
    t.inflight.Perm ((key, h) :: (t.forget key).inflight) := by
  obtain ⟨⟨other, held⟩, hfind, rfl⟩ := Option.map_eq_some_iff.mp hf
  have hkey : other = key := by simpa using List.find?_some hfind
  subst hkey
  obtain ⟨before, after, hsplit⟩ := List.append_of_mem (List.mem_of_find?_eq_some hfind)
  have hnodup : ((before ++ (other, held) :: after).map Prod.fst).Nodup := hsplit ▸ hk
  rw [List.map_append, List.map_cons, List.nodup_middle, List.nodup_cons, ← List.map_append]
    at hnodup
  have hkeep : ∀ x ∈ before ++ after, x.1 ≠ other := fun x hx he =>
    hnodup.1 (List.mem_map.mpr ⟨x, hx, he⟩)
  have hrest : (t.forget other).inflight = before ++ after := by
    rw [AckTracker.forget, hsplit, List.filter_append, List.filter_cons_of_neg (by simp),
      ← List.filter_append]
    exact List.filter_eq_self.mpr fun x hx => decide_eq_true (hkeep x hx)
  rw [hrest, hsplit]
  exact List.perm_middle

lemma Keyed.handlers_forget (hk : t.Keyed) {key : AckKind × Nat} (hf : t.find? key = some h) :
    {h} + (t.forget key).handlers = t.handlers := by
  have hperm := Multiset.coe_eq_coe.mpr ((hk.perm hf).map Prod.snd)
  rw [List.map_cons, ← Multiset.cons_coe, ← Multiset.singleton_add] at hperm
  rw [handlers_eq, handlers_eq, hperm]
  simp only [AckTracker.forget]
  abel

lemma forget_of_find?_eq_none {key : AckKind × Nat} (hf : t.find? key = none) :
    t.forget key = t := by
  rw [find?, Option.map_eq_none_iff, List.find?_eq_none] at hf
  have hkeep : t.inflight.filter (·.1 ≠ key) = t.inflight :=
    List.filter_eq_self.mpr fun x hx => decide_eq_true (by simpa using hf x hx)
  rw [AckTracker.forget, hkeep]

/-- **Whoever waits when a packet is acknowledged** is told so, or waits on. -/
theorem handlers_acknowledged (hk : t.Keyed) (kind : AckKind) (pkid : Nat)
    (outcome : Except Fault Unit) :
    (t.acknowledged kind pkid outcome).1.Keyed ∧
      (((t.acknowledged kind pkid outcome).2.map Prod.fst : List η) : Multiset η)
        + (t.acknowledged kind pkid outcome).1.handlers = t.handlers := by
  rw [acknowledged]
  cases hf : t.find? (kind, pkid) with
  | none => exact ⟨hk, zero_add _⟩
  | some h => exact ⟨hk.forget _, hk.handlers_forget hf⟩

lemma handlers_setQueue (hqueue : t.queued kind = h :: rest) :
    {h} + (t.setQueue kind rest).handlers = t.handlers := by
  have hcons : ((h :: rest : List η) : Multiset η) = {h} + (rest : List η) := rfl
  rw [handlers_eq, handlers_eq]
  cases kind <;>
    simp only [queued_setQueue, inflight_setQueue, reduceCtorEq, if_false, if_true, hqueue, hcons]
      <;> abel

lemma handlers_launch (t : AckTracker η) (key : AckKind × Nat) (h : η) :
    ({ t with inflight := t.inflight ++ [(key, h)] } : AckTracker η).handlers
      = t.handlers + {h} := by
  have hone : ({h} : Multiset η) = ([h] : List η) := rfl
  rw [handlers_eq, handlers_eq, hone]
  simp only [List.map_append, List.map_cons, List.map_nil, ← Multiset.coe_add]
  abel

lemma Keyed.launch (hk : t.Keyed) (key : AckKind × Nat) (h : η) :
    ({ t.forget key with inflight := (t.forget key).inflight ++ [(key, h)] } :
      AckTracker η).Keyed := by
  rw [Keyed, List.map_append]
  refine List.nodup_append.mpr ⟨hk.forget key, by simp, ?_⟩
  intro other hother k hkey
  obtain ⟨x, hx, rfl⟩ := List.mem_map.mp hother
  cases List.mem_singleton.mp hkey
  simpa using (List.mem_filter.mp hx).2

/-- **Whoever waits when a request leaves** is told something, or waits on. -/
theorem handlers_sent (hk : t.Keyed) (kind : AckKind) (pkid : Nat) :
    (t.sent kind pkid).1.Keyed ∧
      (((t.sent kind pkid).2.map Prod.fst : List η) : Multiset η) + (t.sent kind pkid).1.handlers
        = t.handlers := by
  rw [sent]
  cases hqueue : t.queued kind with
  | nil => exact ⟨hk, zero_add _⟩
  | cons h rest =>
      have hkeyed : (t.setQueue kind rest).Keyed := hk
      have hleft := handlers_setQueue hqueue
      dsimp only
      by_cases hzero : pkid = 0
      · rw [if_pos hzero]
        exact ⟨hkeyed, hleft⟩
      · rw [if_neg hzero]
        refine ⟨hkeyed.launch (kind, pkid) h, ?_⟩
        cases hf : (t.setQueue kind rest).find? (kind, pkid) with
        | none =>
            simp only [Option.map_none, Option.toList_none, List.map_nil]
            rw [forget_of_find?_eq_none hf, handlers_launch, ← hleft, Multiset.coe_nil]
            abel
        | some previous =>
            have hprevious : (([previous] : List η) : Multiset η) = {previous} := rfl
            simp only [Option.map_some, Option.toList_some, List.map_cons, List.map_nil]
            rw [handlers_launch, ← hleft, ← hkeyed.handlers_forget hf, hprevious]
            abel

end DeviceLink.Transport.AckTracker
