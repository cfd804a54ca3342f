import Mathlib.Data.Multiset.AddSub
import Mathlib.Data.Multiset.MapFold
import Mathlib.Data.List.Nodup
import Mathlib.Data.List.Pairwise
import Mathlib.Tactic.Common

/-!
# One place for each

Things with numbers of their own are spread over places.  Whether each of them is in exactly one
place, exactly once, can be read off their total: nothing may be missing, and no number may occur
twice.

* `StandsOnce` — a thing is in exactly one place, and there once.
* **`standsOnce_of_nodup`** — where no number occurs twice, everything that is somewhere stands
  once.
* **`forall_standsOnce_iff`** — all things of a stock stand once just when none of them is lost.
-/

namespace DeviceLink

variable {α π : Type} {key : α → Nat} {held : π → List α} {a : α}

/-- A thing is in exactly one of the places, and there exactly once; nothing else with its number is
anywhere. -/
def StandsOnce (key : α → Nat) (held : π → List α) (a : α) : Prop :=
  ∃ p, (held p).filter (key · = key a) = [a] ∧ ∀ q, q ≠ p → ∀ b ∈ held q, key b ≠ key a

lemma StandsOnce.mem (h : StandsOnce key held a) : ∃ p, a ∈ held p := by
  obtain ⟨p, hp, -⟩ := h
  have ha : a ∈ (held p).filter (key · = key a) := hp ▸ List.mem_singleton_self a
  exact ⟨p, List.mem_of_mem_filter ha⟩

/-- In a list without a number that occurs twice, a thing is alone with its number. -/
lemma filter_key_of_nodup :
    ∀ {l : List α}, (l.map key).Nodup → a ∈ l → l.filter (key · = key a) = [a]
  | b :: rest, hn, ha => by
      rw [List.map_cons, List.nodup_cons] at hn
      rcases List.mem_cons.mp ha with rfl | ha
      · have hrest : rest.filter (key · = key a) = [] := by
          rw [List.filter_eq_nil_iff]
          intro c hc
          have hne : key c ≠ key a := fun he => hn.1 (he ▸ List.mem_map_of_mem hc)
          simpa using hne
        rw [List.filter_cons_of_pos (by simp), hrest]
      · have hne : key b ≠ key a := fun he => hn.1 (he ▸ List.mem_map_of_mem ha)
        rw [List.filter_cons_of_neg (by simpa using hne)]
        exact filter_key_of_nodup hn.2 ha

/-- **Where no number occurs twice**, everything that is somewhere stands once. -/
theorem standsOnce_of_nodup {places : List π} (hplaces : ∀ p, p ∈ places)
    (hn : ((places.flatMap held).map key).Nodup) (ha : a ∈ places.flatMap held) :
    StandsOnce key held a := by
  rw [List.map_flatMap, List.nodup_flatMap] at hn
  obtain ⟨p, -, hp⟩ := List.mem_flatMap.mp ha
  refine ⟨p, filter_key_of_nodup (hn.1 p (hplaces p)) hp, ?_⟩
  intro q hq b hb he
  have : Std.Symm (Function.onFun List.Disjoint fun p => (held p).map key) :=
    ⟨fun _ _ h _ hb ha => h ha hb⟩
  have hapart := hn.2.forall (hplaces q) (hplaces p) hq
  exact hapart (List.mem_map_of_mem hb) (he ▸ List.mem_map_of_mem hp)

/-- **Nothing is lost just when everything stands once**, for things with numbers of their own that
are in the places or lost. -/
theorem forall_standsOnce_iff {places : List π} {items lost : List α} (hplaces : ∀ p, p ∈ places)
    (hn : (items.map key).Nodup)
    (hsum : ((places.flatMap held : List α) : Multiset α) + lost = items) :
    (∀ a ∈ items, StandsOnce key held a) ↔ lost = [] := by
  have hperm : ((places.flatMap held) ++ lost).Perm items := by
    rwa [Multiset.coe_add, Multiset.coe_eq_coe] at hsum
  have hkeys : (((places.flatMap held) ++ lost).map key).Nodup :=
    (hperm.map key).nodup_iff.mpr hn
  rw [List.map_append, List.nodup_append] at hkeys
  constructor
  · intro honce
    refine List.eq_nil_iff_forall_not_mem.mpr fun a ha => ?_
    obtain ⟨p, hp⟩ := (honce a (hperm.subset (List.mem_append_right _ ha))).mem
    have hin : a ∈ places.flatMap held := List.mem_flatMap.mpr ⟨p, hplaces p, hp⟩
    exact hkeys.2.2 (key a) (List.mem_map_of_mem hin) (key a) (List.mem_map_of_mem ha) rfl
  · rintro rfl a ha
    have hin : a ∈ places.flatMap held := by
      simpa using hperm.symm.subset ha
    exact standsOnce_of_nodup hplaces hkeys.1 hin

end DeviceLink
