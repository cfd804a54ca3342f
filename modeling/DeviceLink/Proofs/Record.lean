import Mathlib.Data.List.Induction
import Mathlib.Tactic.Common

/-!
# Entries and what stands before them

A promise about a record often says of each entry what must stand before it.  A record grows at its
end, so that nothing changes for the entries that are there already.

* **`forall_entry_concat`** — one more entry has to keep the promise, and no other.
-/

namespace DeviceLink

/-- **One more entry.**  If all entries of a record are as they should be, given what stands before
each, and so is the next one, then all are so with that one at the end. -/
theorem forall_entry_concat {α : Type} {P : List α → α → Prop} {l : List α} {last : α}
    (h : ∀ before a after, l = before ++ a :: after → P before a) (hlast : P l last) :
    ∀ before a after, l ++ [last] = before ++ a :: after → P before a := by
  intro before a after heq
  rcases List.eq_nil_or_concat after with rfl | ⟨rest, last', rfl⟩
  · -- the entry is the last one
    cases List.append_inj_left' heq rfl
    cases List.append_inj_right' heq rfl
    exact hlast
  · rw [List.concat_eq_append, ← List.cons_append, ← List.append_assoc] at heq
    exact h before a rest (List.append_inj_left' heq rfl)

end DeviceLink
