import DeviceLink.Proofs.Stage.Deeds
import DeviceLink.Proofs.Stage.Parting

/-!
# Who stays in the connect slot

Few things make a stage look at its connect slot: an operation on the connection, a report that a
connection is up or could not be made, and giving everything up.  Whatever else it does, or goes on
with, leaves whoever is there.

* `Move.disturbs`, `Frame.disturbs` — the moves that look at the slot, and what they go on with.
* **`Stage.occupant_of_deed`** — nothing else changes who is there.
* **`Single.occupant_step`** — the same of every move of the worker.
-/

namespace DeviceLink

variable {κ : Type}

/-- The move makes the stage look at the connect slot. -/
def Move.disturbs : Move κ → Bool
  | enter _ op => op.request.aim?.isSome
  | deliver .connected | deliver (.connectionFailed _) | abandon _ => true
  | deliver (.disconnected _) | deliver (.message _ _) | deliver (.acknowledged _ _) | proceed
  | created _ | answered _ | panic _ => false

/-- What is left to do looks at the connect slot, or was begun by something that does. -/
def Frame.disturbs : Frame κ → Bool
  | superseding _ _ _ | starting _ | announced | abandoning _ _ => true
  | last | creating _ _ | replacing _ | requesting _ | retired _ => false

/-- **Nothing else changes who is there.** -/
theorem Stage.occupant_of_deed {s t : Stage κ} {frame : Option (Frame κ)} {m : Move κ}
    {spilt : List Failure} {n : Next κ} (h : s.Deed frame m t spilt n) (hm : m.disturbs = false)
    (hframe : ∀ f ∈ frame, f.disturbs = false) :
    t.activeConnect = s.activeConnect ∧ ∀ ask f, n = .ask ask f → f.disturbs = false := by
  cases h with
  | barred text => exact ⟨rfl, by rintro ask f ⟨⟩⟩
  -- these neither look at the slot nor leave anything to do that does
  | rejects | wants | keeps | refuses | asks | passes | falls | hears | acknowledges | replaces
  | retires | unmade | made | remade | unasked => exact ⟨rfl, by rintro ask f ⟨⟩; rfl⟩
  | acknowledgesNobody | ends | retiresAlone | accepts | unaskedNobody =>
      exact ⟨rfl, by rintro ask f ⟨⟩⟩
  -- these come from a move that disturbs
  | turns hr =>
      rw [Move.disturbs, hr] at hm
      cases hm
  | rises | fails | failsAlone | givesUp => cases hm
  -- and these from something that was left to do
  | supersedes here | announces here | announcesAlone here | abandons here | unstarted here
  | unstartedNobody here => cases hframe _ here

namespace Activity

variable {a a' : Activity κ} {m : Move κ} {traces : List (Trace κ)}

/-- **A move of the worker** that does not look at the connect slot leaves whoever is there. -/
theorem Single.occupant_step (h : a.Single) (hm : a.Driven m) (hs : a.step m = some (a', traces))
    (hquiet : m.disturbs = false) (hlevels : ∀ l ∈ a.levels, l.2.disturbs = false) :
    a'.stage.activeConnect = a.stage.activeConnect ∧ ∀ l ∈ a'.levels, l.2.disturbs = false := by
  rcases h.outcome hm hs with ⟨message, session, c, -, -, rfl, -⟩ | ⟨t, ht, rfl, -⟩
  · exact ⟨rfl, List.forall_mem_nil _⟩
  · have hframe : ∀ f ∈ a.frame?, f.disturbs = false := by
      intro f hf
      obtain ⟨l, hl, rfl⟩ := Option.map_eq_some_iff.mp hf
      exact hlevels l (List.mem_of_head? hl)
    obtain ⟨hsame, hnext⟩ := Stage.occupant_of_deed (does_turn ht).deed hquiet hframe
    rw [stage_settle]
    exact ⟨hsame, fun l hl => hnext l.1 l.2 (mem_levels_settle.mp hl)⟩

end Activity

end DeviceLink
