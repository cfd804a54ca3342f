import Mathlib.Tactic.Common

/-!
# Runs under observation

Whatever is looked at here, a dispatcher, a transport, a stage or a link, one thing happens to it
after the other, and not everything can happen at any time.  A run is any list of such things, and
passes over what cannot happen.  An observer sees the state before each step and what comes of it,
and keeps a record.

* `runWith` — a run, with the record of an observer.
* **`runWith_induction`** — what every step keeps, of the state and the record, holds of every run.
* `runWith_induction_of_eq`, `runWith_induction_of_kept` — the same, where the end of the run is
  known, and where every step keeps the states in shape.
-/

namespace DeviceLink

variable {σ ι ρ γ : Type} {step : σ → ι → Option ρ} {state : ρ → σ} {note : ι → σ → ρ → γ → γ}

/-- **A run**, with the record of an observer.  A step comes to something of which the next state is
a part; what cannot happen is passed over. -/
def runWith (step : σ → ι → Option ρ) (state : ρ → σ) (note : ι → σ → ρ → γ → γ) :
    σ × γ → List ι → σ × γ
  | p, [] => p
  | (s, g), i :: rest =>
    match step s i with
    | none => runWith step state note (s, g) rest
    | some r => runWith step state note (state r, note i s r g) rest

lemma runWith_cons_of_none {s : σ} {i : ι} (h : step s i = none) (g : γ) (rest : List ι) :
    runWith step state note (s, g) (i :: rest) = runWith step state note (s, g) rest := by
  rw [runWith, h]

lemma runWith_cons_of_some {s : σ} {i : ι} {r : ρ} (h : step s i = some r) (g : γ)
    (rest : List ι) : runWith step state note (s, g) (i :: rest)
      = runWith step state note (state r, note i s r g) rest := by
  rw [runWith, h]

lemma runWith_append (p : σ × γ) (is more : List ι) :
    runWith step state note p (is ++ more)
      = runWith step state note (runWith step state note p is) more := by
  induction is generalizing p with
  | nil => rfl
  | cons i rest ih =>
      obtain ⟨s, g⟩ := p
      rw [List.cons_append]
      cases hi : step s i with
      | none => rw [runWith_cons_of_none hi, runWith_cons_of_none hi, ih]
      | some r => rw [runWith_cons_of_some hi, runWith_cons_of_some hi, ih]

/-- **Whatever holds at the start and is kept by everything that happens** holds when it has
happened. -/
theorem runWith_induction (P : σ → γ → Prop) {is : List ι}
    (hstep : ∀ i ∈ is, ∀ s g r, P s g → step s i = some r → P (state r) (note i s r g))
    {s : σ} {g : γ} (hstart : P s g) :
    P (runWith step state note (s, g) is).1 (runWith step state note (s, g) is).2 := by
  induction is generalizing s g with
  | nil => exact hstart
  | cons i rest ih =>
      have hrest : ∀ j ∈ rest, ∀ s g r, P s g → step s j = some r → P (state r) (note j s r g) :=
        fun j hj => hstep j (List.mem_cons_of_mem i hj)
      cases hi : step s i with
      | none =>
          rw [runWith_cons_of_none hi]
          exact ih hrest hstart
      | some r =>
          rw [runWith_cons_of_some hi]
          exact ih hrest (hstep i List.mem_cons_self s g r hstart hi)

/-- The same, where the end of the run is known. -/
lemma runWith_induction_of_eq {is : List ι} {s s' : σ} {g g' : γ}
    (hrun : runWith step state note (s, g) is = (s', g')) (P : σ → γ → Prop) (hstart : P s g)
    (hstep : ∀ i s g r, P s g → step s i = some r → P (state r) (note i s r g)) : P s' g' := by
  have hlast : P (runWith step state note (s, g) is).1 (runWith step state note (s, g) is).2 :=
    runWith_induction P (fun i _ => hstep i) hstart
  rwa [hrun] at hlast

/-- Whatever holds at the start, and is kept by everything that happens to a state in shape, holds
of every run from one, if everything that happens keeps the shape. -/
theorem runWith_induction_of_kept {S : σ → Prop}
    (hkept : ∀ i s r, S s → step s i = some r → S (state r)) (P : σ → γ → Prop)
    (hstep : ∀ i s g r, S s → P s g → step s i = some r → P (state r) (note i s r g))
    {s : σ} {g : γ} (hshape : S s) (hstart : P s g) (is : List ι) :
    S (runWith step state note (s, g) is).1 ∧
      P (runWith step state note (s, g) is).1 (runWith step state note (s, g) is).2 := by
  refine runWith_induction (fun s g => S s ∧ P s g) ?_ ⟨hshape, hstart⟩
  rintro i - s g r ⟨hs, hg⟩ hr
  exact ⟨hkept i s r hs hr, hstep i s g r hs hg hr⟩

end DeviceLink
