import DeviceLink.Link.Shutdown
import DeviceLink.Proofs.Link.Course

/-!
# A link that may be shut down

Any number of threads may shut a link down, at any time.  Then everything is given up, and in the
end both workers are gone, and whatever is sent to them is dropped.

* `Incident`, `Link.does`, `Link.attend` — what may happen to a link that may be shut down, and a
  run.
* `steady_attend` — a link that nobody shuts down keeps the shape of one that nobody ever will.
* **`exists_shutdownStep_eq`** — what a step of a shutdown does to the pipeline.
* **`Sound.does`** — everything that happens keeps the shape.
-/

namespace DeviceLink

open Dispatch

/-! ## What happens -/

variable {κ ω ε γ : Type}

/-- One thing that happens to a link that may be shut down. -/
inductive Incident (κ ε : Type) where
  | happening (h : Happening κ ε)
  /-- A thread, which may be one of the workers, makes a step of a shutdown, however far it has
  come with it. -/
  | shutdown (worker : Option Context) (s : Shutdown)

namespace Link

variable {W : World ω ε} {l l' : Link κ ω}

/-- **One thing happens**, if it can happen. -/
def does (W : World ω ε) (l : Link κ ω) : Incident κ ε → Option (Link κ ω)
  | .happening h => l.happens W h
  | .shutdown worker s => (l.shutdownStep worker s).map Prod.fst

/-- **A run** of a link that may be shut down, with the record of an observer.  What cannot happen
is passed over. -/
def attend (W : World ω ε) (note : Incident κ ε → Link κ ω → Link κ ω → γ → γ) :
    Link κ ω × γ → List (Incident κ ε) → Link κ ω × γ :=
  runWith (does W) id note

/-- **A link that nobody shuts down** keeps the shape of one that nobody ever will. -/
theorem steady_attend (h : l.Steady) {note : Incident κ ε → Link κ ω → Link κ ω → γ → γ} {g : γ}
    {incidents : List (Incident κ ε)} (hnobody : ∀ worker s, .shutdown worker s ∉ incidents) :
    (attend W note (l, g) incidents).1.Steady := by
  refine runWith_induction (fun (l : Link κ ω) (_ : γ) => l.Steady) ?_ h
  intro i hmem l g next hl hs
  cases i with
  | happening happening => exact hl.happens hs
  | shutdown worker s => exact (hnobody worker s hmem).elim

/-! ## The shape is kept -/

/-- Somebody is ordered to stop; nothing else changes. -/
lemma jobs_sendStop {J : Type} (m : Mailbox J) :
    Mailbox.jobs m.sendStop.claim.queue = Mailbox.jobs m.queue ∧
      m.sendStop.claim.phase = m.phase := by
  rw [Mailbox.sendStop]
  cases h : m.phase <;> simp [Mailbox.claim, Mailbox.jobs, h]

/-- **What a step of a shutdown does** to the pipeline: it has everything given up, or sends no
job. -/
lemma exists_shutdownStep_eq {worker : Option Context} {s s' : Shutdown}
    (hs : l.shutdownStep worker s = some (l', s')) :
    ∃ inbox outbox log, l' = { l with inbox, outbox, log } ∧
      (inbox = l.inbox.offer [.abandon] ∨
        Mailbox.jobs inbox.queue = Mailbox.jobs l.inbox.queue ∧ inbox.phase = l.inbox.phase) := by
  have horder : ∀ c log, ∃ inbox outbox log', { l.order c with log } = { l with
      inbox, outbox, log := log' } ∧
      (inbox = l.inbox.offer [.abandon] ∨
        Mailbox.jobs inbox.queue = Mailbox.jobs l.inbox.queue ∧ inbox.phase = l.inbox.phase) := by
    intro c log
    cases c with
    | callback => exact ⟨_, _, log, rfl, .inr ⟨rfl, rfl⟩⟩
    | pipeline => exact ⟨_, _, log, rfl, .inr (jobs_sendStop l.inbox)⟩
  cases s with
  | abandon =>
      cases hs
      rw [send_eq_offer]
      exact ⟨_, l.outbox, l.log, rfl, .inl rfl⟩
  | stop todo =>
      cases todo with
      | nil => cases hs
      | cons c todo =>
          simp only [shutdownStep] at hs
          split at hs
          · cases hs
            exact horder c _
          · split at hs <;> cases hs <;> exact horder c _
  | join c todo =>
      simp only [shutdownStep] at hs
      split at hs <;> cases hs
      exact ⟨l.inbox, l.outbox, _, rfl, .inr ⟨rfl, rfl⟩⟩

lemma Sound.shutdownStep (h : l.Sound) {worker : Option Context} {s s' : Shutdown}
    (hs : l.shutdownStep worker s = some (l', s')) : l'.Sound := by
  obtain ⟨inbox, outbox, log, rfl, rfl | ⟨hjobs, hphase⟩⟩ := exists_shutdownStep_eq hs
  · have hnone : ([.abandon] : List (Job κ)).filterMap Job.operation? = [] := rfl
    exact (h.offer hnone l.world).of_eq rfl rfl rfl
  · refine ⟨h.single, fun hne => hphase.trans (h.busy hne), ?_, ?_⟩ <;> rw [queued, hjobs]
    · exact h.distinct
    · exact h.known

/-- **Everything that happens keeps the shape.** -/
theorem Sound.does (h : l.Sound) {i : Incident κ ε} (hs : l.does W i = some l') : l'.Sound := by
  cases i with
  | happening happening =>
      cases happening with
      | submit caller request callback =>
          cases hs
          exact h.submit caller request callback
      | stir e =>
          obtain ⟨⟨reports, world⟩, -, rfl⟩ := Option.map_eq_some_iff.mp hs
          rw [happen_eq_offer]
          exact h.offer (filterMap_operation_reports reports) world
      | work => exact h.of_tasks (h.tasks hs)
      | beginUser =>
          obtain ⟨ha, hi, -, hn⟩ := beginUser_core hs
          exact h.of_eq ha hi hn
      | endUser panic =>
          obtain ⟨log, sink, rfl⟩ := exists_eq_of_endUser hs
          exact h.of_eq rfl rfl rfl
      | handle kept =>
          cases hs
          exact h.of_eq rfl rfl rfl
  | shutdown worker s =>
      obtain ⟨⟨next, s'⟩, hstep, rfl⟩ := Option.map_eq_some_iff.mp hs
      exact h.shutdownStep hstep

end Link

end DeviceLink
