import DeviceLink.Proofs.Dispatch.Tickets

/-!
# Kept handles

Who calls a closure and does not wait may keep a handle, to wait later.  Handles are numbered in the
order in which they are kept, and nothing but their own use changes them.

* `Uses` — what changes a kept handle.
* **`Machine.kept_step`** — without that a handle holds what was kept.
-/

namespace DeviceLink.Dispatch

variable {ν : Type}

/-- What changes a kept handle: it is waited on or dropped, or the closure that runs for it ends. -/
inductive Uses (n : Nat) : List (Frame ν) → Prop where
  | waits {origin : Origin} {rest : List (Action ν)} {values : List Value} {goal : Goal}
      {below : List (Frame ν)} : Uses n (.running origin (.wait n :: rest) values goal :: below)
  | forgets {origin : Origin} {rest : List (Action ν)} {values : List Value} {goal : Goal}
      {below : List (Frame ν)} : Uses n (.running origin (.forget n :: rest) values goal :: below)
  | returns {origin : Origin} {values : List Value} {below : List (Frame ν)} :
      Uses n (.running origin [] values (.keep (some n)) :: below)
  | fails {origin : Origin} {text : String} {rest : List (Action ν)} {values : List Value}
      {below : List (Frame ν)} :
      Uses n (.running origin (.fail text :: rest) values (.keep (some n)) :: below)

namespace Machine

variable {m m' m₀ : Machine ν} {t : Thread} {c : Context} {n : Nat} {h : Handle}

lemma handles_give (m : Machine ν) (t : Thread) (v : Value) (below : List (Frame ν)) :
    (m.give t v below).handles = m.handles := by
  unfold give
  split <;> exact handles_setStack _ _ _

lemma handles_deliver (m : Machine ν) (k : Nat) (d : Delivery) :
    (m.deliver k d).handles = m.handles := by
  obtain ⟨log, heq, -⟩ := m.exists_deliver_eq k d
  rw [heq]

lemma handles_unwind (m : Machine ν) (t : Thread) (p : Panic) (frames : List (Frame ν)) :
    (m.unwind t p frames).handles = m.handles := by
  induction frames generalizing m with
  | nil => exact handles_setStack _ _ _
  | cons frame below ih =>
      cases frame with
      | awaiting _ | discarding _ _ | stopping _ | joining _ _ => exact ih m
      | running _ _ _ goal =>
          cases goal with
          | value | task | keep _ => exact ih m
          | leave cell => exact ih _
          | ticket k => exact (handles_setStack _ _ _).trans (handles_deliver _ _ _)
          | result =>
              cases t with
              | outside _ | worker _ => exact handles_setStack _ _ _

lemma handles_letGo (m : Machine ν) (k : Nat) : (m.letGo k).handles = m.handles := by
  obtain ⟨tickets, heq⟩ := m.exists_letGo_eq k
  rw [heq]

lemma handles_discard (m : Machine ν) (t : Thread) (k : Nat) (panic : Option Panic)
    (below : List (Frame ν)) : (m.discard t k panic below).handles = m.handles := by
  cases panic with
  | none => rw [discard, handles_give, handles_letGo]
  | some p => rw [discard, handles_unwind, handles_letGo]

/-- The end of a closure changes the handle that it runs for. -/
lemma getElem?_handles_finish (hk : m.handles[n]? = some h) (v : Value) (goal : Goal)
    (below : List (Frame ν)) :
    (m.finish t v goal below).handles[n]? = some h ∨ goal = .keep (some n) := by
  cases goal with
  | value | task => exact .inl ((congrArg (·[n]?) (handles_give _ _ _ _)).trans hk)
  | leave cell => exact .inl ((congrArg (·[n]?) (handles_give _ _ _ _)).trans hk)
  | ticket k =>
      refine .inl ?_
      rw [finish, handles_setStack, handles_deliver]
      exact hk
  | result =>
      refine .inl ?_
      cases t <;> rw [finish, handles_setStack] <;> exact hk
  | keep handle =>
      cases handle with
      | none => exact .inl ((congrArg (·[n]?) (handles_give _ _ _ _)).trans hk)
      | some other =>
          by_cases hself : other = n
          · exact .inr (hself ▸ rfl)
          · refine .inl ?_
            rw [finish, handles_give, setHandle, List.getElem?_set_ne hself]
            exact hk

lemma handles_of_queue? {target : Context} {body : List (Action ν)} {k : Nat}
    (hq : m.queue? target body = some (k, m₀)) : m₀.handles = m.handles := by
  rw [queue?_eq] at hq
  split at hq
  · cases hq
  · cases hq
    rfl

/-- A call keeps its own handle behind the others. -/
lemma getElem?_handles_call (hk : m.handles[n]? = some h) (origin : Origin) (style : Style)
    (target : Context) (body : List (Action ν)) (below : List (Frame ν)) :
    (m.call t origin style target body below).handles[n]? = some h := by
  have hlt : n < m.handles.length := (List.getElem?_eq_some_iff.mp hk).1
  have hnew : m.newHandle.handles[n]? = some h := (List.getElem?_append_left hlt).trans hk
  have hset : ∀ (k : Machine ν) (other : Handle), k.handles = m.newHandle.handles →
      (k.setHandle m.handles.length other).handles[n]? = some h := by
    intro k other hsame
    rw [setHandle, List.getElem?_set_ne (Nat.ne_of_gt hlt), hsame]
    exact hnew
  unfold call
  cases style with
  | waiting =>
      dsimp only
      split
      · rwa [handles_setStack]
      · split
        · next k m₀ hq =>
            rw [← handles_of_queue? hq] at hk
            split <;> rwa [handles_setStack]
        · rwa [handles_give]
  | driving =>
      dsimp only
      split
      · rwa [handles_unwind]
      · split
        · rwa [handles_setStack]
        · split
          · next k m₀ hq => rwa [handles_setStack, handles_of_queue? hq]
          · rwa [handles_give]
  | keeping =>
      dsimp only
      split
      · rwa [handles_setStack]
      · split
        · next k m₀ hq =>
            rw [handles_give]
            exact hset _ _ (handles_of_queue? hq)
        · rw [handles_give]
          exact hset _ _ rfl
  | dropping =>
      dsimp only
      split
      · rwa [handles_setStack]
      · split
        · next k m₀ hq => rwa [handles_setStack, handles_of_queue? hq]
        · rwa [handles_give]

lemma getElem?_handles_forget (hk : m.handles[n]? = some h) {other : Nat} (hne : other ≠ n) :
    (m.forget other).handles[n]? = some h := by
  have hset : (m.setHandle other .empty).handles[n]? = some h :=
    (List.getElem?_set_ne hne).trans hk
  unfold forget
  split
  · rwa [handles_letGo]
  · exact hset

lemma getElem?_handles_wait (hk : m.handles[n]? = some h) {other : Nat} (hne : other ≠ n)
    (below : List (Frame ν)) : (m.wait t other below).handles[n]? = some h := by
  have hset : (m.setHandle other .empty).handles[n]? = some h :=
    (List.getElem?_set_ne hne).trans hk
  unfold wait
  dsimp only
  split
  · rwa [handles_give]
  · rwa [handles_give]
  · rwa [handles_give]
  · rwa [handles_give]
  · split
    · rw [handles_unwind]
      exact getElem?_handles_forget hk hne
    · rwa [handles_setStack]

lemma getElem?_handles_perform (hk : m.handles[n]? = some h) (a : Action ν) (origin : Origin)
    (goal : Goal) (top : Frame ν) (below : List (Frame ν)) :
    (m.perform t a origin goal top below).handles[n]? = some h ∨ a = .wait n ∨ a = .forget n ∨
      (∃ text, a = .fail text) ∧ goal = .keep (some n) := by
  cases a with
  | tellThread | tellContext | record v => exact .inl (by rwa [perform, handles_give])
  | guard expected =>
      refine .inl ?_
      rw [perform]
      split
      · rwa [handles_give]
      · rwa [handles_unwind]
  | panic p => exact .inl (by rwa [perform, handles_unwind])
  | fail text =>
      exact (getElem?_handles_finish hk _ goal below).imp_right fun hgoal =>
        .inr (.inr ⟨⟨text, rfl⟩, hgoal⟩)
  | enter cell body =>
      refine .inl ?_
      rw [perform]
      split
      · rwa [handles_unwind]
      · dsimp only
        split
        · rwa [handles_unwind]
        · rwa [handles_setStack]
  | update level change =>
      refine .inl ?_
      unfold perform
      dsimp only
      split <;> rwa [handles_give]
  | call style stated target body => exact .inl (getElem?_handles_call hk _ _ _ _ _)
  | wait other =>
      by_cases hself : other = n
      · exact .inr (.inl (hself ▸ rfl))
      · exact .inl (getElem?_handles_wait hk hself _)
  | forget other =>
      by_cases hself : other = n
      · exact .inr (.inr (.inl (hself ▸ rfl)))
      · refine .inl ?_
        rw [perform, handles_give]
        exact getElem?_handles_forget hk hself
  | inline stated body => exact .inl (by rwa [perform, handles_setStack])
  | stop => exact .inl (by rwa [perform, handles_setStack])

lemma handles_stopNext (m : Machine ν) (t : Thread) (todo : List Context) (below : List (Frame ν)) :
    (m.stopNext t todo below).handles = m.handles := by
  unfold stopNext
  split
  · exact handles_give _ _ _ _
  · dsimp only
    split
    · exact handles_setStack _ _ _
    · split <;> exact handles_setStack _ _ _

/-- **A kept handle holds what was kept**, as long as it is not used. -/
theorem kept_step (hs : m.step t = some m') (hk : m.handles[n]? = some h) :
    m'.handles[n]? = some h ∨ Uses n (m.stack t) := by
  cases hstack : m.stack t with
  | nil =>
      cases t with
      | worker c =>
          refine .inl ?_
          cases turns_step hstack hs with
          | job _ _ => rwa [handles_setStack]
          | stop _ _ _ | exit _ => exact hk
      | outside k =>
          unfold step at hs
          rw [hstack] at hs
          cases hs
  | cons frame below =>
      unfold step at hs
      rw [hstack] at hs
      cases frame with
      | awaiting k =>
          refine .inl ?_
          dsimp only at hs
          split at hs
          · cases hs
          · split at hs
            · cases hs
            · cases hs
              rwa [handles_give]
            · cases hs
              rwa [handles_unwind]
            · cases hs
              rwa [handles_give]
      | discarding k panic =>
          cases hs
          exact .inl (by rwa [handles_discard])
      | stopping todo =>
          cases hs
          exact .inl (by rwa [handles_stopNext])
      | joining c todo =>
          refine .inl ?_
          dsimp only at hs
          split at hs
          · cases hs
            rwa [handles_setStack]
          · cases hs
          · cases hs
      | running origin left values goal =>
          cases left with
          | nil =>
              cases hs
              refine (getElem?_handles_finish hk _ _ _).imp_right ?_
              rintro rfl
              exact .returns
          | cons a rest =>
              cases hs
              refine (getElem?_handles_perform hk _ _ _ _ _).imp_right ?_
              rintro (rfl | rfl | ⟨⟨text, rfl⟩, rfl⟩)
              · exact .waits
              · exact .forgets
              · exact .fails

end Machine

end DeviceLink.Dispatch
