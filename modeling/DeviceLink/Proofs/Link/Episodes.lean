import DeviceLink.Proofs.Link.Wiring

/-!
# Everything that happens to a link

A link may be shut down at any time, and the operations that come to it may have no callback.

* `Episode`, `Link.undergoes`, `Link.undergo` — what may happen to such a link, and a run.
* `Sound.undergoes` — everything that happens keeps the shape.
* `wired_undergo_induction` — what everything that happens preserves holds after a run over
  transports.
-/

namespace DeviceLink

variable {κ ω ε γ : Type}

/-- One thing that happens to a link that may be shut down, and to which operations may come without
a callback. -/
inductive Episode (κ ε : Type) where
  | bring (request : Request) (callback : Option κ)
  | incident (i : Incident κ ε)

namespace Link

variable {W : World ω ε}

/-- **One thing happens**, if it can happen. -/
def undergoes (W : World ω ε) (l : Link κ ω) : Episode κ ε → Option (Link κ ω)
  | .bring request callback => some (l.bring request callback)
  | .incident i => l.does W i

/-- **A run**, with the record of an observer.  What cannot happen is passed over. -/
def undergo (W : World ω ε) (note : Episode κ ε → Link κ ω → Link κ ω → γ → γ) :
    Link κ ω × γ → List (Episode κ ε) → Link κ ω × γ :=
  runWith (undergoes W) id note

/-- **Everything that happens keeps the shape.** -/
theorem Sound.undergoes {l l' : Link κ ω} (h : l.Sound) {e : Episode κ ε}
    (hs : l.undergoes W e = some l') : l'.Sound := by
  cases e with
  | bring request callback =>
      cases hs
      exact h.bring request callback
  | incident i => exact h.does hs

/-- Everything that happens leaves the world with the call that the stage waits for. -/
theorem Wired.undergoes {l l' : Link κ Transports} (h : l.Wired) (hsound : l.Sound)
    {e : Episode κ Stirring} (hs : l.undergoes Transports.world e = some l') : l'.Wired := by
  cases e with
  | bring request callback =>
      cases hs
      rw [bring, send_eq_offer]
      exact h
  | incident i => exact h.does hsound hs

/-- Whatever holds when a link over transports was just built, and is kept by everything that
happens to one, holds of every run. -/
theorem wired_undergo_induction {l : Link κ Transports}
    {note : Episode κ Stirring → Link κ Transports → Link κ Transports → γ → γ}
    (P : Link κ Transports → γ → Prop)
    (hstep : ∀ e l g next, l.Sound → l.Wired → P l g →
      l.undergoes Transports.world e = some next → P next (note e l next g))
    {c : PipelineConfig} {listens : Bool} {config : TransportConfig} {files : Config.Files}
    (hbuild : Link.build c listens (some { config, files }) = .ok l) {g : γ} (hstart : P l g)
    (episodes : List (Episode κ Stirring)) :
    P (undergo Transports.world note (l, g) episodes).1
      (undergo Transports.world note (l, g) episodes).2 := by
  refine (runWith_induction_of_kept (S := fun l => l.Sound ∧ l.Wired) ?_ P ?_
    ⟨(steady_build hbuild).sound, wired_build hbuild⟩ hstart episodes).2
  · exact fun _ _ _ hl hn => ⟨hl.1.undergoes hn, hl.2.undergoes hl.1 hn⟩
  · exact fun e l g next hl hg hn => hstep e l g next hl.1 hl.2 hg hn

end Link

end DeviceLink
