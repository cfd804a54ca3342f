import DeviceLink.Proofs.Link.Episodes
import DeviceLink.Proofs.Record
import DeviceLink.Proofs.Stage.Discipline
import DeviceLink.Proofs.Stage.Parting
import DeviceLink.Proofs.Transport.Latch

/-!
# What connection attempts are made with

Two latches keep what a client proves its identity with.  The stage keeps the credential that was
set last; each transport keeps the certificate of its last connect, and uses it again whenever it
reconnects.  A password is kept by neither: it goes with the call.

* `Milestone`, `Milestone.note` — the record of a run: operations that the stage has handled, calls
  that have reached a session, attempts handed to the builder of clients.
* `latched`, `Presents` — what a record says of the two latches.
* `Equipped` — what an attempt is made with, given what came before it.
* **`credential_turn`**, **`auth?_step`** — what a stretch of work, and a step of a call, do to the
  latches.
* `Link.Credited` — the latches are what the record says, and so is the call that is under way.
* **`Credited.undergoes`** — everything that happens keeps that.
* **`attempts_in_order`** — the law of the attempts.
-/

namespace DeviceLink

open Transport Dispatch

variable {κ : Type}

/-! ## What the stage does to its credential -/

/-- The credential that a move brings, if it does. -/
def Request.credential? : Request → Option Credential
  | setCredential credential => some credential
  | setConnectionArgs _ | connect | reconnect | disconnect | publish _ _ | subscribe _
  | unsubscribe _ | enableFeature _ | disableFeature _ => none

def Move.credential? : Move κ → Option Credential
  | enter _ op => op.request.credential?
  | deliver _ | abandon _ | proceed | created _ | answered _ | panic _ => none

lemma Request.credential?_of_aim? {r : Request} {aim : Aim} (h : r.aim? = some aim) :
    r.credential? = none := by
  cases r <;> first | rfl | cases h

namespace Stage

variable {s t : Stage κ} {frame : Option (Frame κ)} {m : Move κ} {spilt : List Failure} {n : Next κ}
  {aim : Aim} {op : Operation κ}

lemma credential_setSlot (s : Stage κ) (slot : Slot) (op : Option (Operation κ)) :
    (s.setSlot slot op).credential = s.credential := by
  cases slot <;> rfl

lemma credential_of_starts (h : s.Starts aim op t n) : t.credential = s.credential := by
  cases h with
  | barred text => rfl
  | refused hnone => exact credential_setSlot _ _ _
  | called hsome => exact credential_setSlot s _ _

lemma credential_of_supersedes {left : List (Operation κ)} (h : s.Supersedes aim op left t n) :
    t.credential = s.credential := by
  cases h with
  | last h => exact credential_of_starts h
  | next => rfl

/-- The credential stays, unless one is brought. -/
lemma credential_of_deed (h : s.Deed frame m t spilt n) (hm : m.credential? = none) :
    t.credential = s.credential := by
  cases h with
  | @keeps o op credential hr =>
      rw [Move.credential?, hr] at hm
      cases hm
  | turns hr h => exact credential_of_supersedes (s := s.cleared) h
  | supersedes here h => exact credential_of_supersedes h
  | fails hop | announces here hop | retires here hop => exact credential_setSlot _ _ _
  | unstarted here hop => exact credential_setSlot _ _ _
  | barred | rejects | wants | refuses | asks | passes | rises | falls | hears | failsAlone
  | acknowledges | acknowledgesNobody | givesUp | ends | replaces | announcesAlone | retiresAlone
  | abandons | unmade | made | remade | accepts | unstartedNobody | unasked | unaskedNobody => rfl

/-! ### What an operation on the connection leads to -/

/-- What is wanted of the connection when something is handed over, if anything is. -/
def wanted? : Ask κ × Frame κ → Option Aim
  | (.call _ c, _) => c.aim?
  | (_, .superseding _ aim _) => some aim
  | _ => none

/-- What a stretch of work goes on with: the aim that it has come from, if it has one. -/
structure Follows (s t : Stage κ) (aim : Aim) (n : Next κ) : Prop where
  wanted : ∀ ask next other, n = .ask ask next → wanted? (ask, next) = some other → other = aim
  call : ∀ session c next other, n = .ask (.call session c) next → c.aim? = some other →
    c = t.callFor other

lemma follows_of_starts (h : s.Starts aim op t n) : s.Follows t aim n := by
  cases h with
  | barred text => exact ⟨by rintro ask next other ⟨⟩, by rintro session c next other ⟨⟩⟩
  | refused hnone =>
      exact ⟨by rintro ask next other ⟨⟩ ⟨⟩, by rintro session c next other ⟨⟩⟩
  | called hsome =>
      have haim := s.aim?_callFor aim
      refine ⟨?_, ?_⟩
      · rintro ask next other ⟨⟩ hother
        exact Option.some.inj (hother.symm.trans haim)
      · rintro session c next other ⟨⟩ hother
        cases Option.some.inj (hother.symm.trans haim)
        cases aim <;> rfl

lemma follows_of_supersedes {left : List (Operation κ)} (h : s.Supersedes aim op left t n) :
    s.Follows t aim n := by
  cases h with
  | last h => exact follows_of_starts h
  | next =>
      refine ⟨?_, by rintro session c next other ⟨⟩⟩
      rintro ask next other ⟨⟩ hother
      exact (Option.some.inj hother).symm

/-- Nothing is wanted of the connection while everything is given up. -/
lemma wanted?_of_abandons {session : Option SessionId} {left : List (Operation κ)}
    (h : Abandons session left n) {ask : Ask κ} {next : Frame κ} (hn : n = .ask ask next) :
    wanted? (ask, next) = none := by
  cases h <;> cases hn <;> rfl

/-- **Whatever is handed over for a connection** comes from an operation that has just arrived, or
from one that has superseded others. -/
lemma follows_of_deed (h : s.Deed frame m t spilt n) {ask : Ask κ} {next : Frame κ}
    (hn : n = .ask ask next) (haim : wanted? (ask, next) = some aim) :
    ((∃ o op, m = .enter o op ∧ op.request.aim? = some aim) ∨
        ∃ left op, frame = some (.superseding left aim op)) ∧
      ∀ session c, ask = .call session c → c = t.callFor aim := by
  have hfollows : ∀ {other}, s.Follows t other n ∨ s.cleared.Follows t other n →
      other = aim ∧ ∀ session c, ask = .call session c → c = t.callFor aim := by
    rintro other (⟨hwanted, hcall⟩ | ⟨hwanted, hcall⟩) <;>
      exact ⟨(hwanted ask next aim hn haim).symm,
        by rintro session c rfl; exact hcall session c next aim hn haim⟩
  cases h with
  | @turns o op other _ _ hr h =>
      obtain ⟨rfl, hcall⟩ := hfollows (.inr (follows_of_supersedes h))
      exact ⟨.inl ⟨o, op, rfl, hr⟩, hcall⟩
  | @supersedes left other op _ _ here h =>
      obtain ⟨rfl, hcall⟩ := hfollows (.inl (follows_of_supersedes h))
      exact ⟨.inr ⟨left, op, here⟩, hcall⟩
  | @asks o op kind c session hk hc hsome =>
      cases hn
      have hnone := SessionCall.aim?_of_tracked? (Option.isSome_of_eq_some hc)
      cases hnone.symm.trans haim
  | givesUp h => cases (wanted?_of_abandons h hn).symm.trans haim
  | abandons here h => cases (wanted?_of_abandons h hn).symm.trans haim
  | barred | rejects | wants | keeps | refuses | passes | rises | falls | hears | fails | failsAlone
  | acknowledges | acknowledgesNobody | ends | replaces | announces | announcesAlone | retires
  | retiresAlone | unmade | made | remade | accepts | unstarted | unstartedNobody | unasked
  | unaskedNobody => cases hn <;> cases haim

end Stage

namespace Activity

variable {a a' : Activity κ} {m : Move κ} {traces : List (Trace κ)}

/-- **A stretch of work keeps the credential that it is brought**, and else the one that there
was. -/
theorem credential_turn (h : a.Single) (hm : a.Driven m) {t : Turn κ} (ht : a.turn? m = some t) :
    t.stage.credential = m.credential?.or a.stage.credential := by
  cases hc : m.credential? with
  | none => exact Stage.credential_of_deed (does_turn ht).deed hc
  | some credential =>
      cases m with
      | enter o op =>
          obtain ⟨rfl, hlevels⟩ : o = .on .pipeline ∧ a.levels = [] := by
            rcases hm with hm | ⟨he, -⟩
            · exact hm
            · cases he
          have hout : a.stage.entered = false := by
            rw [h.orderly.cell, hlevels]
            rfl
          obtain ⟨id, request, error, callback⟩ := op
          cases request with
          | setCredential kept =>
              cases hc
              cases ht
              simp only [Stage.run, Origin.check, Stage.setCredential, Stage.inside, hout]
              rfl
          | setConnectionArgs _ | connect | reconnect | disconnect | publish _ _ | subscribe _
          | unsubscribe _ | enableFeature _ | disableFeature _ => cases hc
      | deliver _ | abandon _ | proceed | created _ | answered _ | panic _ => cases hc

lemma credential_step (h : a.Single) (hm : a.Driven m) (hs : a.step m = some (a', traces)) :
    a'.stage.credential = m.credential?.or a.stage.credential := by
  rcases h.outcome hm hs with ⟨message, session, c, -, rfl, rfl, -⟩ | ⟨t, ht, rfl, -⟩
  · rfl
  · rw [stage_settle]
    exact credential_turn h hm ht

/-- What is handed over for a connection after a move of the worker. -/
lemma follows_step (h : a.Single) (hm : a.Driven m) (hs : a.step m = some (a', traces))
    {l : Ask κ × Frame κ} (hl : l ∈ a'.levels) {aim : Aim} (haim : Stage.wanted? l = some aim) :
    ((∃ o op, m = .enter o op ∧ op.request.aim? = some aim) ∨
        ∃ k ∈ a.levels, Stage.wanted? k = some aim) ∧
      ∀ session c, l.1 = .call session c → c = a'.stage.callFor aim := by
  rcases h.outcome hm hs with ⟨message, session, c, -, rfl, rfl, -⟩ | ⟨t, ht, rfl, -⟩
  · cases hl
  · rw [stage_settle]
    have hn := mem_levels_settle.mp hl
    obtain ⟨hfrom, hcall⟩ := Stage.follows_of_deed (does_turn ht).deed hn haim
    refine ⟨hfrom.imp_right ?_, hcall⟩
    rintro ⟨left, op, hf⟩
    obtain ⟨before, hbefore⟩ := mem_levels_of_frame? hf
    refine ⟨_, hbefore, ?_⟩
    have hfits := h.orderly.fits _ hbefore
    cases before <;> first | rfl | exact hfits.elim

end Activity

/-! ## The record of a run -/

/-- What an observer writes down of credentials and of what they are used for. -/
inductive Milestone where
  /-- The stage handles an operation. -/
  | handled (id : Nat) (request : Request)
  /-- The session is reached by a call that is about its connection. -/
  | reached (session : SessionId) (aim : Aim)
  /-- A connection attempt of a session: what is handed to the builder of clients. -/
  | attempt (session : SessionId) (password : Option String) (auth : Option ClientAuth)
  deriving DecidableEq

def Milestone.credential? : Milestone → Option Credential
  | handled _ request => request.credential?
  | reached _ _ | attempt _ _ _ => none

/-- **The credential that was set last.** -/
def latched (g : List Milestone) : Option Credential :=
  (g.filterMap Milestone.credential?).getLast?

/-- **What a session presents**: the certificate that was latched when the last connect reached it,
if there was one, and if that was a certificate. -/
inductive Presents (s : SessionId) (g : List Milestone) : Option ClientAuth → Prop where
  | never (h : .reached s .connect ∉ g) : Presents s g none
  | last {before after : List Milestone} (hg : g = before ++ .reached s .connect :: after)
      (h : .reached s .connect ∉ after) :
      Presents s g (((latched before).bind Credential.certificate?).map ClientAuth.ofCertificate)

/-- A certificate is presented with its key, both byte for byte as they were set. -/
lemma ofCertificate_says (c : ClientCertificate) :
    (ClientAuth.ofCertificate c).certificate = c.certificate.toUTF8.toList ∧
      (ClientAuth.ofCertificate c).privateKey = c.privateKey.toUTF8.toList := ⟨rfl, rfl⟩

/-- The operation that was handled last wants something of the connection: what came before it, and
what has come since. -/
structure Since (g earlier later : List Milestone) (aim : Aim) : Prop where
  split : ∃ id request, g = earlier ++ .handled id request :: later ∧ request.aim? = some aim
  last : ∀ id request, .handled id request ∉ later

/-- **What an attempt is made with**, given what came before it. -/
structure Equipped (before : List Milestone) (s : SessionId) (password : Option String)
    (auth : Option ClientAuth) : Prop where
  /-- The operation that was handled last has caused it, and has reached the session.  The password
  is the token that was latched before; a connect presents no certificate along with a token. -/
  cause : ∃ earlier later aim, Since before earlier later aim ∧ aim.slot = .connect ∧
    .reached s aim ∈ later ∧ password = (latched earlier).bind Credential.token? ∧
    (aim = .connect → password = none ∨ auth = none)
  presents : Presents s before auth

/-- Every attempt of a record is made with what it has to be made with. -/
def AllEquipped (g : List Milestone) : Prop :=
  ∀ before s password auth after, g = before ++ .attempt s password auth :: after →
    Equipped before s password auth

section Records

variable {g earlier later more : List Milestone} {s : SessionId} {aim : Aim} {m : Milestone}
  {auth : Option ClientAuth}

lemma latched_append (g more : List Milestone) :
    latched (g ++ more) = (latched more).or (latched g) := by
  rw [latched, List.filterMap_append, List.getLast?_append]
  rfl

lemma latched_concat (g : List Milestone) (m : Milestone) :
    latched (g ++ [m]) = m.credential?.or (latched g) := by
  rw [latched_append, latched, List.filterMap_cons]
  cases m.credential? <;> rfl

/-- Nothing but an operation that sets a credential changes the one that is latched. -/
lemma latched_eq_none_of_unhandled (h : ∀ id request, .handled id request ∉ g) :
    latched g = none := by
  have hnil : g.filterMap Milestone.credential? = [] := by
    rw [List.filterMap_eq_nil_iff]
    intro m hm
    cases m with
    | handled id request => exact (h id request hm).elim
    | reached _ _ | attempt _ _ _ => rfl
  rw [latched, hnil]
  rfl

lemma Since.latched_eq (h : Since g earlier later aim) : latched g = latched earlier := by
  obtain ⟨⟨id, request, rfl, haim⟩, hlast⟩ := h
  rw [latched_append, ← List.singleton_append, latched_append,
    latched_eq_none_of_unhandled hlast, Option.none_or, latched, List.filterMap_cons,
    Milestone.credential?, Request.credential?_of_aim? haim]
  rfl

lemma Since.concat (h : Since g earlier later aim) (hm : ∀ id request, m ≠ .handled id request) :
    Since (g ++ [m]) earlier (later ++ [m]) aim := by
  obtain ⟨⟨id, request, rfl, haim⟩, hlast⟩ := h
  refine ⟨⟨id, request, by simp, haim⟩, fun id request hmem => ?_⟩
  rcases List.mem_append.mp hmem with hmem | hmem
  · exact hlast id request hmem
  · exact hm id request (List.mem_singleton.mp hmem).symm

lemma Presents.concat (h : Presents s g auth) (hm : m ≠ .reached s .connect) :
    Presents s (g ++ [m]) auth := by
  have hout : ∀ {l : List Milestone}, .reached s .connect ∉ l → .reached s .connect ∉ l ++ [m] := by
    intro l hl hmem
    rcases List.mem_append.mp hmem with hmem | hmem
    · exact hl hmem
    · exact hm (List.mem_singleton.mp hmem).symm
  cases h with
  | never h => exact .never (hout h)
  | @last before after hg h =>
      have hsplit : g ++ [m] = before ++ .reached s .connect :: (after ++ [m]) := by
        rw [hg, List.append_assoc]
        rfl
      exact .last hsplit (hout h)

lemma allEquipped_nil : AllEquipped [] := by
  intro before s password auth after h
  cases before <;> cases h

lemma AllEquipped.concat (h : AllEquipped g)
    (hm : ∀ s password auth, m = .attempt s password auth → Equipped g s password auth) :
    AllEquipped (g ++ [m]) := by
  have hall := forall_entry_concat
    (P := fun before e => ∀ s password auth, e = .attempt s password auth →
      Equipped before s password auth)
    (fun before e after heq s password auth he => h before s password auth after (he ▸ heq)) hm
  exact fun before s password auth after heq => hall before _ after heq s password auth rfl

end Records

/-! ## Links -/

namespace Link

variable {l l' : Link κ Transports} {g : List Milestone}

/-- What the next step of a call is, as far as the record is concerned. -/
def milestone? (w : Transports) (s : SessionId) (c : SessionCall) : Option Milestone :=
  (w.sessions[s]?).bind fun t =>
    match w.underway with
    | none => c.aim?.map (.reached s)
    | some (.start password) =>
      if t.config.problems w.files = [] then some (.attempt s password t.auth) else none
    | some _ => none

/-- **An attempt is written down as it is made.**  A start that the rules turn down builds no client
and is not written down; any other hands the builder the password and the certificate of the
attempt, and ends as the builder says. -/
lemma milestone?_of_start {w : Transports} {s : SessionId} (c : SessionCall) {t : Transport Nat}
    {password : Option String} (hs : w.sessions[s]? = some t)
    (hunder : w.underway = some (.start password)) :
    (t.config.problems w.files ≠ [] ∧ milestone? w s c = none ∧
        (w.step s c).1 = some (Transports.answerOf
          (.error (.fault (.config (t.config.problems w.files)))))) ∨
      ∃ auth, milestone? w s c = some (.attempt s password auth) ∧
        (w.step s c).1 = some (Transports.answerOf
          ((ClientOptions.build t.config w.files t.args password auth).map fun _ => ())) := by
  have hm : milestone? w s c =
      if t.config.problems w.files = [] then some (.attempt s password t.auth) else none := by
    rw [milestone?, hs, Option.bind_some, hunder]
  simp only [Transports.step, hs, hunder, Transport.step, Transport.start]
  cases hproblems : t.config.problems w.files with
  | nil =>
      refine .inr ⟨t.auth, by rw [hm, if_pos hproblems], ?_⟩
      cases ClientOptions.build t.config w.files t.args password t.auth <;> rfl
  | cons p rest =>
      refine .inl ⟨List.cons_ne_nil _ _, ?_, rfl⟩
      rw [hm, if_neg (hproblems ▸ List.cons_ne_nil _ _)]

/-- What the next step of the pipeline's worker is, as far as the record is concerned. -/
def milestones (l : Link κ Transports) : List Milestone :=
  match l.activity.asked? with
  | some (.call s c) => (milestone? l.world s c).toList
  | some (.chain _) | some (.create _) | some (.release _) => []
  | none =>
    match l.inbox.turn with
    | .job (.run op) _ => [.handled op.id op.request]
    | _ => []

/-- What the observer writes down. -/
def mark : Episode κ Stirring → Link κ Transports → Link κ Transports → List Milestone →
    List Milestone
  | .incident (.happening .work), before, _, g => g ++ before.milestones
  | .bring _ _, _, _, g | .incident (.happening (.submit _ _ _)), _, _, g
  | .incident (.happening (.stir _)), _, _, g | .incident (.happening .beginUser), _, _, g
  | .incident (.happening (.endUser _)), _, _, g | .incident (.happening (.handle _)), _, _, g
  | .incident (.shutdown _ _), _, _, g => g

/-- **The latches are what the record says**, and whatever is under way for a connection carries
what is latched. -/
structure Credited (l : Link κ Transports) (g : List Milestone) : Prop where
  latch : l.activity.stage.credential = latched g
  presents : ∀ s, Presents s g (l.world.auth? s)
  /-- Whatever is handed over for a connection comes from the operation that was handled last. -/
  wanted : ∀ k ∈ l.activity.levels, ∀ aim, Stage.wanted? k = some aim →
    ∃ earlier later, Since g earlier later aim
  /-- A call for a connection carries what is latched. -/
  calls : ∀ k ∈ l.activity.levels, ∀ aim, Stage.wanted? k = some aim →
    ∀ s c, k.1 = .call s c → c = l.activity.stage.callFor aim
  /-- A call that is under way has reached its session, and still has its password with it. -/
  underway : ∀ s c p, l.activity.asked? = some (.call s c) → l.world.underway = some p →
    p.password? = c.password? ∧
      (∀ aim, c.aim? = some aim →
        ∃ earlier later, Since g earlier later aim ∧ .reached s aim ∈ later) ∧
      ∀ auth, c.presents? = some auth → l.world.auth? s = auth
  equipped : AllEquipped g

/-- Only the stage and the world matter. -/
lemma Credited.of_eq (h : l.Credited g) (ha : l'.activity = l.activity)
    (hauth : ∀ s, l'.world.auth? s = l.world.auth? s)
    (hu : l'.world.underway = l.world.underway) : l'.Credited g := by
  refine ⟨?_, fun s => ?_, ?_, ?_, ?_, h.equipped⟩
  · rw [ha]
    exact h.latch
  · rw [hauth]
    exact h.presents s
  · rw [ha]
    exact h.wanted
  · rw [ha]
    exact h.calls
  · intro s c p hask hp
    rw [ha] at hask
    rw [hu] at hp
    obtain ⟨hpassword, hreached, hpresents⟩ := h.underway s c p hask hp
    exact ⟨hpassword, hreached, fun auth hauth' => (hauth s).trans (hpresents auth hauth')⟩

/-- The operation that a move brings is handled. -/
def handling : Move κ → List Milestone
  | .enter _ op => [.handled op.id op.request]
  | .deliver _ | .abandon _ | .proceed | .created _ | .answered _ | .panic _ => []

/-- **A move of the worker** keeps the latches what the record says. -/
theorem Credited.move (h : l.Credited g) (hsound : l.Sound) {m : Move κ}
    (hm : l.activity.Driven m) {a : Activity κ} {traces : List (Trace κ)}
    (hs : l.activity.step m = some (a, traces)) (ha : l'.activity = a)
    (hauth : ∀ s, l'.world.auth? s = l.world.auth? s) (hnone : l'.world.underway = none) :
    l'.Credited (g ++ handling m) := by
  have hlatch := Activity.credential_step hsound.single hm hs
  have hkept : latched (g ++ handling m) = m.credential?.or (latched g) := by
    cases m with
    | enter o op => exact latched_concat g _
    | deliver _ | abandon _ | proceed | created _ | answered _ | panic _ =>
        exact congrArg latched (List.append_nil g)
  have hfollows : ∀ k ∈ l'.activity.levels, ∀ aim, Stage.wanted? k = some aim →
      (∃ earlier later, Since (g ++ handling m) earlier later aim) ∧
        ∀ s c, k.1 = .call s c → c = l'.activity.stage.callFor aim := by
    rw [ha]
    intro k hk aim haim
    obtain ⟨hfrom, hcall⟩ := Activity.follows_step hsound.single hm hs hk haim
    refine ⟨?_, hcall⟩
    rcases hfrom with ⟨o, op, rfl, hop⟩ | ⟨old, hold, haim⟩
    · exact ⟨g, [], ⟨⟨op.id, op.request, rfl, hop⟩, by rintro id request ⟨⟩⟩⟩
    · -- while something is handed over, no operation arrives
      have hnothing : handling m = [] := by
        rcases hm with hm | ⟨rfl, -⟩
        · cases m with
          | enter o op =>
              rw [hm.2] at hold
              cases hold
          | deliver _ | abandon _ | proceed | created _ | answered _ | panic _ => rfl
        · rfl
      rw [hnothing, List.append_nil]
      exact h.wanted old hold aim haim
  refine ⟨?_, fun s => ?_, fun k hk aim haim => (hfollows k hk aim haim).1,
    fun k hk aim haim => (hfollows k hk aim haim).2, ?_, ?_⟩
  · rw [ha, hlatch, hkept, h.latch]
  · rw [hauth]
    cases m with
    | enter o op => exact (h.presents s).concat (by rintro ⟨⟩)
    | deliver _ | abandon _ | proceed | created _ | answered _ | panic _ =>
        rw [handling, List.append_nil]
        exact h.presents s
  · intro s c p hask hp
    rw [hnone] at hp
    cases hp
  · cases m with
    | enter o op => exact h.equipped.concat (by rintro s password auth ⟨⟩)
    | deliver _ | abandon _ | proceed | created _ | answered _ | panic _ =>
        rw [handling, List.append_nil]
        exact h.equipped

/-- A call for a connection that is handed over carries what is latched. -/
lemma Credited.call_eq (h : l.Credited g) {s : SessionId} {c : SessionCall} {frame : Frame κ}
    (hlevels : l.activity.levels = [(.call s c, frame)]) {aim : Aim} (haim : c.aim? = some aim) :
    c = l.activity.stage.callFor aim :=
  h.calls _ (Activity.mem_of_levels hlevels) aim haim s c rfl

/-- **The attempt of a call** is made with what is latched. -/
lemma Credited.equips (h : l.Credited g) {s : SessionId} {c : SessionCall} {frame : Frame κ}
    (hlevels : l.activity.levels = [(.call s c, frame)]) {password : Option String}
    (hunder : l.world.underway = some (.start password)) :
    Equipped g s password (l.world.auth? s) := by
  obtain ⟨hpassword, hreached, hpresents⟩ :=
    h.underway s c _ (Activity.asked?_of_levels hlevels) hunder
  refine ⟨?_, h.presents s⟩
  have htoken : l.activity.stage.token? = (latched g).bind Credential.token? := by
    rw [Stage.token?, h.latch]
  cases c with
  | connect carried certificate =>
      cases (hpassword : some password = some carried)
      obtain ⟨earlier, later, hsince, hmem⟩ := hreached .connect rfl
      obtain ⟨rfl, rfl⟩ := SessionCall.connect.inj (h.call_eq hlevels rfl)
      refine ⟨earlier, later, .connect, hsince, rfl, hmem, ?_, fun _ => ?_⟩
      · rw [htoken, hsince.latched_eq]
      · rw [hpresents _ rfl, Stage.token?, Stage.certificate?]
        rcases l.activity.stage.credential with _ | credential
        · exact .inl rfl
        · cases credential
          · exact .inr rfl
          · exact .inl rfl
  | reconnect carried =>
      cases (hpassword : some password = some carried)
      obtain ⟨earlier, later, hsince, hmem⟩ := hreached .reconnect rfl
      obtain rfl := SessionCall.reconnect.inj (h.call_eq hlevels rfl)
      refine ⟨earlier, later, .reconnect, hsince, rfl, hmem, ?_, by rintro ⟨⟩⟩
      rw [htoken, hsince.latched_eq]
  | disconnect | publish _ _ _ | subscribe _ _ | unsubscribe _ _ => cases hpassword

/-- Sessions that present what they did go on presenting what they have to, until the next
connect. -/
lemma Credited.presents_of_same (h : l.Credited g) {w : Transports} {m : Option Milestone}
    (hm : ∀ k, m ≠ some (.reached k .connect)) (hsame : ∀ k, w.auth? k = l.world.auth? k)
    (k : SessionId) : Presents k (g ++ m.toList) (w.auth? k) := by
  rw [hsame]
  cases m with
  | none =>
      rw [Option.toList_none, List.append_nil]
      exact h.presents k
  | some m => exact (h.presents k).concat fun he => hm k (congrArg some he)

/-- What a step of a call has to keep, and what it may write down. -/
lemma Credited.next (h : l.Credited g) {s : SessionId} {c : SessionCall} {frame : Frame κ}
    (hlevels : l.activity.levels = [(.call s c, frame)]) {w : Transports} {m : Option Milestone}
    (hm : ∀ id request, m ≠ some (.handled id request))
    (hpresents : ∀ k, Presents k (g ++ m.toList) (w.auth? k))
    (hequips : ∀ k password auth, m = some (.attempt k password auth) → Equipped g k password auth)
    (hunder : ∀ q, w.underway = some q → q.password? = c.password? ∧
      (∀ aim, c.aim? = some aim →
        ∃ earlier later, Since (g ++ m.toList) earlier later aim ∧ .reached s aim ∈ later) ∧
      ∀ auth, c.presents? = some auth → w.auth? s = auth) :
    Credited { l with world := w } (g ++ m.toList) := by
  have hcalled : ∀ s' c' q, l.activity.asked? = some (.call s' c') → w.underway = some q →
      q.password? = c'.password? ∧
        (∀ aim, c'.aim? = some aim →
          ∃ earlier later, Since (g ++ m.toList) earlier later aim ∧ .reached s' aim ∈ later) ∧
        ∀ auth, c'.presents? = some auth → w.auth? s' = auth := by
    intro s' c' q hask hq
    cases (Activity.asked?_of_levels hlevels).symm.trans hask
    exact hunder q hq
  cases m with
  | none =>
      rw [Option.toList_none, List.append_nil] at hpresents hcalled ⊢
      exact ⟨h.latch, hpresents, h.wanted, h.calls, hcalled, h.equipped⟩
  | some m =>
      have hunhandled : ∀ id request, m ≠ .handled id request :=
        fun id request he => hm id request (congrArg some he)
      refine ⟨?_, hpresents, fun k hk aim haim => ?_, h.calls, hcalled, ?_⟩
      · have hnone : m.credential? = none := by
          cases m with
          | handled id request => exact (hunhandled id request rfl).elim
          | reached _ _ | attempt _ _ _ => rfl
        rw [Option.toList_some, latched_concat, hnone]
        exact h.latch
      · obtain ⟨earlier, later, hsince⟩ := h.wanted k hk aim haim
        exact ⟨earlier, later ++ [m], hsince.concat hunhandled⟩
      · exact h.equipped.concat fun k password auth he => hequips k password auth (congrArg some he)

/-- **The first step of a call** reaches the session. -/
lemma Credited.reaches (h : l.Credited g) {s : SessionId} {c : SessionCall} {frame : Frame κ}
    (hlevels : l.activity.levels = [(.call s c, frame)]) {t : Transport Nat}
    (hs : l.world.sessions[s]? = some t) (hunder : l.world.underway = none) {answer : Option Answer}
    {reports : List Report} {w : Transports} (hcall : l.world.step s c = (answer, reports, w)) :
    Credited { l with world := w } (g ++ (milestone? l.world s c).toList) := by
  have hm : milestone? l.world s c = c.aim?.map (.reached s) := by
    rw [milestone?, hs, Option.bind_some, hunder]
  obtain ⟨hothers, hfirst, -⟩ := Transports.auth?_step hs hcall
  obtain ⟨hown, hpassword⟩ := hfirst hunder
  rw [hm]
  refine h.next hlevels ?_ ?_ ?_ fun q hq => ⟨hpassword q hq, fun aim haim => ?_, fun auth hp => ?_⟩
  · intro id request he
    obtain ⟨aim, -, he⟩ := Option.map_eq_some_iff.mp he
    cases he
  · by_cases hconnect : c.aim? = some .connect
    · -- the connect has its session present what is latched
      obtain rfl := h.call_eq hlevels hconnect
      intro k
      by_cases hk : k = s
      · subst hk
        rw [hown, Stage.callFor, SessionCall.presents?, Option.getD_some, Stage.certificate?,
          h.latch]
        exact .last rfl List.not_mem_nil
      · rw [hothers k hk]
        refine (h.presents k).concat ?_
        rintro ⟨⟩
        exact hk rfl
    · have hkept : c.presents? = none := by
        cases c <;> first | rfl | exact (hconnect rfl).elim
      rw [hkept, Option.getD_none, ← Transports.auth?_of_some hs] at hown
      refine h.presents_of_same (fun k he => ?_) fun k => ?_
      · obtain ⟨aim, haim, he⟩ := Option.map_eq_some_iff.mp he
        cases he
        exact hconnect haim
      · by_cases hk : k = s
        · rw [hk, hown]
        · exact hothers k hk
  · intro k password auth he
    obtain ⟨aim, -, he⟩ := Option.map_eq_some_iff.mp he
    cases he
  · obtain ⟨earlier, later, hsince⟩ := h.wanted _ (Activity.mem_of_levels hlevels) aim haim
    rw [haim, Option.map_some, Option.toList_some]
    exact ⟨earlier, later ++ [.reached s aim], hsince.concat (by rintro id request ⟨⟩),
      List.mem_append_right _ List.mem_cons_self⟩
  · rw [hp, Option.getD_some] at hown
    exact hown

/-- **A later step of a call** writes nothing down, unless it is an attempt. -/
lemma Credited.goesOn (h : l.Credited g) {s : SessionId} {c : SessionCall} {frame : Frame κ}
    (hlevels : l.activity.levels = [(.call s c, frame)]) {t : Transport Nat}
    (hs : l.world.sessions[s]? = some t) {p : Phase Nat} (hunder : l.world.underway = some p)
    {answer : Option Answer} {reports : List Report} {w : Transports}
    (hcall : l.world.step s c = (answer, reports, w)) :
    Credited { l with world := w } (g ++ (milestone? l.world s c).toList) := by
  obtain ⟨hothers, -, hlater⟩ := Transports.auth?_step hs hcall
  obtain ⟨hown, hnext⟩ := hlater p hunder
  obtain ⟨hpassword, hreached, hkept⟩ :=
    h.underway s c p (Activity.asked?_of_levels hlevels) hunder
  have hauth := Transports.auth?_of_some hs
  have hsame : ∀ k, w.auth? k = l.world.auth? k := by
    intro k
    by_cases hk : k = s
    · rw [hk, hown, hauth]
    · exact hothers k hk
  have hattempt : ∀ m, milestone? l.world s c = some m →
      ∃ password, p = .start password ∧ m = .attempt s password t.auth := by
    intro m hm
    rw [milestone?, hs, Option.bind_some, hunder] at hm
    cases p with
    | start password =>
        refine ⟨password, rfl, ?_⟩
        simp only at hm
        split at hm <;> cases hm
        rfl
    | replace _ | silence _ _ | cancel _ _ | drain _ _ | beforeDisconnect | want _ | wanted _
    | giveUp _ | disconnect _ | unwant _ | beforeRequest _ | accepted _ _ | request _ _ => cases hm
  have hunhandled : ∀ m, milestone? l.world s c = some m →
      ∀ id request, m ≠ .handled id request := by
    rintro m hm id request rfl
    obtain ⟨password, -, he⟩ := hattempt _ hm
    cases he
  refine h.next hlevels (fun id request hm => hunhandled _ hm id request rfl)
    (h.presents_of_same (fun k hm => ?_) hsame) ?_ fun q hq => ⟨(hnext q hq).trans hpassword,
      fun aim haim => ?_, fun auth hp => (hsame s).trans (hkept auth hp)⟩
  · obtain ⟨password, -, he⟩ := hattempt _ hm
    cases he
  · intro k password auth hm
    obtain ⟨other, rfl, he⟩ := hattempt _ hm
    cases he
    rw [← hauth]
    exact h.equips hlevels hunder
  · obtain ⟨earlier, later, hsince, hmem⟩ := hreached aim haim
    cases hm : milestone? l.world s c with
    | none =>
        rw [Option.toList_none, List.append_nil]
        exact ⟨earlier, later, hsince, hmem⟩
    | some m =>
        exact ⟨earlier, later ++ [m], hsince.concat (hunhandled m hm), List.mem_append_left _ hmem⟩

/-- **A step of a call** keeps the latches what the record says. -/
theorem Credited.call (h : l.Credited g) {s : SessionId} {c : SessionCall} {frame : Frame κ}
    (hlevels : l.activity.levels = [(.call s c, frame)]) {answer : Option Answer}
    {reports : List Report} {w : Transports} (hcall : l.world.step s c = (answer, reports, w)) :
    Credited { l with world := w } (g ++ (milestone? l.world s c).toList) := by
  cases hs : l.world.sessions[s]? with
  | none =>
      -- a session that is not there is not reached
      have hsame : w = l.world := by
        simp only [Transports.step, hs] at hcall
        cases hcall
        rfl
      have hnone : milestone? l.world s c = none := by
        rw [milestone?, hs]
        rfl
      rw [hnone, Option.toList_none, List.append_nil, hsame]
      exact h
  | some t =>
      cases hunder : l.world.underway with
      | none => exact h.reaches hlevels hs hunder hcall
      | some p => exact h.goesOn hlevels hs hunder hcall

lemma milestones_of_job (hlevels : l.activity.levels = []) (hphase : l.inbox.phase = .running)
    {job : Job κ} {rest : List (Command (Job κ))} (hqueue : l.inbox.queue = .run job :: rest) :
    l.milestones = handling (start job) := by
  have hturn : l.inbox.turn = .job job { l.inbox with queue := rest } := by
    simp only [Mailbox.turn, hphase, hqueue]
  rw [milestones, Activity.asked?_of_nil hlevels, hturn]
  cases job <;> rfl

lemma milestones_of_leaves (hlevels : l.activity.levels = []) {inbox : Mailbox (Job κ)}
    (hleaves : l.inbox.Leaves inbox) : l.milestones = [] := by
  rw [milestones, Activity.asked?_of_nil hlevels]
  rcases hleaves with hturn | ⟨dropped, hturn⟩ <;> rw [hturn]

/-- **What the pipeline's worker does** keeps the latches what the record says. -/
theorem Credited.tasks (h : l.Credited g) (hsound : l.Sound) (hwired : l.Wired)
    (ht : Tasks Transports.model l l') : l'.Credited (g ++ l.milestones) := by
  cases ht with
  | chain hlevels hstep log sink =>
      rw [milestones, Activity.asked?_of_levels hlevels]
      exact h.move hsound (m := .proceed) (.inl trivial) hstep rfl (fun _ => rfl)
        (hwired.idle hlevels (by rintro s c ⟨⟩))
  | @create args frame a traces hlevels hstep log sink =>
      rw [milestones, Activity.asked?_of_levels hlevels]
      exact h.move hsound (m := .created _) (.inl trivial) hstep rfl
        (Transports.auth?_create l.world args) (hwired.idle hlevels (by rintro s c ⟨⟩))
  | call hlevels hcall =>
      rw [milestones, Activity.asked?_of_levels hlevels]
      exact (h.call hlevels hcall).of_eq rfl (fun _ => rfl) rfl
  | @answer session c frame answer reports world a traces hlevels hcall hstep log sink =>
      rw [milestones, Activity.asked?_of_levels hlevels]
      have hnothing : handling (ended answer : Move κ) = [] := by cases answer <;> rfl
      have hnone : world.underway = none := by
        obtain ⟨-, hstepped⟩ := Transports.stepped (hwired.due hlevels) hcall
        cases hstepped with
        | finished hfaces hnone => exact hnone
        | started hstarts hstart hnone => exact hnone
      -- the call makes its last step, and then the stage goes on
      rw [← List.append_nil (g ++ _), ← hnothing]
      exact (h.call hlevels hcall).move (hsound.of_eq rfl rfl rfl)
        (byWorker_ended answer hlevels).driven hstep rfl (fun _ => rfl) hnone
  | @release session frame a traces hlevels hstep log sink =>
      rw [milestones, Activity.asked?_of_levels hlevels]
      exact h.move hsound (m := .proceed) (.inl trivial) hstep rfl
        (Transports.auth?_release l.world session)
        ((l.world.underway_release session).trans (hwired.idle hlevels (by rintro s c ⟨⟩)))
  | @job job rest a traces hlevels hphase hqueue hstep log sink =>
      rw [milestones_of_job hlevels hphase hqueue]
      exact h.move hsound (driven_start hlevels job) hstep rfl (fun _ => rfl)
        (hwired.idle_of_nil hlevels)
  | leave hlevels hleaves log =>
      rw [milestones_of_leaves hlevels hleaves, List.append_nil]
      exact h.of_eq rfl (fun _ => rfl) rfl

/-- **Everything that happens** keeps the latches what the record says. -/
theorem Credited.undergoes (h : l.Credited g) (hsound : l.Sound) (hwired : l.Wired)
    {e : Episode κ Stirring} (hs : l.undergoes Transports.world e = some l') :
    l'.Credited (mark e l l' g) := by
  cases e with
  | bring request callback =>
      cases hs
      rw [bring, send_eq_offer]
      exact h.of_eq rfl (fun _ => rfl) rfl
  | incident i =>
      cases i with
      | happening happening =>
          cases happening with
          | submit caller request callback =>
              cases hs
              obtain ⟨log, heq⟩ := l.exists_submit_eq_offer caller request callback
              rw [heq]
              exact h.of_eq rfl (fun _ => rfl) rfl
          | stir e =>
              obtain ⟨⟨reports, w⟩, hw, rfl⟩ := Option.map_eq_some_iff.mp hs
              rw [happen_eq_offer]
              exact h.of_eq rfl (Transports.auth?_stir hw) (Transports.underway_stir hw)
          | work => exact h.tasks hsound hwired (hsound.tasks hs)
          | beginUser =>
              obtain ⟨ha, -, hw, -⟩ := beginUser_core hs
              exact h.of_eq ha (fun s => by rw [hw]) (by rw [hw])
          | endUser panic =>
              obtain ⟨log, sink, rfl⟩ := exists_eq_of_endUser hs
              exact h.of_eq rfl (fun _ => rfl) rfl
          | handle kept =>
              cases hs
              exact h.of_eq rfl (fun _ => rfl) rfl
      | shutdown worker s =>
          obtain ⟨⟨next, s'⟩, hstep, rfl⟩ := Option.map_eq_some_iff.mp hs
          obtain ⟨inbox, outbox, log, rfl, -⟩ := exists_shutdownStep_eq hstep
          exact h.of_eq rfl (fun _ => rfl) rfl

/-! ## The law -/

/-- **What connection attempts are made with.**  In every run, whatever is submitted and reported,
and also if the link is shut down: each attempt has the password and presents what it has to; and at
any time the stage keeps the credential that was set last, and each session presents the certificate
that was latched when the last connect reached it. -/
theorem attempts_in_order {c : PipelineConfig} {listens : Bool} {config : TransportConfig}
    {files : Config.Files} (hbuild : Link.build c listens (some { config, files }) = .ok l)
    (episodes : List (Episode κ Stirring))
    (hrun : undergo Transports.world mark (l, []) episodes = (l', g)) :
    (∀ before s password auth after, g = before ++ .attempt s password auth :: after →
        Equipped before s password auth) ∧
      l'.activity.stage.credential = latched g ∧
      ∀ s t, l'.world.sessions[s]? = some t → Presents s g t.auth := by
  have hstart : l.Credited [] := by
    cases hbuild
    refine ⟨rfl, fun s => .never List.not_mem_nil, List.forall_mem_nil _, List.forall_mem_nil _, ?_,
      allEquipped_nil⟩
    rintro s c p ⟨⟩
  have h := wired_undergo_induction Credited
    (fun _ _ _ _ hsound hwired hl hn => hl.undergoes hsound hwired hn) hbuild hstart episodes
  rw [hrun] at h
  refine ⟨h.equipped, h.latch, fun s t hs => ?_⟩
  rw [← Transports.auth?_of_some hs]
  exact h.presents s

/-- A session connects with a token; then with a certificate, which fails to start because nothing
is secured; then it reconnects with another token. -/
def tokenAfterCertificate : List (Episode Nat Stirring) :=
  [.bring (.setConnectionArgs ⟨"hub", "device", "id", none⟩) none,
      .bring (.setCredential (.sasToken "first")) none, .bring .connect none,
      .bring (.setCredential (.certificate ⟨"cert", "key"⟩)) none, .bring .connect none,
      .bring (.setCredential (.sasToken "second")) none, .bring .reconnect none]
    ++ List.replicate 24 (.incident (.happening .work))

/-- The reconnect is made with the new token, and presents the certificate of the connect that
failed. -/
theorem attempt_of_tokenAfterCertificate :
    ∃ l : Link Nat Transports, Link.build {} false (some .unsecured) = .ok l ∧
      ∃ before, (undergo Transports.world mark (l, []) tokenAfterCertificate).2
          = before ++ [.attempt 0 (some "second") (some (.ofCertificate ⟨"cert", "key"⟩))] ∧
        Equipped before 0 (some "second") (some (.ofCertificate ⟨"cert", "key"⟩)) := by
  obtain ⟨l, hl⟩ : ∃ l : Link Nat Transports, Link.build {} false (some .unsecured) = .ok l :=
    ⟨_, rfl⟩
  have hmarks : (undergo Transports.world mark (l, []) tokenAfterCertificate).2
      = [.handled 1 (.setConnectionArgs ⟨"hub", "device", "id", none⟩),
          .handled 2 (.setCredential (.sasToken "first")), .handled 3 .connect,
          .reached 0 .connect, .attempt 0 (some "first") none,
          .handled 4 (.setCredential (.certificate ⟨"cert", "key"⟩)), .handled 5 .connect,
          .reached 0 .connect, .attempt 0 none (some (.ofCertificate ⟨"cert", "key"⟩)),
          .handled 6 (.setCredential (.sasToken "second")), .handled 7 .reconnect,
          .reached 0 .reconnect]
        ++ [.attempt 0 (some "second") (some (.ofCertificate ⟨"cert", "key"⟩))] := by
    cases hl
    decide +kernel
  exact ⟨l, hl, _, hmarks,
    (attempts_in_order hl tokenAfterCertificate (Prod.eta _).symm).1 _ _ _ _ [] hmarks⟩

end Link

end DeviceLink
