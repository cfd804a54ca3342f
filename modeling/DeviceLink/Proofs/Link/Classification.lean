import DeviceLink.Proofs.Link.Secrets
import DeviceLink.Proofs.Stage.Failures
import DeviceLink.Proofs.Transport.Accounts

/-!
# What becomes of the faults of the transport

Retry policy looks at the kind of a failure, and whoever reads a log at its message and its cause.
So a failure that stands for a fault of the transport has to agree with it in all three, whatever
the fault, and whichever way the failure takes.

* `Transport.Fault.Severs` — the faults after which there is no connection.
* `Failure.Describes` — what a failure says of the fault that it stands for.
* **`describes_ofTransport`** — the failure that is reported for a fault describes it.
* `Reply.conveyed`, `Transports.meets` — the failures that sessions say, and the faults that their
  transports meet.
* **`conveyed_reply`** — in each step sessions say these, one for each of those, and no others.
* **`conveyed_heard`** — and so they do in every run of a link.
-/

namespace DeviceLink

open Transport

/-! ## Faults and failures -/

/-- **There is no connection**, or not any more: nothing else is wrong. -/
inductive Transport.Fault.Severs : Fault → Prop where
  | notConnected : Severs .notConnected
  | connectionClosed : Severs .connectionClosed
  /-- The client is gone; a full queue is something else. -/
  | request {fault : RequestFault} (h : fault ≠ .full) : Severs (.request fault)
  | requestsDone : Severs (.connection .requestsDone)
  | networkTimeout : Severs (.connection .networkTimeout)
  | flushTimeout : Severs (.connection .flushTimeout)
  | io {error : IoError}
      (h : error.kind ∈ [IoKind.connectionReset, .connectionAborted, .brokenPipe, .unexpectedEof]) :
      Severs (.connection (.io error))

/-- **What a failure says of a fault:** its text, the client's fault as the direct cause, and of
what kind that is. -/
structure Failure.Describes (f : Failure) (fault : Fault) : Prop where
  message : f.message = fault.message
  cause : ∃ client, f.cause = some (.client client) ∧ f.kind = client.kind
  dropped : f.kind = .connectionDropped ↔ fault.Severs

lemma Transport.IoKind.isLoss_iff (kind : IoKind) :
    kind.isLoss = true ↔
      kind ∈ [IoKind.connectionReset, .connectionAborted, .brokenPipe, .unexpectedEof] := by
  cases kind <;> simp [isLoss]

/-- A broker that refuses a connection has not dropped it. -/
lemma ClientFault.kind_ofConnectCode (code : Nat) :
    (ofConnectCode code).kind ≠ .connectionDropped := by
  unfold ofConnectCode
  split <;> simp [kind]

/-- The connection is dropped just if a fault of the connection says so. -/
lemma Transport.ConnectionFault.dropped_iff (fault : ConnectionFault) :
    fault.clientFault.kind = .connectionDropped ↔ (Fault.connection fault).Severs := by
  cases fault with
  | refused code =>
      exact ⟨fun h => (ClientFault.kind_ofConnectCode _ h).elim, by rintro ⟨⟩⟩
  | tls _ | state _ | notConnAck _ => exact ⟨by rintro ⟨⟩, by rintro ⟨⟩⟩
  | requestsDone => exact ⟨fun _ => .requestsDone, fun _ => rfl⟩
  | networkTimeout => exact ⟨fun _ => .networkTimeout, fun _ => rfl⟩
  | flushTimeout => exact ⟨fun _ => .flushTimeout, fun _ => rfl⟩
  | io error =>
      have hsevers : (Fault.connection (.io error)).Severs ↔ error.kind.isLoss = true := by
        rw [error.kind.isLoss_iff]
        exact ⟨by rintro ⟨⟩; assumption, .io⟩
      rw [hsevers, clientFault]
      cases error.kind.isLoss with
      | true => exact ⟨fun _ => rfl, fun _ => rfl⟩
      | false => exact ⟨by rintro ⟨⟩, by rintro ⟨⟩⟩

/-- The connection is dropped just if the fault says so. -/
lemma Transport.Fault.dropped_iff (fault : Fault) :
    fault.clientFault.kind = .connectionDropped ↔ fault.Severs := by
  cases fault with
  | setup _ | config _ | io _ | subscriptionRejected _ => exact ⟨by rintro ⟨⟩, by rintro ⟨⟩⟩
  | connection fault => exact fault.dropped_iff
  | notConnected => exact ⟨fun _ => .notConnected, fun _ => rfl⟩
  | connectionClosed => exact ⟨fun _ => .connectionClosed, fun _ => rfl⟩
  | request fault =>
      cases fault with
      | gone => exact ⟨fun _ => .request (by rintro ⟨⟩), fun _ => rfl⟩
      | full => exact ⟨by rintro ⟨⟩, by rintro (_ | _ | h); exact (h rfl).elim⟩

/-- **The failure that is reported for a fault describes it.** -/
theorem describes_ofTransport (fault : Fault) : (Failure.ofTransport fault).Describes fault where
  message := rfl
  cause := ⟨fault.clientFault, rfl, rfl⟩
  dropped := fault.dropped_iff

/-- A connection that is refused under the code for success is still a refusal, of no known
reason. -/
example : Failure.ofTransport (.connection (.refused .success)) =
    ⟨.transport, "Client connection error: Connection refused, return code: `Success`",
      some (.client (.refusedUnknown 0))⟩ := by
  decide

/-! ## What sessions say -/

/-- The failure with which a call of a session returns. -/
def Answer.failure? : Answer → Option Failure
  | returned (.error f) => some f
  | returned (.ok ()) | panicked _ => none

/-- The failures that sessions say in one step: in their reports, and in the answer to a call. -/
def Reply.conveyed : Reply → List Failure
  | silence => []
  | made (.error f) => [f]
  | made (.ok _) => []
  | said answer reports =>
    reports.filterMap Report.failure? ++ (answer.bind Answer.failure?).toList

/-! ## What transports meet -/

namespace Transport

/-- The fault that an acknowledgement handler is told of. -/
def faultTold? (t : Told Nat) : Option Fault :=
  match t.2 with
  | .error fault => some fault
  | .ok () => none

def Notice.fault? : Notice → Option Fault
  | connectionFailed fault => some fault
  | disconnected cause => cause
  | connected | message _ _ => none

def Effect.fault? : Effect Nat → Option Fault
  | notice n => n.fault?
  | told t => faultTold? t

/-- The fault with which a call ends. -/
def Progress.fault? : Progress Nat → Option Fault
  | done (.error (.fault fault)) => some fault
  | done (.error (.panic _)) | done (.ok ()) | more _ => none

end Transport

namespace Transports

/-- The faults that the transports meet when something is brought to the sessions. -/
def meets {κ : Type} (w : Transports) : Ask κ → List Fault
  | .chain _ | .create _ => []
  | .call session c =>
    match w.sessions[session]? with
    -- whoever is not there is not connected
    | none => [.notConnected]
    | some t =>
      let begun := match w.underway with
        | some phase => (t, phase)
        | none => t.begin (callOf c)
      let stepped := begun.1.step w.files begun.2
      stepped.2.1.filterMap faultTold? ++ stepped.2.2.fault?.toList
  | .release session =>
    match w.sessions[session]? with
    | none => []
    | some t => (t.finish w.files .quit).2.1.filterMap faultTold?

/-- The faults that the transports meet when something happens among them. -/
def encounters (w : Transports) : Stirring → List Fault
  | .drive maker turn =>
    match (w.sessions[maker.session]?).bind fun t => t.drive maker.number turn with
    | none => []
    | some (_, effects) => effects.filterMap Effect.fault?
  | .room _ _ => []

end Transports

namespace Link

variable {κ : Type}

/-- **The faults that the transports meet** while one thing happens. -/
def meets (l : Link κ Transports) : Episode κ Stirring → List Fault
  | .incident (.happening (.stir e)) => l.world.encounters e
  | .incident (.happening .work) => (l.activity.asked?.map l.world.meets).getD []
  | .bring _ _ | .incident (.happening (.submit _ _ _)) | .incident (.happening .beginUser)
  | .incident (.happening (.endUser _)) | .incident (.happening (.handle _))
  | .incident (.shutdown _ _) => []

/-- What they meet in a run. -/
def met : Link κ Transports → List (Episode κ Stirring) → List (List Fault)
  | _, [] => []
  | l, e :: rest => l.meets e :: met ((l.undergoes Transports.world e).getD l) rest

end Link

/-! ## Nothing is lost and nothing is made up -/

section Translation

variable {κ : Type}

lemma failure?_acknowledgement (t : Told Nat) :
    (acknowledgement t).failure? = (faultTold? t).map Failure.ofTransport := by
  obtain ⟨handler, ⟨⟩ | ⟨⟩⟩ := t <;> rfl

lemma failure?_report (e : Effect Nat) :
    e.report.failure? = e.fault?.map Failure.ofTransport := by
  rcases e with n | t
  · cases n <;> rfl
  · exact failure?_acknowledgement t

lemma filterMap_failure?_acknowledgement (told : List (Told Nat)) :
    (told.map acknowledgement).filterMap Report.failure? =
      (told.filterMap faultTold?).map Failure.ofTransport := by
  rw [List.filterMap_map, List.map_filterMap]
  exact congrArg (fun g => told.filterMap g) (funext failure?_acknowledgement)

lemma filterMap_failure?_report (effects : List (Effect Nat)) :
    (effects.map Effect.report).filterMap Report.failure? =
      (effects.filterMap Effect.fault?).map Failure.ofTransport := by
  rw [List.filterMap_map, List.map_filterMap]
  exact congrArg (fun g => effects.filterMap g) (funext failure?_report)

/-- The answer to a call and the reports made in it, for the fault with which it ends and those
that handlers are told of. -/
lemma conveyed_said (progress : Progress Nat) (told : List (Told Nat)) :
    (Reply.said (Transports.answerTo progress) (told.map acknowledgement)).conveyed =
      (told.filterMap faultTold? ++ progress.fault?.toList).map Failure.ofTransport := by
  have hanswer : (Transports.answerTo progress).bind Answer.failure? =
      progress.fault?.map Failure.ofTransport := by
    rcases progress with p | ((fault | message) | _) <;> rfl
  rw [Reply.conveyed, filterMap_failure?_acknowledgement, hanswer, List.map_append,
    Option.toList_map]

/-- **What sessions say to whoever asks.** -/
lemma conveyed_ask (w : Transports) (ask : Ask κ) :
    (Transports.model.reply w ask).conveyed = (w.meets ask).map Failure.ofTransport := by
  cases ask with
  | chain c => rfl
  | create args => rfl
  | call session c =>
      rcases hstep : w.step session c with ⟨answer, reports, next⟩
      have hsteps := Transports.steps_of_step hstep
      have hreply : Transports.model.reply w (.call session c : Ask κ) = .said answer reports := by
        rw [SessionModel.reply]
        exact congrArg₂ Reply.said (congrArg Prod.fst hstep)
          (congrArg (fun r => r.2.1) hstep)
      rw [hreply]
      cases hsteps with
      | missing hnone =>
          rw [Transports.meets, hnone]
          rfl
      | @phase t t₀ t' p told progress hthere hbegun hphase =>
          rw [conveyed_said, Transports.meets, hthere]
          rcases hbegun with ⟨hu, rfl⟩ | ⟨hu, hbegin⟩
          · simp only [hu, hphase]
          · simp only [hu, hbegin, hphase]
  | release session =>
      rw [Transports.meets, SessionModel.reply]
      cases hs : w.sessions[session]? with
      | none => simp [Transports.model, Transports.release, hs, Reply.conveyed]
      | some t =>
          simp only [Transports.model, Transports.release, hs, Reply.conveyed, Option.bind_none,
            Option.toList_none, List.append_nil]
          exact filterMap_failure?_acknowledgement _

/-- What they say when something happens among the transports. -/
lemma conveyed_stir (w : Transports) (e : Stirring) :
    ((w.stir e).elim Reply.silence fun r => .said none r.1).conveyed =
      (w.encounters e).map Failure.ofTransport := by
  cases e with
  | room maker room =>
      rw [Transports.stir, Transports.encounters]
      cases w.sessions[maker.session]? <;> rfl
  | drive maker turn =>
      rw [Transports.stir, Transports.drive, Transports.encounters]
      cases w.sessions[maker.session]? with
      | none => rfl
      | some t =>
          rw [Option.bind_some]
          cases hdrive : t.drive maker.number turn with
          | none => simp [hdrive, Reply.conveyed]
          | some r =>
              simp only [hdrive, Option.map_some, Option.elim_some, Reply.conveyed,
                Option.bind_none, Option.toList_none, List.append_nil]
              exact filterMap_failure?_report _

/-- **In each step** sessions say a failure for each fault that a transport meets, and no others. -/
theorem conveyed_reply (l : Link κ Transports) (e : Episode κ Stirring) :
    (l.reply Transports.world e).conveyed = (l.meets e).map Failure.ofTransport := by
  rcases e with ⟨request, callback⟩ | ⟨h | ⟨worker, s⟩⟩
  · rfl
  · cases h with
    | submit _ _ _ | beginUser | endUser _ | handle _ => rfl
    | stir e => exact conveyed_stir l.world e
    | work =>
        rw [Link.reply, Link.meets]
        cases l.activity.asked? with
        | none => rfl
        | some ask => exact conveyed_ask l.world ask
  · rfl

/-- What is made of faults describes them, one by one. -/
lemma forall₂_describes (faults : List Fault) :
    List.Forall₂ Failure.Describes (faults.map Failure.ofTransport) faults := by
  rw [List.forall₂_map_left_iff]
  exact List.forall₂_same.mpr fun fault _ => describes_ofTransport fault

/-- **Every failure that sessions say in a run describes a fault that a transport met then,** and
every fault that a transport meets is told of. -/
theorem conveyed_heard (l : Link κ Transports) (episodes : List (Episode κ Stirring)) :
    (∀ fault, (Failure.ofTransport fault).Describes fault) ∧
      List.Forall₂ (fun reply faults => List.Forall₂ Failure.Describes reply.conveyed faults)
        (l.heard Transports.world episodes) (l.met episodes) := by
  refine ⟨describes_ofTransport, ?_⟩
  induction episodes generalizing l with
  | nil => exact .nil
  | cons e rest ih =>
      refine .cons ?_ (ih _)
      rw [conveyed_reply]
      exact forall₂_describes _

end Translation

end DeviceLink
