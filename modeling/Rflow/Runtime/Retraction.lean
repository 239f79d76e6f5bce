import Rflow.Runtime.Projection

/-!
# Retracting pairing requests

A pairing request that is shown to the user is retracted before the host's authorization returns.
The client's authorization retracts what it has shown only when it reads a decision of the server.
-/

namespace Rflow

open Foundation

/-- The request that a notification shows to the user. -/
def AppEvent.asks : AppEvent → Option PairingRequestId
  | .pairingRequested request | .pairingCodeReady request => some request.requestId
  | _ => none

/-- The request that a notification takes back. -/
def AppEvent.retracts : AppEvent → Option PairingRequestId
  | .pairingCleared requestId | .pairingExpired requestId => some requestId
  | _ => none

/-- Every request that is shown is taken back by a later notification. -/
def Retracted : List AppEvent → Prop
  | [] => True
  | event :: rest =>
      (∀ requestId, event.asks = some requestId →
        ∃ later ∈ rest, later.retracts = some requestId) ∧ Retracted rest

/-- Every request is taken back, and none is left in the snapshot. -/
structure Settled (events : List AppEvent) : Prop where
  retracted : Retracted events
  cleared : ∀ snapshot : RuntimeSnapshot, snapshot.pairing = none →
    (snapshot.observe events).pairing = none

variable {first second events : List AppEvent}

theorem Retracted.append (one : Retracted first) (other : Retracted second) :
    Retracted (first ++ second) := by
  induction first with
  | nil => exact other
  | cons event first induction =>
      obtain ⟨taken, rest⟩ := one
      refine ⟨fun requestId asks => ?_, induction rest⟩
      obtain ⟨later, member, retracts⟩ := taken requestId asks
      exact ⟨later, List.mem_append_left _ member, retracts⟩

theorem Settled.append (one : Settled first) (other : Settled second) :
    Settled (first ++ second) where
  retracted := one.retracted.append other.retracted
  cleared snapshot idle := by
    rw [RuntimeSnapshot.observe_append]
    exact other.cleared _ (one.cleared snapshot idle)

/-- A notification that shows no request leaves an idle snapshot idle. -/
theorem RuntimeSnapshot.apply_pairing {snapshot : RuntimeSnapshot} {event : AppEvent}
    (quiet : event.asks = none) (idle : snapshot.pairing = none) :
    (snapshot.apply event).pairing = none := by
  cases event with
  | pairingRequested request => cases quiet
  | pairingCodeReady request => cases quiet
  | statusChanged status =>
      simp only [RuntimeSnapshot.apply]
      split_ifs <;> exact idle
  | pairingCleared requestId =>
      simp only [RuntimeSnapshot.apply]
      split_ifs
      · rfl
      · exact idle
  | pairingExpired requestId =>
      simp only [RuntimeSnapshot.apply]
      split_ifs
      · rfl
      · exact idle
  | _ => exact idle

theorem settled_of_quiet (quiet : ∀ event ∈ events, event.asks = none) : Settled events := by
  induction events with
  | nil => exact ⟨trivial, fun _ idle => idle⟩
  | cons event events induction =>
      have own := quiet event List.mem_cons_self
      obtain ⟨retracted, cleared⟩ := induction fun other member =>
        quiet other (List.mem_cons_of_mem _ member)
      refine ⟨⟨fun requestId asks => ?_, retracted⟩, fun snapshot idle => ?_⟩
      · cases own.symm.trans asks
      · exact cleared _ (RuntimeSnapshot.apply_pairing own idle)

/-- A request followed by its retraction is settled. -/
theorem settled_pair {ask retraction : AppEvent} {requestId : PairingRequestId}
    {request : PairingRequestSummary} (same : request.requestId = requestId)
    (asked : ask = .pairingRequested request ∨ ask = .pairingCodeReady request)
    (taken : retraction = .pairingCleared requestId ∨ retraction = .pairingExpired requestId) :
    Settled [ask, retraction] := by
  subst same
  constructor
  · have asks : ask.asks = some request.requestId := by rcases asked with rfl | rfl <;> rfl
    have retracts : retraction.retracts = some request.requestId := by
      rcases taken with rfl | rfl <;> rfl
    refine ⟨fun requestId other => ⟨retraction, List.mem_singleton_self _, ?_⟩,
      fun _ none => ?_, trivial⟩
    · rw [retracts, ← asks, other]
    · rcases taken with rfl | rfl <;> cases none
  · intro snapshot _
    rcases asked with rfl | rfl <;> rcases taken with rfl | rfl <;>
      simp [RuntimeSnapshot.apply]

/-- What a call has published is settled. -/
def SettledBy {ω : Type} (event : ω → Option AppEvent) (outputs : List ω) : Prop :=
  Settled (outputs.filterMap event)

theorem joins_settledBy {ω : Type} (event : ω → Option AppEvent) :
    Traced.Joins (SettledBy event) where
  nil := settled_of_quiet (by simp)
  append one other := by
    unfold SettledBy
    rw [List.filterMap_append]
    exact one.append other

/-- A call that shows nothing leaves nothing to retract. -/
theorem settledBy_of_emits {ω ε α : Type} {event : ω → Option AppEvent} {call : Traced ω ε α}
    (quiet : call.Emits fun output => ∀ shown, event output = some shown → shown.asks = none) :
    call.Leaves (SettledBy event) := by
  refine settled_of_quiet fun shown member => ?_
  obtain ⟨output, emitted, same⟩ := List.mem_filterMap.mp member
  exact quiet output emitted shown same

/-! ## The host -/

section Host

variable {primitives : Primitives} {config : HostConfig} {attempt : Attempt} {trust : TrustStore}
  {limiter : PairingRateLimiter} {introduction : Introduction}

/-- An output that shows the user no pairing request. -/
def HostOutput.Quiet (output : HostOutput) : Prop :=
  ∀ shown, output.event = some shown → shown.asks = none

theorem HostOutput.OfExchange.quiet (output : HostOutput) (exchange : output.OfExchange) :
    output.Quiet := by
  cases output with
  | notify event =>
      intro shown same
      obtain rfl := Option.some.inj same
      cases event <;> trivial
  | _ => simp [HostOutput.Quiet, HostOutput.event]

theorem rememberAccepted_quiet :
    (rememberAccepted primitives attempt trust introduction).Emits HostOutput.Quiet :=
  rememberAccepted_emits HostOutput.OfExchange.quiet fun _ _ _ _ => by
    simp [HostOutput.Quiet, HostOutput.event]

theorem requestDecision_settled :
    (requestDecision primitives attempt trust limiter introduction).Leaves
      (SettledBy HostOutput.event) := by
  unfold requestDecision
  rcases limiter.allow attempt.connection.remoteAddress.ip attempt.now with ⟨allowed, later⟩
  cases allowed with
  | false => exact settledBy_of_emits (.bind (reject_exchange.mono HostOutput.OfExchange.quiet)
      fun _ => by simp)
  | true =>
      simp only [Bool.true_eq_false, if_false]
      have joins := joins_settledBy HostOutput.event
      unfold Traced.Leaves
      rw [Traced.tell_bind_outputs, Traced.tell_bind_outputs, ← List.append_assoc]
      refine joins.append ?_ ?_
      · have status : Settled [AppEvent.statusChanged .pairingPending] :=
          settled_of_quiet (by simp [AppEvent.asks])
        refine status.append (settled_pair (rfl : _ = introduction.proof.requestId)
          (Or.inl rfl) ?_)
        split_ifs
        · exact Or.inr rfl
        · exact Or.inl rfl
      · split_ifs
        · exact settledBy_of_emits (.bind (reject_exchange.mono HostOutput.OfExchange.quiet)
            fun _ => by simp)
        · exact settledBy_of_emits (.bind rememberAccepted_quiet fun _ => by simp)

/-- However the authorization of a peer ends, it has taken back every request that it has shown. -/
theorem authorizeHostPeer_settled :
    (authorizeHostPeer primitives config attempt trust limiter).Leaves
      (SettledBy HostOutput.event) := by
  refine (joins_settledBy _).leaves_bind
    (settledBy_of_emits (introduce_exchange.mono HostOutput.OfExchange.quiet))
        fun introduced _ => ?_
  cases introduced with
  | none => exact settledBy_of_emits (by simp)
  | some introduction =>
      dsimp only
      split_ifs
      · exact settledBy_of_emits (.bind (confirm_exchange.mono HostOutput.OfExchange.quiet) fun _ =>
          .bind (by simp) fun _ => by simp)
      · exact requestDecision_settled

end Host

/-! ## The client -/

section Client

variable {primitives : Primitives} {config : ClientConfig} {attempt : ServerAttempt}
  {trust : TrustStore} {introduction : ServerIntroduction} {verification : VerifyPeer}

/-- An output that shows the user no pairing request. -/
def PairingOutput.Quiet (output : PairingOutput) : Prop :=
  ∀ shown, output.event = some shown → shown.asks = none

/-- A frame of the server is read before the deadline passes and before the client is stopped. -/
def DecisionRead (primitives : Primitives) (attempt : ServerAttempt) (receive : PeerStream) :
    Prop :=
  attempt.decisionWait = .read ∧ (receive.readFrame "pairing" primitives.pairing).IsOk

theorem awaitDecision_eq_some {receive : PeerStream} :
    (∃ decision, awaitDecision primitives attempt receive = .ok (some decision)) ↔
      DecisionRead primitives attempt receive := by
  unfold awaitDecision DecisionRead
  cases attempt.decisionWait with
  | read =>
      cases received : receive.readFrame "pairing" primitives.pairing with
      | ok result => simp [Outcome.IsOk]
      | err error => cases error <;> simp [Outcome.IsOk]
      | panic message => simp [Outcome.IsOk]
  | deadline => simp
  | stopped => simp

theorem introduceServer_quiet :
    (introduceServer primitives config attempt).Emits PairingOutput.Quiet := by
  refine .bind (by simp) fun certificate => .bind (by simp) fun _ => .bind (by simp) fun _ =>
    .bind (by simp [PairingOutput.Quiet, PairingOutput.event]) fun _ =>
        .bind (by simp) fun received => ?_
  cases received with
  | none => simp
  | some received =>
      exact .bind (by simp) fun _ =>
        .bind (by simp [PairingOutput.Quiet, PairingOutput.event, AppEvent.asks]) fun _ =>
        .bind (by simp) fun _ => by simp

theorem acknowledgeServer_quiet {kept : Outcome RuntimeError DeviceId} :
    (acknowledgeServer attempt introduction verification kept).Emits PairingOutput.Quiet := by
  refine .bind (by simp) fun deviceId => .bind ?_ fun _ => .bind (by simp) fun _ =>
    .bind (by simp [PairingOutput.Quiet, PairingOutput.event]) fun _ =>
        .bind (by simp) fun _ => by simp
  split_ifs <;> simp [PairingOutput.Quiet, PairingOutput.event, AppEvent.asks]

/-- A request at the end of the notifications is not taken back. -/
theorem not_retracted_of_last {ask : AppEvent} {requestId : PairingRequestId}
    (front : List AppEvent) (asks : ask.asks = some requestId) : ¬ Retracted (front ++ [ask]) := by
  induction front with
  | nil =>
      rintro ⟨taken, _⟩
      obtain ⟨_, member, _⟩ := taken requestId asks
      cases member
  | cons event front induction => exact fun retracted => induction retracted.2

theorem awaitApproval_settled
    (read : verification.isUnknown = true → DecisionRead primitives attempt introduction.receive) :
    (awaitApproval primitives attempt introduction verification).Leaves
      (SettledBy PairingOutput.event) := by
  cases unknown : verification.isUnknown with
  | false =>
      refine settledBy_of_emits (.bind (by simp [unknown]) fun _ =>
          .bind (by simp) fun decision => ?_)
      cases decision with
      | none => simp
      | some decision => exact .bind (by simp [unknown]) fun _ => .bind (by simp) fun _ => by simp
  | true =>
      obtain ⟨decision, received⟩ := awaitDecision_eq_some.mpr (read unknown)
      have pair : SettledBy PairingOutput.event
          [.notify (.pairingCodeReady (introduction.request primitives attempt)),
            .notify (.pairingCleared introduction.proof.requestId)] :=
        settled_pair rfl (Or.inr rfl) (Or.inl rfl)
      have outputs : (awaitApproval primitives attempt introduction verification).outputs =
          [.notify (.pairingCodeReady (introduction.request primitives attempt)),
            .notify (.pairingCleared introduction.proof.requestId)] := by
        simp only [awaitApproval, unknown, if_true, Traced.bind_outputs, Traced.tell_outputs,
          Traced.tell_outcome, Traced.lift_outputs, Traced.lift_outcome, received, List.nil_append,
          List.singleton_append]
        cases checkDecision decision <;> rfl
      rw [Traced.Leaves, outputs]
      exact pair

/-- A code that is shown and not answered stays, and nothing follows it. -/
theorem awaitApproval_unanswered (unknown : verification.isUnknown = true)
    (unread : ¬ DecisionRead primitives attempt introduction.receive) :
    (awaitApproval primitives attempt introduction verification).outputs =
        [.notify (.pairingCodeReady (introduction.request primitives attempt))] ∧
      ∀ value, (awaitApproval primitives attempt introduction verification).outcome ≠
        .ok (some value) := by
  have never (decision : PairingMessage) :
      awaitDecision primitives attempt introduction.receive ≠ .ok (some decision) :=
    fun received => unread (awaitDecision_eq_some.mp ⟨decision, received⟩)
  simp only [awaitApproval, unknown, if_true, Traced.bind_outputs, Traced.bind_outcome,
    Traced.tell_outputs, Traced.tell_outcome, Traced.lift_outputs, Traced.lift_outcome,
    List.nil_append, Outcome.ok_bind]
  cases received : awaitDecision primitives attempt introduction.receive with
  | ok decision =>
      cases decision with
      | none => exact ⟨rfl, by simp⟩
      | some decision => exact absurd received (never decision)
  | err error => exact ⟨rfl, by simp⟩
  | panic message => exact ⟨rfl, by simp⟩

/-- If the server introduces itself, is not known under the endpoint and has the pinned certificate,
then the client reads a decision of it. -/
def Answered (primitives : Primitives) (config : ClientConfig) (attempt : ServerAttempt)
    (database : TrustDatabase) : Prop :=
  ∀ introduction,
    (introduceServer primitives config attempt).outcome = .ok (some introduction) →
    (database.verifyEndpoint primitives.sha256 config.target.display
      introduction.server.certificate).isUnknown = true →
    checkPinned config attempt introduction.server.certificate = .ok () →
    DecisionRead primitives attempt introduction.receive

theorem approveServer_settled (answered : Answered primitives config attempt trust.database) :
    (approveServer primitives config attempt trust.database).Leaves
      (SettledBy PairingOutput.event) := by
  have joins := joins_settledBy PairingOutput.event
  refine joins.leaves_bind (settledBy_of_emits introduceServer_quiet) fun introduced
    introduces => ?_
  cases introduced with
  | none => exact joins.leaves_pure _
  | some introduction =>
      refine joins.leaves_bind (joins.leaves_lift _) fun _ _ =>
        joins.leaves_bind (joins.leaves_lift _) fun _ pinned =>
        joins.leaves_bind (awaitApproval_settled fun unknown => ?_) fun _ _ => joins.leaves_pure _
      exact answered introduction introduces unknown pinned

theorem approveServer_unanswered
    (unanswered : ¬ Answered primitives config attempt trust.database) :
    ∃ front ask requestId,
      (approveServer primitives config attempt trust.database).outputs = front ++ [.notify ask] ∧
        ask.asks = some requestId ∧
        ∀ approved, (approveServer primitives config attempt trust.database).outcome ≠
          .ok (some approved) := by
  simp only [Answered, not_forall] at unanswered
  obtain ⟨introduction, introduces, unknown, pinned, unread⟩ := unanswered
  obtain ⟨outputs, never⟩ := awaitApproval_unanswered unknown unread
  have identity : checkIdentity config.target.display
      (trust.database.verifyEndpoint primitives.sha256 config.target.display
        introduction.server.certificate) = .ok () := by
    revert unknown
    cases trust.database.verifyEndpoint primitives.sha256 config.target.display
      introduction.server.certificate <;> simp [VerifyPeer.isUnknown, checkIdentity]
  refine ⟨(introduceServer primitives config attempt).outputs,
    .pairingCodeReady (introduction.request primitives attempt),
        introduction.proof.requestId, ?_, rfl, ?_⟩
  · simp only [approveServer, Traced.bind_outputs, introduces, Traced.lift_outputs,
      Traced.lift_outcome, identity, pinned, List.nil_append, outputs]
    split <;> simp
  · intro approved done
    simp only [approveServer, Traced.bind_outcome, introduces, Traced.lift_outcome,
      identity, pinned, Outcome.ok_bind, Outcome.bind_eq_ok, Traced.pure_outcome, Outcome.ok.injEq,
      Option.map_eq_some_iff] at done
    obtain ⟨_, ended, value, rfl, _⟩ := done
    exact never value ended

/-- A client's authorization that takes back what it shows is answered. -/
theorem answered_of_retracted
    (retracted : Retracted ((authorizeServerPeer primitives config attempt
        trust).1.outputs.filterMap
      PairingOutput.event)) : Answered primitives config attempt trust.database := by
  by_contra unanswered
  obtain ⟨front, ask, requestId, outputs, asks, never⟩ := approveServer_unanswered unanswered
  have left : (authorizeServerPeer primitives config attempt trust).1.outputs =
      front ++ [.notify ask] := by
    unfold authorizeServerPeer
    dsimp only
    split
    · rename_i introduction verification approved
      exact absurd approved (never _)
    · rw [Traced.bind_outputs, outputs]
      split <;> simp
  rw [left, List.filterMap_append] at retracted
  exact not_retracted_of_last _ asks retracted

/-- A client's authorization that is answered takes back what it shows. -/
theorem authorizeServerPeer_settled (answered : Answered primitives config attempt trust.database) :
    (authorizeServerPeer primitives config attempt trust).1.Leaves
      (SettledBy PairingOutput.event) := by
  have joins := joins_settledBy PairingOutput.event
  have approved := approveServer_settled answered
  unfold authorizeServerPeer
  dsimp only
  split
  · exact joins.leaves_bind approved fun _ _ =>
      joins.leaves_bind (settledBy_of_emits acknowledgeServer_quiet) fun _ _ => joins.leaves_pure _
  · exact joins.leaves_bind approved fun _ _ => joins.leaves_pure _

end Client

/-! ## Histories of authorizations -/

/-- What happens at one application: an authorization of either side, or any notification that shows
no request. -/
inductive Episode where
  | host (config : HostConfig) (attempt : Attempt) (trust : TrustStore)
      (limiter : PairingRateLimiter)
  | client (config : ClientConfig) (attempt : ServerAttempt) (trust : TrustStore)
  | notification (event : AppEvent) (quiet : event.asks = none)

section Episodes

variable (primitives : Primitives)

/-- What an episode publishes. -/
def Episode.published : Episode → List AppEvent
  | .host config attempt trust limiter =>
      (authorizeHostPeer primitives config attempt trust limiter).outputs.filterMap HostOutput.event
  | .client config attempt trust =>
      (authorizeServerPeer primitives config attempt trust).1.outputs.filterMap PairingOutput.event
  | .notification event _ => [event]

/-- An authorization of a client is answered; nothing is asked of the others. -/
def Episode.Answered : Episode → Prop
  | .client config attempt trust => Rflow.Answered primitives config attempt trust.database
  | _ => True

variable {primitives}

theorem Episode.settled {episode : Episode} (answered : episode.Answered primitives) :
    Settled (episode.published primitives) := by
  cases episode with
  | host config attempt trust limiter => exact authorizeHostPeer_settled
  | client config attempt trust => exact authorizeServerPeer_settled answered
  | notification event quiet =>
      exact settled_of_quiet (by simpa [Episode.published] using quiet)

theorem Episode.answered_of_retracted {episode : Episode}
    (retracted : Retracted (episode.published primitives)) : episode.Answered primitives := by
  cases episode with
  | host config attempt trust limiter => trivial
  | client config attempt trust => exact Rflow.answered_of_retracted retracted
  | notification event quiet => trivial

theorem settled_flatMap {episodes : List Episode}
    (settled : ∀ episode ∈ episodes, Settled (episode.published primitives)) :
    Settled (episodes.flatMap (Episode.published primitives)) := by
  induction episodes with
  | nil => exact settled_of_quiet (by simp)
  | cons episode episodes induction =>
      rw [List.flatMap_cons]
      exact (settled episode List.mem_cons_self).append
        (induction fun other member => settled other (List.mem_cons_of_mem _ member))

/-- In every history of authorizations, each takes back what it has shown before it returns, and
whenever none is going on the snapshot shows no request, exactly when all authorizations of the
client are answered. -/
theorem pairing_retracted_iff {snapshot : RuntimeSnapshot} (idle : snapshot.pairing = none)
    (episodes : List Episode) :
    (∀ front, front <+: episodes →
        (∀ episode ∈ front, Retracted (episode.published primitives)) ∧
          (snapshot.observe (front.flatMap (Episode.published primitives))).pairing = none) ↔
      ∀ episode ∈ episodes, episode.Answered primitives := by
  constructor
  · intro throughout episode member
    obtain ⟨retracted, _⟩ := throughout episodes (List.prefix_refl _)
    exact Episode.answered_of_retracted (retracted episode member)
  · intro answered front isPrefix
    have settled : ∀ episode ∈ front, Settled (episode.published primitives) :=
      fun episode member => Episode.settled (answered episode (isPrefix.subset member))
    exact ⟨fun episode member => (settled episode member).retracted,
      (settled_flatMap settled).cleared snapshot idle⟩

end Episodes

/-- An unknown server that accepts leaves no request behind. -/
theorem pairing_retracted_accepted :
    ((default : RuntimeSnapshot).observe
      ([Episode.client sampleClientConfig (sampleServerAttempt 1)
        { database := default, file := .absent }].flatMap
          (Episode.published sampleServerPrimitives))).pairing = none := by
  have answered : ∀ episode ∈ [Episode.client sampleClientConfig (sampleServerAttempt 1)
      { database := default, file := .absent }], episode.Answered sampleServerPrimitives := by
    intro episode member
    obtain rfl := List.mem_singleton.mp member
    intro introduction introduces _ _
    obtain ⟨received, introduced, whole⟩ : ∃ received,
      (introduceServer sampleServerPrimitives sampleClientConfig
          (sampleServerAttempt 1)).outcome = .ok (some received) ∧
        (received.receive.readFrame "pairing" sampleServerPrimitives.pairing).IsOk :=
      ⟨_, rfl, ⟨_, rfl⟩⟩
    obtain rfl := Option.some.inj (Outcome.ok.inj (introduces.symm.trans introduced))
    exact ⟨rfl, whole⟩
  exact ((pairing_retracted_iff rfl _).mpr answered _ (List.prefix_refl _)).2

/-- An unknown server lets the deadline pass: its code stays in the snapshot, also when the next
session starts. -/
theorem expired_code_stays :
    ¬ Retracted ((Episode.client sampleClientConfig
        { sampleServerAttempt 1 with decisionWait := .deadline }
        { database := default, file := .absent }).published sampleServerPrimitives) ∧
      ∃ request,
        ((default : RuntimeSnapshot).observe
          ([Episode.client sampleClientConfig
              { sampleServerAttempt 1 with decisionWait := .deadline }
              { database := default, file := .absent },
            .notification (.statusChanged .starting) rfl].flatMap
              (Episode.published sampleServerPrimitives))).pairing = some request := by
  constructor
  · intro retracted
    obtain ⟨_, introduced, unknown⟩ : ∃ introduction,
        (introduceServer sampleServerPrimitives sampleClientConfig
          { sampleServerAttempt 1 with decisionWait := .deadline }).outcome =
            .ok (some introduction) ∧ introduction.server.certificate = [1] := ⟨_, rfl, rfl⟩
    have read := Episode.answered_of_retracted retracted _ introduced rfl (by rw [unknown]; rfl)
    cases read.1
  · exact ⟨_, rfl⟩

end Rflow
