import Rflow.Runtime.Pairing
import Rflow.Wire.Transcripts

/-!
# What the setup of a peer does

When the steps of a setup go through, what they establish, and what they leave behind however they
end.
-/

namespace Rflow

open Foundation

/-- A certificate is trusted when the database lists exactly it, under its digest. -/
theorem TrustDatabase.trusts_iff {fromCertificate : Certificate → DeviceId}
    {database : TrustDatabase} {certificate : Certificate} :
    database.trusts fromCertificate certificate = true ↔
      ∃ peer ∈ database.peers, peer.deviceId = fromCertificate certificate ∧
        peer.certificate = certificate := by
  simp only [trusts, verifyCertificate]
  split_ifs with known
  · simpa using known
  · simpa using known

section Setup

variable (primitives : Primitives) (config : HostConfig)

/-- The peer of a connection introduces itself correctly and is answered. -/
def Introduces (attempt : Attempt) (introduction : Introduction) : Prop :=
  ∃ certificate stream message,
    peerCertificate attempt.identity = .ok certificate ∧
    attempt.pairingStream = .opened stream ∧
    stream.readFrame "pairing" primitives.pairing = .ok (message, introduction.receive) ∧
    validatePairingHello primitives.sha256 message .client certificate =
      .ok (introduction.clientName, introduction.client) ∧
    attempt.helloWrite = .written ∧
    pairingProof primitives.sha256 (serverMaterial config attempt) introduction.client =
      .ok introduction.proof

/-- The host is stopped before the peer of a connection opens a stream. -/
def StoppedFirst (attempt : Attempt) : Prop :=
  (peerCertificate attempt.identity).IsOk ∧ attempt.pairingStream = .stopped

/-- An unknown device has asked too often, or the user does not accept it. -/
def Refused (trust : TrustDatabase) (limiter : PairingRateLimiter) (attempt : Attempt)
    (introduction : Introduction) : Prop :=
  trust.trusts primitives.sha256 introduction.client.certificate = false ∧
    ((limiter.allow attempt.connection.remoteAddress.ip attempt.now).1 = false ∨
      pairingOutcome introduction.proof.requestId attempt.signals ≠ .accepted)

variable {primitives config} {attempt : Attempt}

theorem StreamWait.result_eq_ok {failure : String} {wait : StreamWait}
    {stream : Option PeerStream} : wait.result failure = .ok stream ↔
      (wait = .stopped ∧ stream = none) ∨ ∃ opened, wait = .opened opened ∧
          stream = some opened := by
  cases wait <;> simp [StreamWait.result, eq_comm]

@[simp]
theorem FrameWrite.result_eq_ok {write : FrameWrite} :
    write.result = .ok () ↔ write = .written := by
  cases write <;> simp [FrameWrite.result]

theorem introduce_eq_none :
    (introduce primitives config attempt).outcome = .ok none ↔ StoppedFirst attempt := by
  simp only [introduce, StoppedFirst, Outcome.IsOk, Traced.bind_outcome, Traced.lift_outcome,
    Outcome.bind_eq_ok, StreamWait.result_eq_ok]
  constructor
  · rintro ⟨certificate, presented, _, ⟨stopped, rfl⟩ | ⟨stream, opened, rfl⟩, done⟩
    · exact ⟨⟨certificate, presented⟩, stopped⟩
    · simp [Outcome.bind_eq_ok] at done
  · rintro ⟨⟨certificate, presented⟩, stopped⟩
    exact ⟨certificate, presented, none, Or.inl ⟨stopped, rfl⟩, rfl⟩

theorem introduce_eq_some {introduction : Introduction} :
    (introduce primitives config attempt).outcome = .ok (some introduction) ↔
      Introduces primitives config attempt introduction := by
  simp only [introduce, Introduces, Traced.bind_outcome, Traced.lift_outcome, Outcome.bind_eq_ok,
    StreamWait.result_eq_ok]
  constructor
  · rintro ⟨certificate, presented, _, ⟨_, rfl⟩ | ⟨stream, opened, rfl⟩, done⟩
    · cases done
    · simp only [Traced.bind_outcome, Traced.lift_outcome, Traced.tell_outcome, Outcome.ok_bind,
        Outcome.bind_eq_ok, Outcome.mapErr_eq_ok, Traced.pure_outcome, Outcome.ok.injEq,
        Option.some.injEq] at done
      obtain ⟨⟨message, receive⟩, read, ⟨name, client⟩, valid, ⟨⟩, written, proof, proven, rfl⟩ :=
        done
      exact ⟨certificate, stream, message, presented, opened, read, valid,
        FrameWrite.result_eq_ok.mp written, proven⟩
  · rintro ⟨certificate, stream, message, presented, opened, read, valid, written, proven⟩
    refine ⟨certificate, presented, _, Or.inr ⟨stream, opened, rfl⟩, ?_⟩
    simp [read, valid, written, proven, Outcome.mapErr, FrameWrite.result]

/-- A connection introduces one peer. -/
theorem Introduces.unique {one other : Introduction}
    (introduces : Introduces primitives config attempt one)
    (again : Introduces primitives config attempt other) : one = other := by
  have same := (introduce_eq_some.mpr introduces).symm.trans (introduce_eq_some.mpr again)
  exact Option.some.inj (Outcome.ok.inj same)

/-- The user is asked about a device and does not accept it, or is not asked at all. -/
theorem requestDecision_eq_none {trust : TrustStore} {limiter left : PairingRateLimiter}
    {introduction : Introduction} {database : TrustDatabase} :
    (requestDecision primitives attempt trust limiter introduction).outcome =
        .ok (none, database, left) ↔
      ((limiter.allow attempt.connection.remoteAddress.ip attempt.now).1 = false ∨
          pairingOutcome introduction.proof.requestId attempt.signals ≠ .accepted) ∧
        database = trust.database ∧
        left = (limiter.allow attempt.connection.remoteAddress.ip attempt.now).2 := by
  unfold requestDecision
  rcases limiter.allow attempt.connection.remoteAddress.ip attempt.now with ⟨allowed, later⟩
  cases allowed with
  | false => simp [reject, eq_comm]
  | true =>
      by_cases accepted : pairingOutcome introduction.proof.requestId attempt.signals = .accepted
      · simp [accepted, Outcome.bind_eq_ok]
      · simp [accepted, reject, eq_comm]

theorem authorizeHostPeer_eq_none {trust : TrustStore} {limiter : PairingRateLimiter} :
    (∃ database left, (authorizeHostPeer primitives config attempt trust limiter).outcome =
        .ok (none, database, left)) ↔
      StoppedFirst attempt ∨
        ∃ introduction, Introduces primitives config attempt introduction ∧
          Refused primitives trust.database limiter attempt introduction := by
  simp only [authorizeHostPeer, Traced.bind_outcome, Outcome.bind_eq_ok]
  constructor
  · rintro ⟨database, left, _ | introduction, introduced, done⟩
    · exact Or.inl (introduce_eq_none.mp introduced)
    · refine Or.inr ⟨introduction, introduce_eq_some.mp introduced, ?_⟩
      cases trusted : trust.database.trusts primitives.sha256 introduction.client.certificate with
      | true => simp [trusted, Outcome.bind_eq_ok] at done
      | false =>
          simp only [trusted, Bool.false_eq_true, if_false] at done
          exact ⟨trusted, (requestDecision_eq_none.mp done).1⟩
  · rintro (stopped | ⟨introduction, introduces, untrusted, refused⟩)
    · exact ⟨trust.database, limiter, none, introduce_eq_none.mpr stopped, rfl⟩
    · refine ⟨trust.database,
        (limiter.allow attempt.connection.remoteAddress.ip attempt.now).2, some introduction,
        introduce_eq_some.mpr introduces, ?_⟩
      simp only [untrusted, Bool.false_eq_true, if_false]
      exact requestDecision_eq_none.mpr ⟨refused, rfl, rfl⟩

end Setup

/-! ## Authorized peers -/

section Authorized

variable {primitives : Primitives} {config : HostConfig} {attempt : Attempt} {trust : TrustStore}
  {limiter left : PairingRateLimiter} {introduction : Introduction} {database : TrustDatabase}
  {authorized : AuthorizedPeer}

/-- An introduction carries the certificate of its connection. -/
theorem Introduces.certificate (introduces : Introduces primitives config attempt introduction) :
    peerCertificate attempt.identity = .ok introduction.client.certificate := by
  obtain ⟨certificate, _, message, presented, _, _, valid, _⟩ := introduces
  rw [(validatePairingHello_sees valid).2.1]
  exact presented

/-- The user accepts the request of an introduction. -/
def Accepted (attempt : Attempt) (introduction : Introduction) : Prop :=
  pairingOutcome introduction.proof.requestId attempt.signals = .accepted

/-- An unknown device makes a pairing request, and the user accepts it. -/
def RequestAccepted (primitives : Primitives) (attempt : Attempt) (trust : TrustDatabase)
    (limiter : PairingRateLimiter) (introduction : Introduction) : Prop :=
  trust.trusts primitives.sha256 introduction.client.certificate = false ∧
    (limiter.allow attempt.connection.remoteAddress.ip attempt.now).1 = true ∧
    Accepted attempt introduction

theorem requestDecision_eq_some
    (decided : (requestDecision primitives attempt trust limiter introduction).outcome =
      .ok (some authorized, database, left)) :
    (limiter.allow attempt.connection.remoteAddress.ip attempt.now).1 = true ∧
      Accepted attempt introduction ∧
      ∃ store,
        trust.remember primitives.sha256 introduction.clientName introduction.client.certificate
          attempt.unixTimestamp attempt.commitFault = (.ok authorized.summary.deviceId, store) ∧
        database = store.database := by
  unfold requestDecision at decided
  rcases allowance : limiter.allow attempt.connection.remoteAddress.ip attempt.now with
    ⟨allowed, later⟩
  rw [allowance] at decided
  cases allowed with
  | false => simp [reject] at decided
  | true =>
      by_cases accepted : pairingOutcome introduction.proof.requestId attempt.signals = .accepted
      · simp only [Bool.true_eq_false, if_false, accepted, ne_eq, not_true_eq_false, reduceCtorEq,
          Traced.bind_outcome, Traced.tell_outcome, Outcome.ok_bind, Outcome.bind_eq_ok,
          Traced.pure_outcome, Outcome.ok.injEq, Prod.mk.injEq, Option.some.injEq] at decided
        obtain ⟨⟨deviceId, remembered⟩, done, rfl, rfl, _⟩ := decided
        refine ⟨rfl, accepted, ?_⟩
        simp only [rememberAccepted, Traced.bind_outcome, Traced.tell_outcome, Outcome.ok_bind,
          Traced.lift_outcome, Outcome.bind_eq_ok, Outcome.mapErr_eq_ok, Traced.pure_outcome,
          Outcome.ok.injEq, Prod.mk.injEq] at done
        obtain ⟨known, stored, _, _, _, _, rfl, rfl⟩ := done
        exact ⟨_, Prod.ext stored rfl, rfl⟩
      · simp [accepted, reject] at decided

/-- A peer that is authorized has introduced itself, and is trusted already or accepted by the
user. -/
theorem authorizeHostPeer_eq_some
    (done : (authorizeHostPeer primitives config attempt trust limiter).outcome =
      .ok (some authorized, database, left)) :
    ∃ introduction, Introduces primitives config attempt introduction ∧
      ((trust.database.trusts primitives.sha256 introduction.client.certificate = true ∧
          authorized.summary.deviceId = primitives.sha256 introduction.client.certificate ∧
          database = trust.database) ∨
        RequestAccepted primitives attempt trust.database limiter introduction ∧
          ∃ store,
            trust.remember primitives.sha256 introduction.clientName introduction.client.certificate
              attempt.unixTimestamp attempt.commitFault =
                (.ok authorized.summary.deviceId, store) ∧
            database = store.database) := by
  simp only [authorizeHostPeer, Traced.bind_outcome, Outcome.bind_eq_ok] at done
  obtain ⟨_ | introduction, introduced, done⟩ := done
  · cases done
  · refine ⟨introduction, introduce_eq_some.mp introduced, ?_⟩
    cases trusted : trust.database.trusts primitives.sha256 introduction.client.certificate with
    | true =>
        simp only [trusted, if_true, Traced.bind_outcome, Outcome.bind_eq_ok, Traced.lift_outcome,
          Traced.pure_outcome, Outcome.ok.injEq, Prod.mk.injEq, Option.some.injEq] at done
        obtain ⟨_, _, _, _, rfl, rfl, _⟩ := done
        exact Or.inl ⟨rfl, rfl, rfl⟩
    | false =>
        simp only [trusted, Bool.false_eq_true, if_false] at done
        obtain ⟨allowed, accepted, remembered⟩ := requestDecision_eq_some done
        exact Or.inr ⟨⟨trusted, allowed, accepted⟩, remembered⟩

theorem remember_deviceId {fromCertificate : Certificate → DeviceId} {store next : TrustStore}
    {name : String} {certificate : Certificate} {now : Nat} {fault : Option CommitStep}
    {deviceId : DeviceId}
    (remembered : store.remember fromCertificate name certificate now
        fault = (.ok deviceId, next)) :
    deviceId = fromCertificate certificate := by
  unfold TrustStore.remember at remembered
  split at remembered
  · obtain ⟨committed, _⟩ := Prod.mk.inj remembered
    obtain ⟨_, _, same⟩ := Outcome.bind_eq_ok.mp committed
    exact (Outcome.ok.inj same).symm
  · cases (Prod.mk.inj remembered).1
  · cases (Prod.mk.inj remembered).1

/-- An authorized peer goes by the digest of the certificate of its connection. -/
theorem authorizeHostPeer_deviceId
    (done : (authorizeHostPeer primitives config attempt trust limiter).outcome =
      .ok (some authorized, database, left)) :
    ∃ certificate, peerCertificate attempt.identity = .ok certificate ∧
      authorized.summary.deviceId = primitives.sha256 certificate := by
  obtain ⟨introduction, introduces, ⟨_, same, _⟩ | ⟨_, _, remembered, _⟩⟩ :=
    authorizeHostPeer_eq_some done
  · exact ⟨_, introduces.certificate, same⟩
  · exact ⟨_, introduces.certificate, remember_deviceId remembered⟩

/-- Authorization that turns a peer away leaves the trust database as it is. -/
theorem authorizeHostPeer_keeps
    (done : (authorizeHostPeer primitives config attempt trust limiter).outcome =
      .ok (none, database, left)) : database = trust.database := by
  simp only [authorizeHostPeer, Traced.bind_outcome, Outcome.bind_eq_ok] at done
  obtain ⟨_ | introduction, _, done⟩ := done
  · simp only [Traced.pure_outcome, Outcome.ok.injEq, Prod.mk.injEq] at done
    exact done.2.1.symm
  · cases trusted : trust.database.trusts primitives.sha256 introduction.client.certificate with
    | true => simp [trusted, Outcome.bind_eq_ok] at done
    | false =>
        simp only [trusted, Bool.false_eq_true, if_false] at done
        exact (requestDecision_eq_none.mp done).2.1

/-- Authorization leaves the trust database as it is, or remembers a device whose request is
accepted. -/
theorem authorizeHostPeer_trust {decision : Option AuthorizedPeer}
    (done : (authorizeHostPeer primitives config attempt trust limiter).outcome =
      .ok (decision, database, left)) :
    database = trust.database ∨
      ∃ introduction, Introduces primitives config attempt introduction ∧
        RequestAccepted primitives attempt trust.database limiter introduction ∧
        trust.database.remembering primitives.sha256 introduction.clientName
          introduction.client.certificate attempt.unixTimestamp = .ok database := by
  cases decision with
  | none => exact Or.inl (authorizeHostPeer_keeps done)
  | some authorized =>
      obtain ⟨introduction, introduces, ⟨_, _, same⟩ | ⟨accepted, store, remembered, rfl⟩⟩ :=
        authorizeHostPeer_eq_some done
      · exact Or.inl same
      · rcases TrustStore.remember_cases remembered with
          rfl | ⟨candidate, candidateEq, _, rfl | same⟩
        · exact Or.inl rfl
        · exact Or.inr ⟨introduction, introduces, accepted, candidateEq⟩
        · exact Or.inl same

theorem prepareHostPeer_eq_ok {summary : PeerSummary} {screens : List DetectedScreen}
    {peer : HostPeer} {report : ReportedScreens}
    (prepared : (prepareHostPeer primitives attempt summary screens).outcome = .ok (peer, report)) :
    peer.summary = summary ∧ peer.connection = attempt.connection := by
  simp only [prepareHostPeer, Traced.bind_outcome, Outcome.bind_eq_ok,
    Traced.lift_outcome] at prepared
  obtain ⟨_ | stream, _, done⟩ := prepared
  · cases done
  · simp only [Traced.bind_outcome, Outcome.bind_eq_ok, Traced.lift_outcome, Traced.tell_outcome,
      Traced.pure_outcome, Outcome.ok.injEq, Prod.mk.injEq] at done
    obtain ⟨_, _, _, _, _, _, _, _, _, _, rfl, _⟩ := done
    exact ⟨rfl, rfl⟩

end Authorized

/-! ## What a setup leaves behind -/

/-- An output that nothing in the world around the host depends on. -/
def HostOutput.Passing : HostOutput → Prop
  | .closeConnection _ | .inventoryFile _ | .layoutFile _ | .trustFile _ | .spawnTasks .. => False
  | _ => True

/-- An output of the exchange of messages with a peer that is being authorized. -/
def HostOutput.OfExchange : HostOutput → Prop
  | .writePairing .. | .notify (.peerIdentified _) | .notify (.peerTrusted _) => True
  | _ => False

theorem HostOutput.OfExchange.passing (output : HostOutput) (exchange : output.OfExchange) :
    output.Passing := by
  cases output <;> trivial

section Emits

variable {primitives : Primitives} {config : HostConfig} {attempt : Attempt}
  {Property : HostOutput → Prop}

theorem introduce_exchange : (introduce primitives config attempt).Emits HostOutput.OfExchange := by
  refine .bind (by simp) fun certificate => .bind (by simp) fun stream => ?_
  cases stream with
  | none => simp
  | some stream =>
      exact .bind (by simp) fun _ => .bind (by simp) fun _ =>
        .bind (by simp [HostOutput.OfExchange]) fun _ => .bind (by simp) fun _ =>
          .bind (by simp [HostOutput.OfExchange]) fun _ => .bind (by simp) fun _ => by simp

theorem confirm_exchange {receive : PeerStream} :
    (confirm primitives attempt receive).Emits HostOutput.OfExchange :=
  .bind (by simp) fun _ => .bind (by simp [HostOutput.OfExchange]) fun _ => by simp

theorem reject_exchange : (reject attempt).Emits HostOutput.OfExchange := by
  unfold reject
  split <;> simp [HostOutput.OfExchange]

theorem prepareHostPeer_emits {summary : PeerSummary} {screens : List DetectedScreen} :
    (prepareHostPeer primitives attempt summary screens).Emits HostOutput.Passing := by
  refine .bind (by simp) fun stream => ?_
  cases stream with
  | none => simp
  | some stream =>
      exact .bind (by simp) fun _ => .bind (by simp) fun _ => .bind (by simp) fun _ =>
        .bind (by simp) fun _ => .bind (by simp [HostOutput.Passing]) fun _ => by simp

/-- What remembering a device writes to the trust file, if it writes, has a property. -/
def RememberWrites (primitives : Primitives) (attempt : Attempt) (trust : TrustStore)
    (Property : HostOutput → Prop) (introduction : Introduction) : Prop :=
  ∀ result store,
    trust.remember primitives.sha256 introduction.clientName introduction.client.certificate
        attempt.unixTimestamp attempt.commitFault = (result, store) →
      store.file ≠ trust.file → Property (.trustFile store.file)

theorem tell_emits {outputs : List HostOutput} (passing : ∀ output, output.Passing →
    Property output) (passes : ∀ output ∈ outputs, output.Passing) :
    (Traced.tell outputs : Traced HostOutput RuntimeError PUnit).Emits Property :=
  fun output member => passing output (passes output member)

theorem rememberAccepted_emits {trust : TrustStore} {introduction : Introduction}
    (exchange : ∀ output, output.OfExchange → Property output)
    (writes : RememberWrites primitives attempt trust Property introduction) :
    (rememberAccepted primitives attempt trust introduction).Emits Property := by
  refine .bind ?_ fun _ => .bind (by simp) fun _ => .bind (confirm_exchange.mono exchange) fun _ =>
    .bind (by simpa using exchange (.notify (.peerTrusted _)) trivial) fun _ =>
        .bind (by simp) fun _ => by simp
  split_ifs with same
  · simp
  · simpa using writes _ _ rfl same

theorem requestDecision_emits {trust : TrustStore} {limiter : PairingRateLimiter}
    {introduction : Introduction} (passing : ∀ output, output.Passing → Property output)
    (writes : (limiter.allow attempt.connection.remoteAddress.ip attempt.now).1 = true →
      Accepted attempt introduction →
        RememberWrites primitives attempt trust Property introduction) :
    (requestDecision primitives attempt trust limiter introduction).Emits Property := by
  have exchange (output : HostOutput) (exchanged : output.OfExchange) : Property output :=
    passing output exchanged.passing
  unfold requestDecision
  rcases allowance : limiter.allow attempt.connection.remoteAddress.ip attempt.now with
    ⟨allowed, later⟩
  rw [allowance] at writes
  cases allowed with
  | false => exact .bind (reject_exchange.mono exchange) fun _ => by simp
  | true =>
      simp only [Bool.true_eq_false, if_false]
      refine .bind (tell_emits passing (by simp [HostOutput.Passing])) fun _ =>
        .bind (tell_emits passing (by simp [HostOutput.Passing])) fun _ => ?_
      by_cases rejected : pairingOutcome introduction.proof.requestId attempt.signals ≠ .accepted
      · rw [if_pos rejected]
        exact .bind (reject_exchange.mono exchange) fun _ => by simp
      · rw [if_neg rejected]
        have written := writes rfl (not_not.mp rejected)
        exact .bind (rememberAccepted_emits exchange written) fun _ => by simp

/-- Authorization writes to the trust file only to remember a device whose request is accepted. -/
theorem authorizeHostPeer_emits {trust : TrustStore} {limiter : PairingRateLimiter}
    (passing : ∀ output, output.Passing → Property output)
    (writes : ∀ introduction, Introduces primitives config attempt introduction →
      RequestAccepted primitives attempt trust.database limiter introduction →
        RememberWrites primitives attempt trust Property introduction) :
    (authorizeHostPeer primitives config attempt trust limiter).Emits Property := by
  have exchange (output : HostOutput) (exchanged : output.OfExchange) : Property output :=
    passing output exchanged.passing
  refine .bind_of_ok (introduce_exchange.mono exchange) fun introduced done => ?_
  cases introduced with
  | none => simp
  | some introduction =>
      cases trusted : trust.database.trusts primitives.sha256 introduction.client.certificate with
      | true =>
          simp only [trusted, if_true]
          exact .bind (confirm_exchange.mono exchange) fun _ => .bind (by simp) fun _ => by simp
      | false =>
          simp only [trusted, Bool.false_eq_true, if_false]
          exact requestDecision_emits passing fun allowed accepted =>
            writes introduction (introduce_eq_some.mp done) ⟨trusted, allowed, accepted⟩

end Emits

end Rflow
