import Rflow.Runtime.PairingSteps

/-!
# Who is admitted

A device is authorized only when its certificate is trusted already, or when the first decision on
its own request accepts it and the certificate is stored.  Otherwise the trust store stays as it is,
and decisions on other requests make no difference.
-/

namespace Rflow

open Foundation

/-! ## Decisions -/

/-- The first decision on a request accepts it, and only decisions on other requests come before. -/
def FirstAccepts (requestId : PairingRequestId) (signals : List PairingSignal) : Prop :=
  ∃ front rest, signals = front ++ .decision requestId true :: rest ∧
    ∀ signal ∈ front, ∃ other accepted, other ≠ requestId ∧ signal = .decision other accepted

theorem pairingOutcome_eq_accepted {requestId : PairingRequestId} {signals : List PairingSignal} :
    pairingOutcome requestId signals = .accepted ↔ FirstAccepts requestId signals := by
  induction signals with
  | nil => simp [pairingOutcome, FirstAccepts]
  | cons signal signals induction =>
      have ended (early : ∀ other accepted, signal ≠ .decision other accepted) :
          ¬ FirstAccepts requestId (signal :: signals) := by
        rintro ⟨front, rest, split, foreign⟩
        cases front with
        | nil => exact early _ _ (List.cons.inj split).1
        | cons first front =>
            obtain ⟨other, accepted, _, rfl⟩ := foreign first List.mem_cons_self
            exact early _ _ (List.cons.inj split).1
      cases signal with
      | decision decided accepted =>
          by_cases own : decided = requestId
          · subst own
            simp only [pairingOutcome, if_true]
            constructor
            · intro outcome
              cases accepted with
              | true => exact ⟨[], signals, rfl, by simp⟩
              | false => cases outcome
            · rintro ⟨front, rest, split, foreign⟩
              cases front with
              | nil =>
                  obtain ⟨_, rfl⟩ := PairingSignal.decision.inj (List.cons.inj split).1
                  rfl
              | cons first front =>
                  obtain ⟨other, _, apart, rfl⟩ := foreign first List.mem_cons_self
                  exact absurd (PairingSignal.decision.inj (List.cons.inj split).1).1.symm apart
          · simp only [pairingOutcome, own, if_false, induction]
            constructor
            · rintro ⟨front, rest, rfl, foreign⟩
              exact ⟨.decision decided accepted :: front, rest, rfl,
                List.forall_mem_cons.mpr ⟨⟨decided, accepted, own, rfl⟩, foreign⟩⟩
            · rintro ⟨front, rest, split, foreign⟩
              cases front with
              | nil => exact absurd (PairingSignal.decision.inj (List.cons.inj split).1).1 own
              | cons first front =>
                  exact ⟨front, rest, (List.cons.inj split).2,
                    fun other member => foreign other (List.mem_cons_of_mem _ member)⟩
      | channelClosed => exact iff_of_false (by simp [pairingOutcome]) (ended (by simp))
      | deadline => exact iff_of_false (by simp [pairingOutcome]) (ended (by simp))
      | stopped => exact iff_of_false (by simp [pairingOutcome]) (ended (by simp))
      | connectionClosed => exact iff_of_false (by simp [pairingOutcome]) (ended (by simp))

/-- What is left without the decisions on other requests. -/
def ownSignals (requestId : PairingRequestId) (signals : List PairingSignal) : List PairingSignal :=
  signals.filter fun
    | .decision decided _ => decided = requestId
    | _ => true

theorem pairingOutcome_ownSignals (requestId : PairingRequestId) (signals : List PairingSignal) :
    pairingOutcome requestId (ownSignals requestId signals) = pairingOutcome requestId signals := by
  unfold ownSignals
  induction signals with
  | nil => rfl
  | cons signal signals induction =>
      cases signal with
      | decision decided accepted =>
          by_cases own : decided = requestId
          · simp [own, pairingOutcome]
          · simp [own, pairingOutcome, induction]
      | channelClosed | deadline | stopped | connectionClosed => rfl

/-! ## Certificates in a database -/

namespace TrustDatabase

variable {fromCertificate : Certificate → DeviceId} {database candidate : TrustDatabase}
  {certificate : Certificate} {name : String} {now : Nat}

/-- A database has exactly this certificate, under its digest. -/
def Holds (fromCertificate : Certificate → DeviceId) (database : TrustDatabase)
    (certificate : Certificate) : Prop :=
  ∃ peer ∈ database.peers, peer.deviceId = fromCertificate certificate ∧
    peer.certificate = certificate

theorem refreshPeer_holds {peers : List TrustedPeer} {peer : TrustedPeer} {deviceId : DeviceId}
    (found : peers.find? (fun peer => peer.deviceId = deviceId) = some peer) :
    ∃ refreshed ∈ refreshPeer deviceId name now peers,
      refreshed.deviceId = deviceId ∧ refreshed.certificate = peer.certificate := by
  induction peers with
  | nil => cases found
  | cons first peers induction =>
      by_cases own : first.deviceId = deviceId
      · simp only [List.find?_cons, own, decide_true, Option.some.injEq] at found
        obtain rfl := found
        exact ⟨{ first with displayName := name, lastSeenAt := some now },
          by simp [refreshPeer, own], own, rfl⟩
      · simp only [List.find?_cons, own, decide_false] at found
        obtain ⟨refreshed, member, same⟩ := induction found
        exact ⟨refreshed, by simp [refreshPeer, own, member], same⟩

/-- A remembered certificate is held. -/
theorem remembering_holds
    (remembered : database.remembering fromCertificate name certificate now = .ok candidate) :
    candidate.Holds fromCertificate certificate := by
  simp only [remembering] at remembered
  split at remembered
  · rename_i peer found
    split_ifs at remembered with other
    obtain rfl := Outcome.ok.inj remembered
    obtain ⟨refreshed, member, device, same⟩ := refreshPeer_holds found
    exact ⟨refreshed, member, device, same.trans (not_not.mp other)⟩
  · obtain rfl := Outcome.ok.inj remembered
    exact ⟨_, List.mem_append_right _ List.mem_cons_self, rfl, rfl⟩

end TrustDatabase

/-! ## What is left of the trust store -/

/-- The trust file once outputs are carried out. -/
def trustFileAfter (file : TrustFile) (outputs : List HostOutput) : TrustFile :=
  outputs.foldl
    (fun
      | _, .trustFile stored => stored
      | file, _ => file)
    file

theorem trustFileAfter_append (file : TrustFile) (front back : List HostOutput) :
    trustFileAfter file (front ++ back) = trustFileAfter (trustFileAfter file front) back :=
  List.foldl_append

/-- The file is as it was, or as some output leaves it. -/
theorem trustFileAfter_cases (file : TrustFile) (outputs : List HostOutput) :
    trustFileAfter file outputs = file ∨ .trustFile (trustFileAfter file outputs) ∈ outputs := by
  induction outputs generalizing file with
  | nil => exact Or.inl rfl
  | cons output outputs induction =>
      have onward (next : TrustFile) :
          trustFileAfter next outputs = next ∨
            .trustFile (trustFileAfter next outputs) ∈ output :: outputs :=
        (induction next).imp_right (List.mem_cons_of_mem _)
      cases output with
      | trustFile stored =>
          refine Or.inr ((onward stored).elim (fun same => ?_) id)
          exact List.mem_cons.mpr (Or.inl (congrArg HostOutput.trustFile same))
      | _ => exact onward file

/-- Outputs that pass by leave the trust file alone. -/
theorem trustFileAfter_passing {file : TrustFile} {outputs : List HostOutput}
    (passing : ∀ output ∈ outputs, output.Passing) : trustFileAfter file outputs = file := by
  rcases trustFileAfter_cases file outputs with same | written
  · exact same
  · exact (passing _ written).elim

/-- A call that only lets outputs pass leaves the trust file alone. -/
theorem trustFileAfter_returns {α : Type} {call : Traced HostOutput RuntimeError α} {value : α}
    {file : TrustFile} {outputs : List HostOutput} (emits : call.Emits HostOutput.Passing)
    (returned : call.Returns outputs value) : trustFileAfter file outputs = file :=
  trustFileAfter_passing (returned.1 ▸ emits)

/-- Remembering succeeds with the new database in memory and in the file. -/
theorem TrustStore.remember_eq_ok {fromCertificate : Certificate → DeviceId}
    {store next : TrustStore}
    {name : String} {certificate : Certificate} {now : Nat} {fault : Option CommitStep}
    {deviceId : DeviceId}
    (remembered : store.remember fromCertificate name certificate now
        fault = (.ok deviceId, next)) :
    ∃ candidate, store.database.remembering fromCertificate name certificate now = .ok candidate ∧
      next = { database := candidate, file := .database candidate } := by
  unfold remember at remembered
  split at remembered
  · rename_i candidate done
    obtain ⟨committed, rfl⟩ := Prod.mk.inj remembered
    refine ⟨candidate, done, ?_⟩
    cases fault with
    | none => rfl
    | some step => cases step <;> cases committed
  · cases (Prod.mk.inj remembered).1
  · cases (Prod.mk.inj remembered).1

section Admission

variable {primitives : Primitives} {config : HostConfig} {attempt : Attempt} {trust : TrustStore}
  {limiter left : PairingRateLimiter} {introduction : Introduction} {database : TrustDatabase}
  {authorized : AuthorizedPeer} {outputs : List HostOutput}

theorem rememberAccepted_returns {deviceId : DeviceId}
    (returned : (rememberAccepted primitives attempt trust introduction).Returns outputs
      (deviceId, database)) :
    database.Holds primitives.sha256 introduction.client.certificate ∧
      trustFileAfter trust.file outputs = .database database := by
  rcases remembered : trust.remember primitives.sha256 introduction.clientName
    introduction.client.certificate attempt.unixTimestamp attempt.commitFault with ⟨result, store⟩
  simp only [rememberAccepted, remembered, Traced.returns_bind, Traced.returns_tell,
    Traced.returns_lift, Traced.returns_pure, Outcome.mapErr_eq_ok, Prod.mk.injEq] at returned
  obtain ⟨_, _, _, rfl, ⟨_, _, _, ⟨rfl, rfl⟩, ⟨confirmed, _, _, confirms,
    ⟨_, _, _, rfl, ⟨_, _, _, ⟨_, rfl⟩, ⟨rfl, rfl, rfl⟩, rfl⟩, rfl⟩, rfl⟩, rfl⟩, rfl⟩ := returned
  obtain ⟨candidate, done, rfl⟩ := TrustStore.remember_eq_ok remembered
  refine ⟨TrustDatabase.remembering_holds done, ?_⟩
  have written : trustFileAfter trust.file
      (if .database candidate = trust.file then [] else [.trustFile (.database candidate)]) =
        .database candidate := by
    split_ifs with same
    · exact same.symm
    · rfl
  rw [trustFileAfter_append, written, List.nil_append, trustFileAfter_append,
    trustFileAfter_returns (confirm_exchange.mono HostOutput.OfExchange.passing) confirms]
  exact trustFileAfter_passing (by simp [HostOutput.Passing])

theorem requestDecision_returns
    (returned : (requestDecision primitives attempt trust limiter introduction).Returns outputs
      (some authorized, database, left)) :
    database.Holds primitives.sha256 introduction.client.certificate ∧
      trustFileAfter trust.file outputs = .database database := by
  obtain ⟨allowed, accepted, _⟩ := requestDecision_eq_some returned.2
  rcases allowance : limiter.allow attempt.connection.remoteAddress.ip
    attempt.now with ⟨flag, later⟩
  obtain rfl : flag = true := by simpa [allowance] using allowed
  rw [Accepted] at accepted
  simp only [requestDecision, allowance, Bool.true_eq_false, if_false, accepted, ne_eq,
    not_true_eq_false, Traced.returns_bind, Traced.returns_tell, Traced.returns_pure, Prod.mk.injEq,
    Option.some.injEq] at returned
  obtain ⟨_, _, _, rfl, ⟨_, _, _, rfl, ⟨written, ⟨deviceId, _⟩, _, remembers,
    ⟨rfl, rfl, rfl, rfl⟩, rfl⟩, rfl⟩, rfl⟩ := returned
  obtain ⟨holds, stored⟩ := rememberAccepted_returns remembers
  refine ⟨holds, ?_⟩
  change trustFileAfter trust.file (written ++ []) = _
  rw [List.append_nil, stored]

/-- The certificate of a connection, as its TLS layer has authenticated it, is trusted already. -/
def KnownDevice (primitives : Primitives) (attempt : Attempt) (trust : TrustDatabase) : Prop :=
  ∃ certificate, peerCertificate attempt.identity = .ok certificate ∧
    trust.Holds primitives.sha256 certificate

/-- The first decision on the request of a connection accepts it, and its certificate is in the
trust file afterwards. -/
def AcceptedAndStored (primitives : Primitives) (config : HostConfig) (attempt : Attempt)
    (file : TrustFile) (outputs : List HostOutput) : Prop :=
  ∃ introduction certificate stored, Introduces primitives config attempt introduction ∧
    FirstAccepts introduction.proof.requestId attempt.signals ∧
    peerCertificate attempt.identity = .ok certificate ∧
    trustFileAfter file outputs = .database stored ∧ stored.Holds primitives.sha256 certificate

/-- An authorized peer is known, or accepted and stored. -/
theorem authorizeHostPeer_admits
    (done : (authorizeHostPeer primitives config attempt trust limiter).outcome =
      .ok (some authorized, database, left)) :
    KnownDevice primitives attempt trust.database ∨
      AcceptedAndStored primitives config attempt trust.file
        (authorizeHostPeer primitives config attempt trust limiter).outputs := by
  have returned : (authorizeHostPeer primitives config attempt trust limiter).Returns _ _ :=
      ⟨rfl, done⟩
  obtain ⟨first, introduced, rest, introduces, decides, joined⟩ := Traced.returns_bind.mp returned
  cases introduced with
  | none => cases decides.2
  | some introduction =>
      have identified := introduce_eq_some.mp introduces.2
      cases trusted : trust.database.trusts primitives.sha256 introduction.client.certificate with
      | true => exact Or.inl ⟨_, identified.certificate, TrustDatabase.trusts_iff.mp trusted⟩
      | false =>
          simp only [trusted, Bool.false_eq_true, if_false] at decides
          obtain ⟨_, accepted, _⟩ := requestDecision_eq_some decides.2
          obtain ⟨holds, stored⟩ := requestDecision_returns decides
          refine Or.inr ⟨introduction, _, database, identified,
            pairingOutcome_eq_accepted.mp accepted, identified.certificate, ?_, holds⟩
          rw [joined, trustFileAfter_append,
            trustFileAfter_returns
                (introduce_exchange.mono HostOutput.OfExchange.passing) introduces,
            stored]

/-- Whatever is written to the trust file holds the certificate of an accepted request. -/
theorem authorizeHostPeer_writes {file : TrustFile}
    (written : .trustFile file ∈ (authorizeHostPeer primitives config attempt trust
        limiter).outputs) :
    ∃ introduction certificate stored, Introduces primitives config attempt introduction ∧
      FirstAccepts introduction.proof.requestId attempt.signals ∧
      peerCertificate attempt.identity = .ok certificate ∧
      file = .database stored ∧ stored.Holds primitives.sha256 certificate := by
  have emits : (authorizeHostPeer primitives config attempt trust limiter).Emits fun output =>
      ∀ file, output = .trustFile file →
        ∃ introduction certificate stored, Introduces primitives config attempt introduction ∧
          FirstAccepts introduction.proof.requestId attempt.signals ∧
          peerCertificate attempt.identity = .ok certificate ∧
          file = .database stored ∧ stored.Holds primitives.sha256 certificate := by
    refine authorizeHostPeer_emits (fun output passing file same => ?_)
      fun introduction introduces accepted result store remembered changed file same => ?_
    · subst same
      exact passing.elim
    · rcases TrustStore.remember_cases remembered with rfl | ⟨candidate, done, stored, _⟩
      · exact absurd rfl changed
      · exact ⟨introduction, _, candidate, introduces,
          pairingOutcome_eq_accepted.mp accepted.2.2, introduces.certificate,
          (HostOutput.trustFile.inj same).symm.trans stored, TrustDatabase.remembering_holds done⟩
  exact emits _ written file rfl

/-- Decisions on other requests make no difference. -/
theorem authorizeHostPeer_congr {signals : List PairingSignal}
    (same : ∀ introduction, Introduces primitives config attempt introduction →
      ownSignals introduction.proof.requestId signals =
        ownSignals introduction.proof.requestId attempt.signals) :
    authorizeHostPeer primitives config { attempt with signals } trust limiter =
      authorizeHostPeer primitives config attempt trust limiter := by
  refine Traced.bind_congr_of_ok fun introduced introduces => ?_
  cases introduced with
  | none => rfl
  | some introduction =>
      have outcome : pairingOutcome introduction.proof.requestId signals =
          pairingOutcome introduction.proof.requestId attempt.signals := by
        rw [← pairingOutcome_ownSignals, same introduction (introduce_eq_some.mp introduces),
          pairingOutcome_ownSignals]
      have decision : requestDecision primitives
          { attempt with signals } trust limiter introduction =
          requestDecision primitives attempt trust limiter introduction := by
        simp only [requestDecision, outcome]
        rfl
      simp only [decision]
      rfl

end Admission

/-! ## Calls that return -/

section Returns

variable {primitives : Primitives} {config : HostConfig} {attempt : Attempt} {trust : TrustStore}
  {limiter : PairingRateLimiter} {introduction : Introduction}

theorem peerCertificate_returns (identity : PeerIdentity) : (peerCertificate identity).Returns := by
  cases identity with
  | missing => exact Outcome.returns_err
  | unsupported => exact Outcome.returns_err
  | chain certificates => exact Outcome.returns_ofOption

theorem StreamWait.result_returns (wait : StreamWait) (failure : String) :
    (wait.result failure).Returns := by
  cases wait <;> simp [StreamWait.result]

theorem FrameWrite.result_returns (write : FrameWrite) : write.result.Returns := by
  cases write <;> simp [FrameWrite.result]

theorem PeerStream.readFrame_returns {ε : Type} (kind : String) (codec : Framing.Codec ε)
    (stream : PeerStream) : (stream.readFrame kind codec).Returns := by
  unfold readFrame
  split
  · exact Outcome.returns_ok
  · split_ifs <;> simp
  · exact Outcome.returns_err
  · exact Outcome.returns_err
  · rename_i message polled
    exact absurd polled (Framing.poll_returns message)

theorem validatePairingHello_returns {sha256 : List UInt8 → DeviceId} {message : PairingMessage}
    {role : PairingRole} {certificate : Certificate} :
    (validatePairingHello sha256 message role certificate).Returns := by
  unfold validatePairingHello
  split
  · split_ifs <;> simp
  · exact Outcome.returns_err

theorem pairingProof_returns {sha256 : List UInt8 → DeviceId} {first second : PairingMaterial} :
    (pairingProof sha256 first second).Returns := by
  have prefixed (bytes : List UInt8) : (lengthPrefixed bytes).Returns := by
    unfold lengthPrefixed
    split_ifs <;> simp
  refine Outcome.Returns.bind ?_ fun _ _ => Outcome.returns_ok
  unfold pairingTranscript
  split
  · exact (prefixed _).bind fun _ _ => (prefixed _).bind fun _ _ => Outcome.returns_ok
  · exact (prefixed _).bind fun _ _ => (prefixed _).bind fun _ _ => Outcome.returns_ok
  · exact Outcome.returns_err

theorem TrustStore.remember_returns {fromCertificate : Certificate → DeviceId} {store : TrustStore}
    {name : String} {certificate : Certificate} {now : Nat} {fault : Option CommitStep} :
    (store.remember fromCertificate name certificate now fault).1.Returns := by
  have committing (candidate : TrustDatabase) : (store.commit candidate fault).1.Returns := by
    cases fault with
    | none => exact Outcome.returns_ok
    | some step => cases step <;> exact Outcome.returns_err
  unfold remember
  split
  · exact (committing _).bind fun _ _ => Outcome.returns_ok
  · exact Outcome.returns_err
  · rename_i message panics
    simp only [TrustDatabase.remembering] at panics
    split at panics
    · split_ifs at panics
    · cases panics

theorem introduce_returns : (introduce primitives config attempt).outcome.Returns := by
  simp only [introduce, Traced.bind_outcome, Traced.lift_outcome]
  refine (peerCertificate_returns _).bind fun _ _ => (StreamWait.result_returns _ _).bind
    fun stream _ => ?_
  cases stream with
  | none => exact Outcome.returns_ok
  | some stream =>
      simp only [Traced.bind_outcome, Traced.lift_outcome, Traced.tell_outcome, Traced.pure_outcome,
        Outcome.ok_bind]
      exact (PeerStream.readFrame_returns _ _ _).bind fun _ _ =>
        (Outcome.returns_mapErr.mpr validatePairingHello_returns).bind fun _ _ =>
        (FrameWrite.result_returns _).bind fun _ _ =>
        (Outcome.returns_mapErr.mpr pairingProof_returns).bind fun _ _ => Outcome.returns_ok

theorem confirm_returns {receive : PeerStream} :
    (confirm primitives attempt receive).outcome.Returns := by
  simp only [confirm, Traced.bind_outcome, Traced.lift_outcome, Traced.tell_outcome,
    Outcome.ok_bind]
  refine (FrameWrite.result_returns _).bind fun _ _ =>
    (PeerStream.readFrame_returns _ _ _).bind fun result _ => ?_
  dsimp only
  split <;> simp

theorem requestDecision_outcome_returns :
    (requestDecision primitives attempt trust limiter introduction).outcome.Returns := by
  have remembering : (rememberAccepted primitives attempt trust introduction).outcome.Returns := by
    simp only [rememberAccepted, Traced.bind_outcome, Traced.lift_outcome, Traced.tell_outcome,
      Traced.pure_outcome, Outcome.ok_bind]
    exact (Outcome.returns_mapErr.mpr TrustStore.remember_returns).bind fun _ _ =>
      confirm_returns.bind fun _ _ => Outcome.returns_require.bind fun _ _ => Outcome.returns_ok
  unfold requestDecision
  rcases limiter.allow attempt.connection.remoteAddress.ip attempt.now with ⟨allowed, later⟩
  cases allowed with
  | false => exact Outcome.returns_ok
  | true =>
      simp only [Bool.true_eq_false, if_false, Traced.bind_outcome, Traced.tell_outcome,
        Outcome.ok_bind]
      split_ifs
      · exact Outcome.returns_ok
      · rw [Traced.bind_outcome]
        exact remembering.bind fun _ _ => Outcome.returns_ok

/-- Authorization returns a decision or an error. -/
theorem authorizeHostPeer_outcome_returns :
    (authorizeHostPeer primitives config attempt trust limiter).outcome.Returns := by
  rw [authorizeHostPeer, Traced.bind_outcome]
  refine introduce_returns.bind fun introduced _ => ?_
  cases introduced with
  | none => exact Outcome.returns_ok
  | some introduction =>
      dsimp only
      split_ifs
      · simp only [Traced.bind_outcome, Traced.lift_outcome, Traced.pure_outcome]
        exact confirm_returns.bind fun _ _ => Outcome.returns_require.bind fun _ _ =>
          Outcome.returns_ok
      · exact requestDecision_outcome_returns

end Returns

/-! ## Admission -/

/-- Who is admitted, what is left of the trust store otherwise, and which decisions count.  A host
whose authorization fails ends, and leaves the trust file only. -/
structure Admits (primitives : Primitives) (config : HostConfig) (attempt : Attempt)
    (trust : TrustStore) (limiter : PairingRateLimiter)
    (call : Traced HostOutput RuntimeError Authorization) : Prop where
  admitted : ∀ authorized database left, call.outcome = .ok (some authorized, database, left) →
    KnownDevice primitives attempt trust.database ∨
      AcceptedAndStored primitives config attempt trust.file call.outputs
  otherwise : ¬ KnownDevice primitives attempt trust.database →
    ¬ AcceptedAndStored primitives config attempt trust.file call.outputs →
      (∃ left, call.outcome = .ok (none, trust.database, left)) ∨ ∃ error, call.outcome = .err error
  unchanged : ¬ AcceptedAndStored primitives config attempt trust.file call.outputs →
    trustFileAfter trust.file call.outputs = trust.file
  foreign : ∀ signals,
    (∀ introduction, Introduces primitives config attempt introduction →
      ownSignals introduction.proof.requestId signals =
        ownSignals introduction.proof.requestId attempt.signals) →
      authorizeHostPeer primitives config { attempt with signals } trust limiter = call

/-- No unknown device is admitted unasked. -/
theorem authorizeHostPeer_justified (primitives : Primitives) (config : HostConfig)
    (attempt : Attempt) (trust : TrustStore) (limiter : PairingRateLimiter) :
    Admits primitives config attempt trust limiter
      (authorizeHostPeer primitives config attempt trust limiter) := by
  refine ⟨fun _ _ _ => authorizeHostPeer_admits, fun unknown unasked => ?_, fun unasked => ?_,
    fun signals => authorizeHostPeer_congr⟩
  · cases done : (authorizeHostPeer primitives config attempt trust limiter).outcome with
    | ok result =>
        obtain ⟨_ | authorized, database, left⟩ := result
        · rw [authorizeHostPeer_keeps done]
          exact Or.inl ⟨left, rfl⟩
        · exact ((authorizeHostPeer_admits done).elim unknown unasked).elim
    | err error => exact Or.inr ⟨error, rfl⟩
    | panic message => exact absurd done (authorizeHostPeer_outcome_returns message)
  · rcases trustFileAfter_cases trust.file
      (authorizeHostPeer primitives config attempt trust limiter).outputs with same | written
    · exact same
    · obtain ⟨introduction, certificate, stored, introduces, accepts, presented, same, holds⟩ :=
        authorizeHostPeer_writes written
      exact absurd ⟨introduction, certificate, stored, introduces, accepts, presented, same, holds⟩
        unasked

end Rflow
