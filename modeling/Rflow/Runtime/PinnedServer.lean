import Rflow.Runtime.ServerPeer
import Rflow.Trust.Operations

/-!
# A client stays with the server it accepted

Once an endpoint is bound to a device, it stays bound to it through every further attempt, and only
a certificate with the digest of that device is authorized for it.
-/

namespace Rflow

open Foundation

/-- An endpoint is bound to a device. -/
def TrustDatabase.BoundTo (database : TrustDatabase) (endpoint : String) (deviceId : DeviceId) :
    Prop :=
  ∃ binding, (database.endpoints.find? fun binding => binding.endpoint = endpoint) = some binding ∧
    binding.deviceId = deviceId

namespace TrustDatabase

variable {database later : TrustDatabase} {endpoint : String} {deviceId : DeviceId}
  {fromCertificate : Certificate → DeviceId} {certificate : Certificate}

/-- A binding outlives the bindings that are added after it. -/
theorem BoundTo.mono (bound : database.BoundTo endpoint deviceId)
    (grows : database.endpoints <+: later.endpoints) : later.BoundTo endpoint deviceId := by
  obtain ⟨binding, found, same⟩ := bound
  obtain ⟨added, longer⟩ := grows
  exact ⟨binding, by rw [← longer, List.find?_append, found]; rfl, same⟩

theorem BoundTo.verifyEndpoint (bound : database.BoundTo endpoint deviceId) :
    database.verifyEndpoint fromCertificate endpoint certificate =
      if deviceId = fromCertificate certificate then .trusted (fromCertificate certificate)
      else .identityChanged deviceId (fromCertificate certificate) := by
  obtain ⟨binding, found, rfl⟩ := bound
  simp [TrustDatabase.verifyEndpoint, found]

/-- A certificate is trusted for an endpoint that is bound to its device. -/
theorem boundTo_of_trusted
    (passes : database.verifyEndpoint fromCertificate endpoint certificate =
      .trusted deviceId) : database.BoundTo endpoint (fromCertificate certificate) := by
  unfold TrustDatabase.verifyEndpoint at passes
  split at passes
  · rename_i binding found
    dsimp only at passes
    split_ifs at passes with same
    exact ⟨binding, found, same⟩
  · cases passes

end TrustDatabase

namespace TrustStore

variable {store next : TrustStore} {endpoint : String} {deviceId : DeviceId}
  {fault : Option CommitStep} {fromCertificate : Certificate → DeviceId} {certificate : Certificate}
  {name : String} {now : Nat}

/-- Remembering a peer leaves the bindings alone. -/
theorem remember_endpoints {result : Outcome String DeviceId}
    (remembered : store.remember fromCertificate name certificate now fault = (result, next)) :
    next.database.endpoints = store.database.endpoints := by
  rcases remember_cases remembered with rfl | ⟨candidate, candidateEq, _, same | same⟩
  · rfl
  · rw [same, (TrustDatabase.remembering_eq_ok candidateEq).1]
  · rw [same]

/-- After a successful call the endpoint is bound to the device. -/
theorem bindEndpoint_eq_ok (bound : store.bindEndpoint endpoint deviceId fault = (.ok (), next)) :
    next.database.BoundTo endpoint deviceId := by
  have committed {candidate : TrustDatabase}
      (done : store.commit candidate fault = (.ok (), next)) : next.database = candidate := by
    unfold commit at done
    split at done
    · rw [← (Prod.mk.inj done).2]
    · cases (Prod.mk.inj done).1
    · cases (Prod.mk.inj done).1
  unfold bindEndpoint at bound
  split_ifs at bound
  · cases (Prod.mk.inj bound).1
  · split at bound
    · rename_i binding found
      split_ifs at bound with other
      · cases (Prod.mk.inj bound).1
      · exact ⟨binding, by rw [committed bound]; exact found, not_not.mp other⟩
    · rename_i absent
      refine ⟨{ endpoint, deviceId }, ?_, rfl⟩
      rw [committed bound, List.find?_append, absent]
      simp

end TrustStore

/-! ## What an attempt establishes -/

section Attempt

variable {primitives : Primitives} {config : ClientConfig} {attempt : ServerAttempt}
  {trust : TrustStore} {database : TrustDatabase} {introduction : ServerIntroduction}
  {verification : VerifyPeer} {peer : PeerSummary} {certificate : Certificate}

/-- An introduction carries the certificate of its connection. -/
theorem introduceServer_eq_some
    (introduced : (introduceServer primitives config attempt).outcome = .ok (some introduction)) :
    peerCertificate attempt.identity = .ok introduction.server.certificate := by
  simp only [introduceServer, Traced.bind_outcome, Traced.lift_outcome, Traced.tell_outcome,
    Outcome.bind_eq_ok, Outcome.ok_bind] at introduced
  obtain ⟨certificate, presented, _, _, _, _, _ | ⟨message, receive⟩, _, done⟩ := introduced
  · cases done
  · simp only [Traced.bind_outcome, Traced.lift_outcome, Traced.tell_outcome, Traced.pure_outcome,
      Outcome.bind_eq_ok, Outcome.ok_bind, Outcome.mapErr_eq_ok, Outcome.ok.injEq,
      Option.some.injEq] at done
    obtain ⟨⟨serverName, server⟩, valid, proof, _, rfl⟩ := done
    rw [(validatePairingHello_sees valid).2.1]
    exact presented

/-- What an approved server has passed. -/
structure Approved (primitives : Primitives) (config : ClientConfig) (attempt : ServerAttempt)
    (database : TrustDatabase) (introduction : ServerIntroduction) (verification : VerifyPeer) :
    Prop where
  presented : peerCertificate attempt.identity = .ok introduction.server.certificate
  verified : verification =
    database.verifyEndpoint primitives.sha256 config.target.display introduction.server.certificate
  identity : checkIdentity config.target.display verification = .ok ()
  pinned : checkPinned config attempt introduction.server.certificate = .ok ()

theorem approveServer_eq_some
    (approved : (approveServer primitives config attempt database).outcome =
      .ok (some (introduction, verification))) :
    Approved primitives config attempt database introduction verification := by
  simp only [approveServer, Traced.bind_outcome, Outcome.bind_eq_ok] at approved
  obtain ⟨_ | introduced, introduces, done⟩ := approved
  · cases done
  · simp only [Traced.bind_outcome, Traced.lift_outcome, Traced.pure_outcome, Outcome.bind_eq_ok,
      Outcome.ok.injEq, Option.map_eq_some_iff, Prod.mk.injEq] at done
    obtain ⟨_, identity, _, pinned, _, _, _, _, rfl, rfl⟩ := done
    exact ⟨introduceServer_eq_some introduces, rfl, identity, pinned⟩

/-- The attempt ends before anything is kept, or keeps what the approved server asks for. -/
theorem authorizeServerPeer_cases (primitives : Primitives) (config : ClientConfig)
    (attempt : ServerAttempt) (trust : TrustStore) :
    ((authorizeServerPeer primitives config attempt trust).2 = trust ∧
        ∀ peer, (authorizeServerPeer primitives config attempt trust).1.outcome ≠ .ok (some peer)) ∨
      ∃ introduction verification,
        Approved primitives config attempt trust.database introduction verification ∧
        (authorizeServerPeer primitives config attempt trust).2 =
          (keepServer primitives config attempt trust introduction verification).2 ∧
        ∀ peer, (authorizeServerPeer primitives config attempt trust).1.outcome = .ok (some peer) →
          (keepServer primitives config attempt trust introduction verification).1 =
            .ok peer.deviceId := by
  unfold authorizeServerPeer
  dsimp only
  split
  · rename_i introduction verification approved
    refine Or.inr ⟨introduction, verification, approveServer_eq_some approved, rfl, ?_⟩
    intro peer done
    simp only [acknowledgeServer, Traced.bind_outcome, Traced.lift_outcome, Traced.tell_outcome,
      Traced.pure_outcome, Outcome.bind_eq_ok, Outcome.ok_bind, Outcome.ok.injEq,
      Option.some.injEq] at done
    obtain ⟨_, _, _, ⟨deviceId, kept, _, _, _, _, rfl⟩, rfl⟩ := done
    exact kept
  · refine Or.inl ⟨rfl, fun peer done => ?_⟩
    simp only [Traced.bind_outcome, Traced.pure_outcome, Outcome.bind_eq_ok, Outcome.ok.injEq,
      reduceCtorEq, and_false, exists_false] at done

/-- Keeping a server keeps the bindings in front. -/
theorem keepServer_endpoints :
    trust.database.endpoints <+:
      (keepServer primitives config attempt trust introduction
          verification).2.database.endpoints := by
  unfold keepServer
  split_ifs
  · rcases remembered : trust.remember primitives.sha256 introduction.serverName
      introduction.server.certificate attempt.unixTimestamp
          attempt.rememberFault with ⟨result, store⟩
    have same := TrustStore.remember_endpoints remembered
    cases result with
    | ok deviceId => exact same ▸ TrustStore.bindEndpoint_endpoints
    | err error => exact same ▸ List.prefix_refl _
    | panic message => exact same ▸ List.prefix_refl _
  · exact List.prefix_refl _

theorem authorizeServerPeer_endpoints :
    trust.database.endpoints <+:
      (authorizeServerPeer primitives config attempt trust).2.database.endpoints := by
  rcases authorizeServerPeer_cases primitives config attempt trust with
    ⟨same, _⟩ | ⟨_, _, _, same, _⟩
  · rw [same]
  · rw [same]
    exact keepServer_endpoints

/-- A server that is kept goes by its digest, and the endpoint is bound to it. -/
theorem keepServer_eq_ok {deviceId : DeviceId}
    (approved : Approved primitives config attempt trust.database introduction verification)
    (kept : (keepServer primitives config attempt trust introduction
        verification).1 = .ok deviceId) :
    deviceId = primitives.sha256 introduction.server.certificate ∧
      (keepServer primitives config attempt trust introduction verification).2.database.BoundTo
        config.target.display deviceId := by
  unfold keepServer at kept ⊢
  split_ifs at kept ⊢ with unknown
  · rcases remembered : trust.remember primitives.sha256 introduction.serverName
      introduction.server.certificate attempt.unixTimestamp
          attempt.rememberFault with ⟨result, store⟩
    rw [remembered] at kept
    cases result with
    | ok named =>
        obtain ⟨_, bound, same⟩ := Outcome.bind_eq_ok.mp (Outcome.mapErr_eq_ok.mp kept)
        obtain rfl := Outcome.ok.inj same
        exact ⟨remember_deviceId remembered, TrustStore.bindEndpoint_eq_ok (Prod.ext bound rfl)⟩
    | err error => cases kept
    | panic message => cases kept
  · obtain rfl := Outcome.ok.inj kept
    refine ⟨rfl, ?_⟩
    have identity := approved.identity
    have verified := approved.verified
    cases verification with
    | unknown observed => exact absurd rfl unknown
    | identityChanged expected observed => cases identity
    | trusted observed => exact TrustDatabase.boundTo_of_trusted verified.symm

theorem authorizeServerPeer_eq_some
    (done : (authorizeServerPeer primitives config attempt trust).1.outcome = .ok (some peer)) :
    ∃ certificate, peerCertificate attempt.identity = .ok certificate ∧
      peer.deviceId = primitives.sha256 certificate ∧
      checkPinned config attempt certificate = .ok () ∧
      (authorizeServerPeer primitives config attempt trust).2.database.BoundTo
        config.target.display peer.deviceId := by
  rcases authorizeServerPeer_cases primitives config attempt trust with
    ⟨_, never⟩ | ⟨introduction, verification, approved, left, kept⟩
  · exact absurd done (never peer)
  · obtain ⟨same, bound⟩ := keepServer_eq_ok approved (kept peer done)
    exact ⟨_, approved.presented, same, approved.pinned, left ▸ bound⟩

/-- For an endpoint that is bound to a device, a certificate of another device is turned down, and
the trust store stays as it is. -/
theorem authorizeServerPeer_refuses {deviceId : DeviceId}
    (bound : trust.database.BoundTo config.target.display deviceId)
    (presented : peerCertificate attempt.identity = .ok certificate)
    (other : primitives.sha256 certificate ≠ deviceId) :
    (∀ peer, (authorizeServerPeer primitives config attempt trust).1.outcome ≠ .ok (some peer)) ∧
      (authorizeServerPeer primitives config attempt trust).2 = trust := by
  rcases authorizeServerPeer_cases primitives config attempt trust with
    ⟨same, never⟩ | ⟨introduction, verification, approved, _⟩
  · exact ⟨never, same⟩
  · obtain rfl := Outcome.ok.inj (presented.symm.trans approved.presented)
    have identity := approved.identity
    rw [approved.verified, bound.verifyEndpoint, if_neg (Ne.symm other)] at identity
    cases identity

end Attempt

/-! ## Any number of attempts -/

variable {primitives : Primitives}

/-- The trust store after some attempts, each with its own configuration. -/
def TrustStore.afterServers (primitives : Primitives) (store : TrustStore)
    (attempts : List (ClientConfig × ServerAttempt)) : TrustStore :=
  attempts.foldl
    (fun store attempt => (authorizeServerPeer primitives attempt.1 attempt.2 store).2) store

theorem TrustStore.afterServers_endpoints {store : TrustStore}
    {attempts : List (ClientConfig × ServerAttempt)} :
    store.database.endpoints <+: (store.afterServers primitives attempts).database.endpoints := by
  induction attempts generalizing store with
  | nil => exact List.prefix_refl _
  | cons attempt attempts induction => exact authorizeServerPeer_endpoints.trans induction

/-- The certificates that servers present in some attempts. -/
def presentedCertificates (attempts : List (ClientConfig × ServerAttempt)) : Set Certificate :=
  { certificate | ∃ attempt ∈ attempts, peerCertificate attempt.2.identity = .ok certificate }

/-- Once an attempt has returned a server, every later attempt for the endpoint returns the same
device or none; one with another certificate returns none and changes nothing.  A pinned certificate
is the only one that is ever returned. -/
theorem client_pinned (primitives : Primitives) (store : TrustStore)
    (first later : ClientConfig × ServerAttempt) (between : List (ClientConfig × ServerAttempt)) :
    (∀ peer, (authorizeServerPeer primitives first.1 first.2 store).1.outcome = .ok (some peer) →
        later.1.target.display = first.1.target.display →
        Set.InjOn primitives.sha256 (presentedCertificates (first :: between ++ [later])) →
        (∀ other,
            (authorizeServerPeer primitives later.1 later.2
              (store.afterServers primitives (first :: between))).1.outcome = .ok (some other) →
            other.deviceId = peer.deviceId) ∧
          ∀ certificate other, peerCertificate first.2.identity = .ok certificate →
            peerCertificate later.2.identity = .ok other → other ≠ certificate →
            (∀ returned,
              (authorizeServerPeer primitives later.1 later.2
                (store.afterServers primitives (first :: between))).1.outcome ≠
                  .ok (some returned)) ∧
              (authorizeServerPeer primitives later.1 later.2
                (store.afterServers primitives (first :: between))).2 =
                  store.afterServers primitives (first :: between)) ∧
      ∀ peer, first.1.serverCert.isSome →
        (authorizeServerPeer primitives first.1 first.2 store).1.outcome = .ok (some peer) →
        ∃ pinned, first.2.pinnedFile = some pinned ∧
          peerCertificate first.2.identity = .ok pinned := by
  constructor
  · intro peer accepted sameEndpoint collisionFree
    obtain ⟨certificate, presented, device, _, bound⟩ := authorizeServerPeer_eq_some accepted
    have still : (store.afterServers primitives (first :: between)).database.BoundTo
        later.1.target.display peer.deviceId := by
      rw [sameEndpoint]
      exact bound.mono TrustStore.afterServers_endpoints
    constructor
    · intro other returned
      obtain ⟨_, presentedLater, deviceLater, _⟩ := authorizeServerPeer_eq_some returned
      by_contra different
      exact (authorizeServerPeer_refuses still presentedLater
        (deviceLater ▸ different)).1 other returned
    · intro same other presentedFirst presentedLater different
      obtain rfl := Outcome.ok.inj (presented.symm.trans presentedFirst)
      refine authorizeServerPeer_refuses still presentedLater fun collides => different ?_
      exact collisionFree ⟨later, by simp, presentedLater⟩ ⟨first, by simp, presented⟩
        (collides.trans device)
  · intro peer pins accepted
    obtain ⟨certificate, presented, _, passes, _⟩ := authorizeServerPeer_eq_some accepted
    obtain ⟨path, configured⟩ := Option.isSome_iff_exists.mp pins
    simp only [checkPinned, configured, Outcome.bind_eq_ok, Outcome.ofOption_eq_ok,
      Outcome.require_eq_ok] at passes
    obtain ⟨pinned, read, rfl⟩ := passes
    exact ⟨pinned, read, presented⟩

/-- A server is accepted and then impersonated: the impersonator is turned down. -/
theorem client_pinned_impersonated :
    ∃ peer,
      (authorizeServerPeer sampleServerPrimitives sampleClientConfig (sampleServerAttempt 1)
        { database := default, file := .absent }).1.outcome = .ok (some peer) ∧
      (∀ returned,
        (authorizeServerPeer sampleServerPrimitives sampleClientConfig (sampleServerAttempt 3)
          (TrustStore.afterServers sampleServerPrimitives { database := default, file := .absent }
            [(sampleClientConfig, sampleServerAttempt 1)])).1.outcome ≠ .ok (some returned)) ∧
      ∃ pinned, (sampleServerAttempt 1).pinnedFile = some pinned ∧
        peerCertificate (sampleServerAttempt 1).identity = .ok pinned := by
  have pinned := client_pinned sampleServerPrimitives { database := default, file := .absent }
    (sampleClientConfig, sampleServerAttempt 1) (sampleClientConfig, sampleServerAttempt 3) []
  have collisionFree : Set.InjOn sampleServerPrimitives.sha256
      (presentedCertificates ([(sampleClientConfig, sampleServerAttempt 1)] ++
        [(sampleClientConfig, sampleServerAttempt 3)])) := by
    have presented {certificate : Certificate}
        (member : certificate ∈ presentedCertificates
        ([(sampleClientConfig, sampleServerAttempt 1)] ++
          [(sampleClientConfig, sampleServerAttempt 3)])) : certificate = [1] ∨
              certificate = [3] := by
      obtain ⟨attempt, listed, presents⟩ := member
      simp only [List.singleton_append, List.mem_cons, List.not_mem_nil, or_false] at listed
      rcases listed with rfl | rfl
      · exact Or.inl (Outcome.ok.inj presents).symm
      · exact Or.inr (Outcome.ok.inj presents).symm
    intro one oneMember other otherMember same
    rcases presented oneMember with rfl | rfl <;> rcases presented otherMember with rfl | rfl
    · rfl
    · exact absurd same (by decide)
    · exact absurd same (by decide)
    · rfl
  obtain ⟨peer, accepted⟩ : ∃ peer,
      (authorizeServerPeer sampleServerPrimitives sampleClientConfig (sampleServerAttempt 1)
        { database := default, file := .absent }).1.outcome = .ok (some peer) := ⟨_, rfl⟩
  exact ⟨peer, accepted, ((pinned.1 peer accepted rfl collisionFree).2 [1]
    [3] rfl rfl (by decide)).1, pinned.2 peer rfl accepted⟩

end Rflow
