import Rflow.Foundation.Keyed
import Rflow.Foundation.Machine
import Rflow.Trust.Store

/-!
# Operations on the trust store

Every operation either ends at once or commits a whole new database.  What it commits is well formed
when the database was.  A commit changes the file and the memory together, but for one place: when
the directory cannot be synced after the rename, the file is the new one while the call fails.
-/

namespace Rflow

open Foundation

/-- A call of the trust store. -/
inductive TrustOperation where
  | remember (displayName : String) (certificate : Certificate) (now : Nat)
  | bindEndpoint (endpoint : String) (deviceId : DeviceId)
  | forget (deviceId : DeviceId)
  | forgetAll
  deriving DecidableEq

/-- Make a call, and tell whether it succeeded. -/
def TrustStore.perform (fromCertificate : Certificate → DeviceId) (store : TrustStore)
    (operation : TrustOperation) (fault : Option CommitStep) : Outcome String Unit × TrustStore :=
  match operation with
  | .remember displayName certificate now =>
      let (result, next) := store.remember fromCertificate displayName certificate now fault
      (result >>= fun _ => .ok (), next)
  | .bindEndpoint endpoint deviceId => store.bindEndpoint endpoint deviceId fault
  | .forget deviceId =>
      let (result, next) := store.forget deviceId fault
      (result >>= fun _ => .ok (), next)
  | .forgetAll =>
      let (result, next) := store.forgetAll fault
      (result >>= fun _ => .ok (), next)

namespace TrustDatabase

variable {fromCertificate : Certificate → DeviceId} {database candidate : TrustDatabase}
  {operation : TrustOperation} {deviceId : DeviceId} {certificate : Certificate} {name : String}
  {now : Nat}

/-- The database with one more endpoint bound. -/
def binding (database : TrustDatabase) (endpoint : String) (deviceId : DeviceId) : TrustDatabase :=
  { database with endpoints := database.endpoints ++ [{ endpoint, deviceId }] }

/-- The database that an operation commits, if it commits one. -/
def proposal (fromCertificate : Certificate → DeviceId) (database : TrustDatabase) :
    TrustOperation → Outcome String (Option TrustDatabase)
  | .remember displayName certificate now =>
      database.remembering fromCertificate displayName certificate now >>= fun candidate =>
        .ok (some candidate)
  | .bindEndpoint endpoint deviceId =>
      if database.lists deviceId = false then
        .err "cannot bind endpoint to an unknown device"
      else
        match database.endpoints.find? fun binding => binding.endpoint = endpoint with
        | some binding =>
            if binding.deviceId ≠ deviceId then
              .err ("endpoint is already bound to " ++ binding.deviceId.display ++
                "; forget that device before pairing a replacement")
            else
              .ok (some database)
        | none => .ok (some (database.binding endpoint deviceId))
  | .forget deviceId =>
      if (database.forgetting deviceId).peers.length = database.peers.length then
        .ok none
      else
        .ok (some (database.forgetting deviceId))
  | .forgetAll =>
      if database.peers.length = 0 then
        .ok none
      else
        .ok (some { database with peers := [], endpoints := [] })

theorem WellFormed.forgetting (wellFormed : database.WellFormed fromCertificate)
    (deviceId : DeviceId) : (database.forgetting deviceId).WellFormed fromCertificate where
  fingerprints peer member := wellFormed.fingerprints peer (List.mem_filter.mp member).1
  distinct := wellFormed.distinct.sublist (List.filter_sublist.map _)
  known := by
    intro binding member
    obtain ⟨listed, other⟩ := List.mem_filter.mp member
    obtain ⟨peer, known, same⟩ := List.mem_map.mp (wellFormed.known binding listed)
    exact List.mem_map.mpr ⟨peer, List.mem_filter.mpr ⟨known, by rwa [same]⟩, same⟩
  bindings := wellFormed.bindings.sublist (List.filter_sublist.map _)

/-- Binding an endpoint that is not bound to a listed device keeps the database well formed. -/
theorem WellFormed.binding (wellFormed : database.WellFormed fromCertificate) {endpoint : String}
    (listed : database.lists deviceId = true)
    (unbound : endpoint ∉ database.endpoints.map EndpointBinding.endpoint) :
    (database.binding endpoint deviceId).WellFormed fromCertificate where
  fingerprints := wellFormed.fingerprints
  distinct := wellFormed.distinct
  known := by
    intro binding member
    rcases List.mem_append.mp member with old | new
    · exact wellFormed.known binding old
    · rw [List.mem_singleton.mp new]
      exact lists_iff.mp listed
  bindings := by
    rw [TrustDatabase.binding, List.map_append, List.map_singleton, ← List.concat_eq_append]
    exact wellFormed.bindings.concat unbound

theorem version_remembering
    (remembered : database.remembering fromCertificate name certificate now = .ok candidate) :
    candidate.version = database.version := by
  unfold remembering at remembered
  dsimp only at remembered
  split at remembered
  · split_ifs at remembered
    rw [← Outcome.ok.inj remembered]
  · rw [← Outcome.ok.inj remembered]

theorem endpoint_not_mem_of_find?_eq_none {endpoint : String}
    (absent : database.endpoints.find? (fun binding => binding.endpoint = endpoint) = none) :
    endpoint ∉ database.endpoints.map EndpointBinding.endpoint := by
  intro bound
  obtain ⟨binding, member, same⟩ := List.mem_map.mp bound
  simpa [same] using List.find?_eq_none.mp absent binding member

/-- What an operation commits is well formed, in the version of the database before. -/
theorem WellFormed.proposal (wellFormed : database.WellFormed fromCertificate)
    (proposed : database.proposal fromCertificate operation = .ok (some candidate)) :
    candidate.WellFormed fromCertificate ∧ candidate.version = database.version := by
  cases operation with
  | remember displayName certificate now =>
      obtain ⟨remembered, done, same⟩ := Outcome.bind_eq_ok.mp proposed
      obtain rfl := Option.some.inj (Outcome.ok.inj same)
      exact ⟨wellFormed.remembering done, version_remembering done⟩
  | bindEndpoint endpoint deviceId =>
      simp only [TrustDatabase.proposal] at proposed
      split_ifs at proposed with unlisted
      split at proposed
      · split_ifs at proposed
        obtain rfl := Option.some.inj (Outcome.ok.inj proposed)
        exact ⟨wellFormed, rfl⟩
      · rename_i absent
        obtain rfl := Option.some.inj (Outcome.ok.inj proposed)
        exact ⟨wellFormed.binding (Bool.eq_true_of_not_eq_false unlisted)
          (endpoint_not_mem_of_find?_eq_none absent), rfl⟩
  | forget deviceId =>
      simp only [TrustDatabase.proposal] at proposed
      split_ifs at proposed
      · cases Outcome.ok.inj proposed
      · obtain rfl := Option.some.inj (Outcome.ok.inj proposed)
        exact ⟨wellFormed.forgetting deviceId, rfl⟩
  | forgetAll =>
      simp only [TrustDatabase.proposal] at proposed
      split_ifs at proposed
      · cases Outcome.ok.inj proposed
      · obtain rfl := Option.some.inj (Outcome.ok.inj proposed)
        exact ⟨⟨by simp, by simp, by simp, by simp⟩, rfl⟩

end TrustDatabase

namespace TrustStore

variable {fromCertificate : Certificate → DeviceId} {store next : TrustStore}
  {operation : TrustOperation} {fault : Option CommitStep} {file : TrustFile}

/-- Commit what an operation proposes. -/
def settle (store : TrustStore) (fault : Option CommitStep) :
    Outcome String (Option TrustDatabase) → Outcome String Unit × TrustStore
  | .ok none => (.ok (), store)
  | .ok (some candidate) => store.commit candidate fault
  | .err error => (.err error, store)
  | .panic message => (.panic message, store)

/-- Every operation commits what it proposes. -/
theorem perform_eq : store.perform fromCertificate operation fault =
    store.settle fault (store.database.proposal fromCertificate operation) := by
  have discard {α : Type} {value : α} (outcome : Outcome String Unit) :
      ((outcome >>= fun _ => .ok value) >>= fun _ => (.ok () : Outcome String Unit)) = outcome := by
    cases outcome <;> rfl
  cases operation with
  | remember displayName certificate now =>
      simp only [perform, remember, TrustDatabase.proposal]
      cases store.database.remembering fromCertificate displayName certificate now with
      | ok candidate => simp only [discard, Outcome.ok_bind, settle]
      | err error => rfl
      | panic message => rfl
  | bindEndpoint endpoint deviceId =>
      simp only [perform, bindEndpoint, TrustDatabase.proposal]
      cases store.database.endpoints.find? fun binding => binding.endpoint = endpoint with
      | none =>
          dsimp only
          split_ifs <;> rfl
      | some binding =>
          dsimp only
          split_ifs <;> rfl
  | forget deviceId =>
      simp only [perform, forget, TrustDatabase.proposal]
      split_ifs
      · rfl
      · simp only [discard, settle]
  | forgetAll =>
      simp only [perform, forgetAll, TrustDatabase.proposal]
      split_ifs
      · rfl
      · simp only [discard, settle]

/-! ## Stores that mirror their file -/

/-- A store that loading its file would give again. -/
structure Mirrored (fromCertificate : Certificate → DeviceId) (store : TrustStore) : Prop where
  version : store.database.version = trustStoreVersion
  wellFormed : store.database.WellFormed fromCertificate
  file : read store.file = .ok store.database

theorem load_eq_ok :
    load fromCertificate file = .ok store ↔
      store.file = file ∧ store.Mirrored fromCertificate := by
  unfold load
  rw [Outcome.bind_eq_ok]
  simp only [Outcome.check_bind_eq_ok, Outcome.require_eq_ok, TrustDatabase.validate_eq_ok]
  constructor
  · rintro ⟨database, contents, version, wellFormed, done⟩
    obtain rfl := Outcome.ok.inj done
    exact ⟨rfl, version, wellFormed, contents⟩
  · rintro ⟨rfl, version, wellFormed, contents⟩
    exact ⟨store.database, contents, version, wellFormed, rfl⟩

/-- A call without a fault leaves what it commits in the memory and in the file. -/
theorem Mirrored.perform (mirrored : store.Mirrored fromCertificate) :
    (store.perform fromCertificate operation none).2.Mirrored fromCertificate := by
  rw [perform_eq]
  rcases proposed : store.database.proposal fromCertificate operation with
    (_ | candidate) | error | message
  · exact mirrored
  · obtain ⟨wellFormed, version⟩ := mirrored.wellFormed.proposal proposed
    exact ⟨version.trans mirrored.version, wellFormed, rfl⟩
  · exact mirrored
  · exact mirrored

/-! ## Runs without faults -/

/-- Make calls one after the other. -/
def operate (fromCertificate : Certificate → DeviceId) (store : TrustStore)
    (operations : List TrustOperation) : TrustStore :=
  operations.foldl (fun store operation => (store.perform fromCertificate operation none).2) store

theorem Mirrored.operate (mirrored : store.Mirrored fromCertificate)
    (operations : List TrustOperation) :
    (store.operate fromCertificate operations).Mirrored fromCertificate := by
  induction operations generalizing store with
  | nil => exact mirrored
  | cons operation operations induction => exact induction mirrored.perform

end TrustStore

/-- What remembering a known peer leaves alone. -/
def TrustedPeer.identity (peer : TrustedPeer) : DeviceId × Certificate × Nat :=
  (peer.deviceId, peer.certificate, peer.firstSeenAt)

namespace TrustDatabase

variable {fromCertificate : Certificate → DeviceId} {database : TrustDatabase}
  {certificate : Certificate} {peer : TrustedPeer}

/-- Remembering the certificate of a listed peer refreshes that peer. -/
theorem WellFormed.remembering_known (wellFormed : database.WellFormed fromCertificate)
    (listed : peer ∈ database.peers) (name : String) (now : Nat) :
    database.remembering fromCertificate name peer.certificate now =
      .ok { database with peers := refreshPeer peer.deviceId name now database.peers } := by
  have genuine := wellFormed.fingerprints peer listed
  have found : database.peers.find? (fun other => other.deviceId = peer.deviceId) = some peer :=
    (Keyed.Distinct.find?_eq_some wellFormed.distinct).mpr ⟨listed, rfl⟩
  simp only [TrustDatabase.remembering, ← genuine, found, ne_eq, not_true_eq_false, if_false]

/-- Without a peer of the device there is nothing to forget. -/
theorem WellFormed.forgetting_unlisted (wellFormed : database.WellFormed fromCertificate)
    {deviceId : DeviceId}
    (same : (database.forgetting deviceId).peers.length = database.peers.length) :
    database.forgetting deviceId = database := by
  have others : ∀ peer ∈ database.peers, peer.deviceId ≠ deviceId := by
    intro peer member
    simpa using List.length_filter_eq_length_iff.mp same peer member
  have peers : (database.forgetting deviceId).peers = database.peers :=
    List.filter_eq_self.mpr fun peer member => decide_eq_true (others peer member)
  have endpoints : (database.forgetting deviceId).endpoints = database.endpoints := by
    refine List.filter_eq_self.mpr fun binding member => decide_eq_true fun bound => ?_
    obtain ⟨peer, known, owner⟩ := List.mem_map.mp (wellFormed.known binding member)
    exact others peer known (owner.trans bound)
  exact congrArg₂ (TrustDatabase.mk database.version) peers endpoints

end TrustDatabase

namespace TrustStore

variable {fromCertificate : Certificate → DeviceId} {store : TrustStore} {file : TrustFile}
  {endpoint : String} {deviceId : DeviceId} {fault : Option CommitStep}

/-- What holds of a store between calls, and of the next call without a fault: the database passes
its checks and reloads, forgetting takes the device's entry and bindings and no others, remembering
a known certificate keeps who is listed since when and what is bound, and binding an endpoint keeps
what is bound. -/
structure WellKept (fromCertificate : Certificate → DeviceId) (store : TrustStore) : Prop where
  valid : store.database.validate fromCertificate = .ok ()
  reloads : load fromCertificate store.file = .ok store
  forget : ∀ deviceId,
    (store.forget deviceId none).2.database.peers =
        store.database.peers.filter (fun peer => peer.deviceId ≠ deviceId) ∧
      (store.forget deviceId none).2.database.endpoints =
        store.database.endpoints.filter fun binding => binding.deviceId ≠ deviceId
  remember : ∀ name now, ∀ peer ∈ store.database.peers,
    (store.remember fromCertificate name peer.certificate now none).1 = .ok peer.deviceId ∧
      (store.remember fromCertificate name peer.certificate now none).2.database.endpoints =
        store.database.endpoints ∧
      (store.remember fromCertificate name peer.certificate now none).2.database.peers.map
        TrustedPeer.identity = store.database.peers.map TrustedPeer.identity
  bindEndpoint : ∀ endpoint deviceId, ∀ binding ∈ store.database.endpoints,
    binding ∈ (store.bindEndpoint endpoint deviceId none).2.database.endpoints ∧
      ∀ later ∈ (store.bindEndpoint endpoint deviceId none).2.database.endpoints,
        later.endpoint = binding.endpoint → later = binding

theorem Mirrored.forget_database (mirrored : store.Mirrored fromCertificate) (deviceId : DeviceId) :
    (store.forget deviceId none).2.database = store.database.forgetting deviceId := by
  unfold TrustStore.forget
  split_ifs with same
  · exact (mirrored.wellFormed.forgetting_unlisted same).symm
  · rfl

theorem commit_database (candidate : TrustDatabase) (fault : Option CommitStep) :
    (store.commit candidate fault).2.database = store.database ∨
      (store.commit candidate fault).2.database = candidate := by
  unfold commit
  split
  · exact Or.inr rfl
  · exact Or.inl rfl
  · exact Or.inl rfl

/-- Binding an endpoint keeps the bindings in front. -/
theorem bindEndpoint_endpoints :
    store.database.endpoints <+: (store.bindEndpoint endpoint deviceId
        fault).2.database.endpoints := by
  unfold bindEndpoint
  split_ifs
  · exact List.prefix_refl _
  · split
    · split_ifs
      · exact List.prefix_refl _
      · rcases store.commit_database store.database fault with same | same <;> rw [same]
    · rcases store.commit_database
        { store.database with endpoints := store.database.endpoints ++
        [{ endpoint, deviceId }] } fault
        with same | same <;> rw [same]
      exact List.prefix_append _ _

theorem Mirrored.wellKept (mirrored : store.Mirrored fromCertificate) :
    store.WellKept fromCertificate where
  valid := TrustDatabase.validate_eq_ok.mpr mirrored.wellFormed
  reloads := load_eq_ok.mpr ⟨rfl, mirrored⟩
  forget := by
    intro deviceId
    rw [mirrored.forget_database]
    exact ⟨rfl, rfl⟩
  remember := by
    intro name now peer listed
    have genuine := mirrored.wellFormed.fingerprints peer listed
    rw [TrustStore.remember, mirrored.wellFormed.remembering_known listed]
    refine ⟨congrArg Outcome.ok genuine.symm, rfl, ?_⟩
    exact TrustDatabase.map_refreshPeer fun _ => rfl
  bindEndpoint := by
    intro endpoint deviceId binding bound
    have grows : store.database.endpoints <+:
      (store.bindEndpoint endpoint deviceId none).2.database.endpoints := bindEndpoint_endpoints
    have kept := grows.subset bound
    have after : (store.perform fromCertificate (.bindEndpoint endpoint deviceId) none).2.Mirrored
        fromCertificate := mirrored.perform
    exact ⟨kept, fun later member same =>
      Keyed.Distinct.eq_of_key after.wellFormed.bindings member kept same⟩

/-- A store loaded from an accepted file stays well kept through every sequence of calls. -/
theorem operate_wellKept (loaded : load fromCertificate file = .ok store)
    (operations : List TrustOperation) :
    (store.operate fromCertificate operations).WellKept fromCertificate :=
  ((load_eq_ok.mp loaded).2.operate operations).wellKept

/-- The SHA-256 digest of an empty certificate. -/
def emptyDigest : DeviceId where
  bytes := [0xe3, 0xb0, 0xc4, 0x42, 0x98, 0xfc, 0x1c, 0x14, 0x9a, 0xfb, 0xf4, 0xc8, 0x99, 0x6f,
    0xb9, 0x24, 0x27, 0xae, 0x41, 0xe4, 0x64, 0x9b, 0x93, 0x4c, 0xa4, 0x95, 0x99, 0x1b, 0x78, 0x52,
    0xb8, 0x55]
  length_eq := rfl

/-- A peer is remembered on a fresh store, bound to an endpoint, and remembered again. -/
theorem operate_wellKept_again :
    load (fun _ => emptyDigest) .absent = .ok { database := default, file := .absent } ∧
      WellKept (fun _ => emptyDigest) (operate (fun _ => emptyDigest)
        { database := default, file := .absent }
        [.remember "peer" [] 1, .bindEndpoint "desk:24801" emptyDigest,
          .remember "desk" [] 2]) := by
  have loaded : load (fun _ => emptyDigest) .absent =
      .ok { database := default, file := .absent } := rfl
  exact ⟨loaded, operate_wellKept loaded _⟩

end TrustStore
end Rflow
