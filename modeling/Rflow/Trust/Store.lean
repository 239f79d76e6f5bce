import Rflow.Foundation.Outcome

/-!
# Device identities and the trust store

A device is identified by the digest of its certificate.  The trust store keeps a database of
trusted peers and endpoint bindings in memory and writes the whole database on every change.  The
digest is a parameter; the steps of a commit that touch the file system can fail one at a time.
-/

namespace Rflow

open Foundation

abbrev Certificate := List UInt8

/-- The SHA-256 digest of a certificate. -/
structure DeviceId where
  bytes : List UInt8
  length_eq : bytes.length = 32
  deriving DecidableEq

/-- An upper-case hexadecimal digit. -/
def hexDigit (value : Nat) : Char :=
  if value < 10 then Char.ofNat (48 + value) else Char.ofNat (55 + value)

/-- Two upper-case hexadecimal digits. -/
def hexByte (byte : UInt8) : List Char := [hexDigit (byte.toNat / 16), hexDigit (byte.toNat % 16)]

/-- The pairs of digits of a device id, joined by colons. -/
def DeviceId.display (deviceId : DeviceId) : String :=
  String.ofList ([':'].intercalate (deviceId.bytes.map hexByte))

def trustStoreVersion : Nat := 1

structure TrustedPeer where
  deviceId : DeviceId
  displayName : String
  certificate : Certificate
  firstSeenAt : Nat
  lastSeenAt : Option Nat
  deriving DecidableEq

inductive VerifyPeer where
  | unknown (observed : DeviceId)
  | trusted (observed : DeviceId)
  | identityChanged (expected observed : DeviceId)
  deriving DecidableEq

structure EndpointBinding where
  endpoint : String
  deviceId : DeviceId
  deriving DecidableEq

structure TrustDatabase where
  version : Nat
  peers : List TrustedPeer
  endpoints : List EndpointBinding
  deriving DecidableEq

instance : Inhabited TrustDatabase :=
  ⟨{ version := trustStoreVersion, peers := [], endpoints := [] }⟩

/-- What the trust file holds. -/
inductive TrustFile where
  | absent
  | undecodable
  | database (database : TrustDatabase)
  deriving DecidableEq

/-- The steps of a commit that can fail, in order. -/
inductive CommitStep where
  | createDirectory
  | removeStale
  | createTemporary
  | writeTemporary
  | syncTemporary
  | rename
  | syncDirectory
  deriving DecidableEq

/-- What the error of a failed commit step says. -/
def CommitStep.context : CommitStep → String
  | createDirectory => "create trusted peer directory"
  | removeStale => "remove stale temporary trusted peer store"
  | createTemporary => "create temporary trusted peer store"
  | writeTemporary => "write temporary trusted peer store"
  | syncTemporary => "sync trusted peer store"
  | rename => "atomically replace trusted peer store"
  | syncDirectory => "sync trusted peer directory"

namespace TrustDatabase

/-- Whether the database lists a device as trusted. -/
def lists (database : TrustDatabase) (deviceId : DeviceId) : Bool :=
  database.peers.any fun peer => peer.deviceId = deviceId

/-- Whether an endpoint is bound to a device. -/
def binds (database : TrustDatabase) (deviceId : DeviceId) : Bool :=
  database.endpoints.any fun binding => binding.deviceId = deviceId

variable (fromCertificate : Certificate → DeviceId)

def checkPeers (seen : List DeviceId) : List TrustedPeer → Outcome String Unit
  | [] => .ok ()
  | peer :: rest =>
      if peer.deviceId ≠ fromCertificate peer.certificate then
        .err "trusted peer store contains an invalid device fingerprint"
      else if peer.deviceId ∈ seen then
        .err "trusted peer store contains duplicate devices"
      else
        checkPeers (peer.deviceId :: seen) rest

def checkEndpoints (database : TrustDatabase) (seen : List String) :
    List EndpointBinding → Outcome String Unit
  | [] => .ok ()
  | binding :: rest =>
      if database.lists binding.deviceId = false then
        .err "trusted peer store endpoint references an unknown device"
      else if binding.endpoint ∈ seen then
        .err "trusted peer store contains duplicate endpoints"
      else
        checkEndpoints database (binding.endpoint :: seen) rest

def validate (database : TrustDatabase) : Outcome String Unit := do
  checkPeers fromCertificate [] database.peers
  database.checkEndpoints [] database.endpoints

/-- What a loaded database satisfies. -/
structure WellFormed (database : TrustDatabase) : Prop where
  fingerprints : ∀ peer ∈ database.peers, peer.deviceId = fromCertificate peer.certificate
  distinct : (database.peers.map TrustedPeer.deviceId).Nodup
  known : ∀ binding ∈ database.endpoints,
    binding.deviceId ∈ database.peers.map TrustedPeer.deviceId
  bindings : (database.endpoints.map EndpointBinding.endpoint).Nodup

def verifyCertificate (database : TrustDatabase) (certificate : Certificate) : VerifyPeer :=
  let observed := fromCertificate certificate
  if database.peers.any fun peer => peer.deviceId = observed ∧ peer.certificate = certificate then
    .trusted observed
  else
    .unknown observed

def verifyEndpoint (database : TrustDatabase) (endpoint : String) (certificate : Certificate) :
    VerifyPeer :=
  let observed := fromCertificate certificate
  match database.endpoints.find? fun binding => binding.endpoint = endpoint with
  | some binding =>
      if binding.deviceId = observed then .trusted observed
      else .identityChanged binding.deviceId observed
  | none => .unknown observed

/-- Refresh the first entry of a device. -/
def refreshPeer (deviceId : DeviceId) (displayName : String) (now : Nat) :
    List TrustedPeer → List TrustedPeer
  | [] => []
  | peer :: rest =>
      if peer.deviceId = deviceId then
        { peer with displayName, lastSeenAt := some now } :: rest
      else
        peer :: refreshPeer deviceId displayName now rest

/-- The database that `remember` commits. -/
def remembering (database : TrustDatabase) (displayName : String) (certificate : Certificate)
    (now : Nat) : Outcome String TrustDatabase :=
  let deviceId := fromCertificate certificate
  match database.peers.find? fun peer => peer.deviceId = deviceId with
  | some peer =>
      if peer.certificate ≠ certificate then
        .err "trusted peer fingerprint collision"
      else
        .ok { database with peers := refreshPeer deviceId displayName now database.peers }
  | none =>
      .ok { database with
        peers := database.peers ++
          [{ deviceId, displayName, certificate, firstSeenAt := now, lastSeenAt := none }] }

/-- The database that `forget` commits. -/
def forgetting (database : TrustDatabase) (deviceId : DeviceId) : TrustDatabase :=
  { database with
    peers := database.peers.filter fun peer => peer.deviceId ≠ deviceId
    endpoints := database.endpoints.filter fun binding => binding.deviceId ≠ deviceId }

end TrustDatabase

/-- The copy of the database in the memory of a process, and the file that it commits to. -/
structure TrustStore where
  database : TrustDatabase
  file : TrustFile
  deriving DecidableEq

namespace TrustStore

variable (fromCertificate : Certificate → DeviceId)

/-- The database of a trust file; without a file it is empty. -/
def read : TrustFile → Outcome String TrustDatabase
  | .absent => .ok default
  | .undecodable => .err "decode trusted peer store"
  | .database database => .ok database

def load (file : TrustFile) : Outcome String TrustStore := do
  let database ← read file
  Outcome.require (database.version = trustStoreVersion)
    ("unsupported trusted peer store version " ++ toString database.version)
  database.validate fromCertificate
  pure { database, file }

/-- Write a whole database, unless a step fails: up to the rename the file keeps its contents, and
the memory follows only a commit that succeeds. -/
def commit (store : TrustStore) (candidate : TrustDatabase) :
    Option CommitStep → Outcome String Unit × TrustStore
  | none => (.ok (), { database := candidate, file := .database candidate })
  | some .syncDirectory =>
      (.err CommitStep.syncDirectory.context, { store with file := .database candidate })
  | some step => (.err step.context, store)

def remember (store : TrustStore) (displayName : String) (certificate : Certificate) (now : Nat)
    (fault : Option CommitStep) : Outcome String DeviceId × TrustStore :=
  match store.database.remembering fromCertificate displayName certificate now with
  | .ok candidate =>
      let (committed, store) := store.commit candidate fault
      (committed >>= fun _ => .ok (fromCertificate certificate), store)
  | .err error => (.err error, store)
  | .panic message => (.panic message, store)

def bindEndpoint (store : TrustStore) (endpoint : String) (deviceId : DeviceId)
    (fault : Option CommitStep) : Outcome String Unit × TrustStore :=
  if store.database.lists deviceId = false then
    (.err "cannot bind endpoint to an unknown device", store)
  else
    match store.database.endpoints.find? fun binding => binding.endpoint = endpoint with
    | some binding =>
        if binding.deviceId ≠ deviceId then
          (.err ("endpoint is already bound to " ++ binding.deviceId.display ++
            "; forget that device before pairing a replacement"), store)
        else
          store.commit store.database fault
    | none =>
        store.commit { store.database with
          endpoints := store.database.endpoints ++ [{ endpoint, deviceId }] } fault

def forget (store : TrustStore) (deviceId : DeviceId) (fault : Option CommitStep) :
    Outcome String Bool × TrustStore :=
  if (store.database.forgetting deviceId).peers.length = store.database.peers.length then
    (.ok false, store)
  else
    let (committed, store) := store.commit (store.database.forgetting deviceId) fault
    (committed >>= fun _ => .ok true, store)

def forgetAll (store : TrustStore) (fault : Option CommitStep) : Outcome String Nat × TrustStore :=
  let count := store.database.peers.length
  if count = 0 then
    (.ok 0, store)
  else
    let (committed, store) :=
      store.commit { store.database with peers := [], endpoints := [] } fault
    (committed >>= fun _ => .ok count, store)

end TrustStore

/-! ## Well-formed databases -/

namespace TrustDatabase

variable {fromCertificate : Certificate → DeviceId} {database candidate : TrustDatabase}
  {deviceId : DeviceId} {certificate : Certificate} {name : String} {now : Nat}

theorem lists_iff :
    database.lists deviceId = true ↔ deviceId ∈ database.peers.map TrustedPeer.deviceId := by
  simp only [lists, List.any_eq_true, decide_eq_true_eq, List.mem_map]

theorem checkPeers_eq_ok {seen : List DeviceId} {peers : List TrustedPeer} :
    checkPeers fromCertificate seen peers = .ok () ↔
      (∀ peer ∈ peers, peer.deviceId = fromCertificate peer.certificate) ∧
        (peers.map TrustedPeer.deviceId).Nodup ∧ ∀ peer ∈ peers, peer.deviceId ∉ seen := by
  induction peers generalizing seen with
  | nil => simp [checkPeers]
  | cons peer peers induction =>
      unfold checkPeers
      split_ifs with forged again
      · simp [forged]
      · simp [again]
      · rw [induction]
        simp only [List.forall_mem_cons, List.map_cons, List.nodup_cons]
        constructor
        · rintro ⟨genuine, distinct, fresh⟩
          refine ⟨⟨not_not.mp forged, genuine⟩, ⟨?_, distinct⟩, again, ?_⟩
          · intro repeated
            obtain ⟨other, member, same⟩ := List.mem_map.mp repeated
            exact fresh other member (same ▸ List.mem_cons_self)
          · exact fun other member old => fresh other member (List.mem_cons_of_mem _ old)
        · rintro ⟨⟨_, genuine⟩, ⟨new, distinct⟩, _, fresh⟩
          refine ⟨genuine, distinct, fun other member seenBefore => ?_⟩
          rcases List.mem_cons.mp seenBefore with same | old
          · exact new (List.mem_map.mpr ⟨other, member, same⟩)
          · exact fresh other member old

theorem checkEndpoints_eq_ok {seen : List String} {endpoints : List EndpointBinding} :
    database.checkEndpoints seen endpoints = .ok () ↔
      (∀ binding ∈ endpoints, database.lists binding.deviceId = true) ∧
        (endpoints.map EndpointBinding.endpoint).Nodup ∧
        ∀ binding ∈ endpoints, binding.endpoint ∉ seen := by
  induction endpoints generalizing seen with
  | nil => simp [checkEndpoints]
  | cons binding endpoints induction =>
      unfold checkEndpoints
      split_ifs with unknown again
      · simp [unknown]
      · simp [again]
      · rw [induction]
        simp only [List.forall_mem_cons, List.map_cons, List.nodup_cons]
        constructor
        · rintro ⟨known, distinct, fresh⟩
          refine ⟨⟨Bool.eq_true_of_not_eq_false unknown, known⟩, ⟨?_, distinct⟩, again, ?_⟩
          · intro repeated
            obtain ⟨other, member, same⟩ := List.mem_map.mp repeated
            exact fresh other member (same ▸ List.mem_cons_self)
          · exact fun other member old => fresh other member (List.mem_cons_of_mem _ old)
        · rintro ⟨⟨_, known⟩, ⟨new, distinct⟩, _, fresh⟩
          refine ⟨known, distinct, fun other member seenBefore => ?_⟩
          rcases List.mem_cons.mp seenBefore with same | old
          · exact new (List.mem_map.mpr ⟨other, member, same⟩)
          · exact fresh other member old

/-- The checks accept exactly the well-formed databases. -/
theorem validate_eq_ok :
    database.validate fromCertificate = .ok () ↔ database.WellFormed fromCertificate := by
  unfold validate
  rw [Outcome.check_bind_eq_ok, checkPeers_eq_ok, checkEndpoints_eq_ok]
  constructor
  · rintro ⟨⟨fingerprints, distinct, _⟩, known, bindings, _⟩
    exact ⟨fingerprints, distinct, fun binding member => lists_iff.mp (known binding member),
      bindings⟩
  · rintro ⟨fingerprints, distinct, known, bindings⟩
    exact ⟨⟨fingerprints, distinct, by simp⟩,
      fun binding member => lists_iff.mpr (known binding member), bindings, by simp⟩

theorem wellFormed_of_load {file : TrustFile} {store : TrustStore}
    (loaded : TrustStore.load fromCertificate file = .ok store) :
    store.database.WellFormed fromCertificate := by
  unfold TrustStore.load at loaded
  obtain ⟨database, _, loaded⟩ := Outcome.bind_eq_ok.mp loaded
  obtain ⟨_, loaded⟩ := Outcome.check_bind_eq_ok.mp loaded
  obtain ⟨valid, loaded⟩ := Outcome.check_bind_eq_ok.mp loaded
  obtain rfl := Outcome.ok.inj loaded
  exact validate_eq_ok.mp valid

/-- A binding is of a listed device. -/
theorem WellFormed.not_binds (wellFormed : database.WellFormed fromCertificate)
    (unlisted : database.lists deviceId = false) : database.binds deviceId = false := by
  rw [Bool.eq_false_iff] at unlisted ⊢
  intro bound
  obtain ⟨binding, member, same⟩ := List.any_eq_true.mp bound
  obtain rfl : binding.deviceId = deviceId := of_decide_eq_true same
  exact unlisted (lists_iff.mpr (wellFormed.known binding member))

/-- What refreshing a peer leaves alone stays the same of all peers. -/
theorem map_refreshPeer {α : Type} {feature : TrustedPeer → α} {peers : List TrustedPeer}
    (keeps : ∀ peer : TrustedPeer,
      feature { peer with displayName := name, lastSeenAt := some now } = feature peer) :
    (refreshPeer deviceId name now peers).map feature = peers.map feature := by
  induction peers with
  | nil => rfl
  | cons peer peers induction =>
      unfold refreshPeer
      split_ifs
      · rw [List.map_cons, List.map_cons, keeps]
      · rw [List.map_cons, List.map_cons, induction]

theorem mem_refreshPeer {peers : List TrustedPeer} {peer : TrustedPeer}
    (member : peer ∈ refreshPeer deviceId name now peers) :
    ∃ old ∈ peers, peer.deviceId = old.deviceId ∧ peer.certificate = old.certificate := by
  induction peers with
  | nil => exact absurd member (by simp [refreshPeer])
  | cons first peers induction =>
      unfold refreshPeer at member
      split_ifs at member with own
      · rcases List.mem_cons.mp member with rfl | later
        · exact ⟨first, List.mem_cons_self, rfl, rfl⟩
        · exact ⟨peer, List.mem_cons_of_mem _ later, rfl, rfl⟩
      · rcases List.mem_cons.mp member with rfl | later
        · exact ⟨peer, List.mem_cons_self, rfl, rfl⟩
        · obtain ⟨old, found, same⟩ := induction later
          exact ⟨old, List.mem_cons_of_mem _ found, same⟩

/-- Remembering a certificate lists its device, and changes nothing else about who is listed. -/
theorem remembering_eq_ok
    (remembered : database.remembering fromCertificate name certificate now = .ok candidate) :
    candidate.endpoints = database.endpoints ∧
      ((candidate.peers.map TrustedPeer.deviceId = database.peers.map TrustedPeer.deviceId ∧
          ∀ peer ∈ candidate.peers, ∃ old ∈ database.peers,
            peer.deviceId = old.deviceId ∧ peer.certificate = old.certificate) ∨
        fromCertificate certificate ∉ database.peers.map TrustedPeer.deviceId ∧
          candidate.peers = database.peers ++
            [{ deviceId := fromCertificate certificate, displayName := name, certificate,
               firstSeenAt := now, lastSeenAt := none }]) := by
  simp only [remembering] at remembered
  split at remembered
  · split_ifs at remembered
    obtain rfl := Outcome.ok.inj remembered
    exact ⟨rfl, Or.inl ⟨map_refreshPeer fun _ => rfl, fun peer => mem_refreshPeer⟩⟩
  · rename_i absent
    obtain rfl := Outcome.ok.inj remembered
    refine ⟨rfl, Or.inr ⟨?_, rfl⟩⟩
    intro listed
    obtain ⟨peer, member, same⟩ := List.mem_map.mp listed
    simpa [same] using List.find?_eq_none.mp absent peer member

theorem lists_remembering
    (remembered : database.remembering fromCertificate name certificate now = .ok candidate)
    (other : fromCertificate certificate ≠ deviceId) :
    candidate.lists deviceId = database.lists deviceId := by
  rw [Bool.eq_iff_iff, lists_iff, lists_iff]
  rcases (remembering_eq_ok remembered).2 with ⟨same, _⟩ | ⟨_, same⟩
  · rw [same]
  · simp [same, Ne.symm other]

theorem WellFormed.remembering (wellFormed : database.WellFormed fromCertificate)
    (remembered : database.remembering fromCertificate name certificate now = .ok candidate) :
    candidate.WellFormed fromCertificate := by
  obtain ⟨endpoints, ⟨sameDevices, old⟩ | ⟨fresh, added⟩⟩ := remembering_eq_ok remembered
  · refine ⟨?_, sameDevices ▸ wellFormed.distinct, ?_, endpoints ▸ wellFormed.bindings⟩
    · intro peer member
      obtain ⟨earlier, found, deviceId, certificate⟩ := old peer member
      rw [deviceId, certificate]
      exact wellFormed.fingerprints earlier found
    · rw [endpoints, sameDevices]
      exact wellFormed.known
  · refine ⟨?_, ?_, ?_, endpoints ▸ wellFormed.bindings⟩
    · rw [added]
      intro peer member
      rcases List.mem_append.mp member with earlier | new
      · exact wellFormed.fingerprints peer earlier
      · rw [List.mem_singleton.mp new]
    · rw [added, List.map_append, List.nodup_append]
      refine ⟨wellFormed.distinct, by simp, ?_⟩
      intro device listed new member same
      rw [List.map_singleton, List.mem_singleton] at member
      rw [same, member] at listed
      exact fresh listed
    · rw [endpoints, added, List.map_append]
      exact fun binding member => List.mem_append_left _ (wellFormed.known binding member)

end TrustDatabase

namespace TrustStore

variable {fromCertificate : Certificate → DeviceId} {store next : TrustStore}
  {certificate : Certificate} {name : String} {now : Nat} {fault : Option CommitStep}
  {result : Outcome String DeviceId}

/-- Remembering leaves the store as it is, or writes the new database; the memory follows the file,
or stays behind when the directory cannot be synced. -/
theorem remember_cases
    (remembered : store.remember fromCertificate name certificate now fault = (result, next)) :
    next = store ∨ ∃ candidate,
      store.database.remembering fromCertificate name certificate now = .ok candidate ∧
        next.file = .database candidate ∧
        (next.database = candidate ∨ next.database = store.database) := by
  unfold remember at remembered
  split at remembered
  · rename_i candidate done
    obtain ⟨_, rfl⟩ := Prod.mk.inj remembered
    split
    · exact Or.inr ⟨candidate, done, rfl, Or.inl rfl⟩
    · exact Or.inr ⟨candidate, done, rfl, Or.inr rfl⟩
    · exact Or.inl rfl
  · exact Or.inl (Prod.mk.inj remembered).2.symm
  · exact Or.inl (Prod.mk.inj remembered).2.symm

end TrustStore
end Rflow
