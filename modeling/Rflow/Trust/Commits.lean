import Rflow.Trust.Operations

/-!
# Commits that fail

A commit that fails before the rename leaves the file and the memory as they were.  One that fails
after it has already replaced the file, so the call reports a failure while a fresh load reads the
new database.  That is seen exactly when the new database differs from the one before.
-/

namespace Rflow

open Foundation

namespace TrustDatabase

variable {fromCertificate : Certificate → DeviceId} {database candidate : TrustDatabase}
  {operation : TrustOperation} {deviceId : DeviceId} {name : String} {now : Nat}
  {peers : List TrustedPeer} {peer : TrustedPeer}

/-- The database after an operation that succeeds. -/
def after (fromCertificate : Certificate → DeviceId) (database : TrustDatabase)
    (operation : TrustOperation) : TrustDatabase :=
  match database.proposal fromCertificate operation with
  | .ok (some candidate) => candidate
  | _ => database

/-- The operation asks for another database: it remembers a new peer, or a listed one under another
name or at another time, binds a free endpoint to a listed peer, or forgets somebody. -/
def Changes (fromCertificate : Certificate → DeviceId) (database : TrustDatabase) :
    TrustOperation → Prop
  | .remember displayName certificate now =>
      ∀ peer ∈ database.peers, peer.deviceId = fromCertificate certificate →
        peer.certificate = certificate ∧
          ¬ (peer.displayName = displayName ∧ peer.lastSeenAt = some now)
  | .bindEndpoint endpoint deviceId =>
      deviceId ∈ database.peers.map TrustedPeer.deviceId ∧
        endpoint ∉ database.endpoints.map EndpointBinding.endpoint
  | .forget deviceId => deviceId ∈ database.peers.map TrustedPeer.deviceId
  | .forgetAll => database.peers ≠ []

theorem refreshPeer_eq_self_iff (distinct : Keyed.Distinct TrustedPeer.deviceId peers)
    (member : peer ∈ peers) :
    refreshPeer peer.deviceId name now peers = peers ↔
      peer.displayName = name ∧ peer.lastSeenAt = some now := by
  induction peers with
  | nil => cases member
  | cons first rest induction =>
      obtain ⟨fresh, remaining⟩ := List.nodup_cons.mp distinct
      unfold refreshPeer
      rcases List.mem_cons.mp member with rfl | later
      · rw [if_pos rfl, List.cons.injEq, and_iff_left rfl]
        obtain ⟨deviceId, displayName, certificate, firstSeenAt, lastSeenAt⟩ := peer
        simp [eq_comm]
      · have other : first.deviceId ≠ peer.deviceId := fun same =>
          fresh (same ▸ List.mem_map_of_mem later)
        rw [if_neg other, List.cons.injEq, and_iff_right rfl]
        exact induction remaining later

theorem WellFormed.remember_changes_iff (wellFormed : database.WellFormed fromCertificate)
    {certificate : Certificate} :
    database.Changes fromCertificate (.remember name certificate now) ↔
      ∃ candidate, database.remembering fromCertificate name certificate now = .ok candidate ∧
        candidate ≠ database := by
  simp only [Changes, TrustDatabase.remembering]
  cases found : database.peers.find? fun peer => peer.deviceId = fromCertificate certificate with
  | none =>
      have unknown := List.find?_eq_none.mp found
      refine iff_of_true (fun peer member same => ?_) ⟨_, rfl, fun same => ?_⟩
      · exact absurd same (by simpa using unknown peer member)
      · simpa using congrArg (fun database => database.peers.length) same
  | some peer =>
      obtain ⟨member, own⟩ := (Keyed.Distinct.find?_eq_some wellFormed.distinct).mp found
      have only : ∀ other ∈ database.peers, other.deviceId = fromCertificate certificate →
          other = peer := fun other listed same =>
        Keyed.Distinct.eq_of_key wellFormed.distinct listed member (same.trans own.symm)
      dsimp only
      constructor
      · intro changes
        obtain ⟨known, differs⟩ := changes peer member own
        refine ⟨_, if_neg (not_not.mpr known), fun same => differs ?_⟩
        rw [← own] at same
        exact (refreshPeer_eq_self_iff wellFormed.distinct member).mp (congrArg peers same)
      · rintro ⟨candidate, remembered, differs⟩ other listed same
        obtain rfl := only other listed same
        split_ifs at remembered with known
        refine ⟨not_not.mp known, fun unchanged => differs ?_⟩
        have refreshed := (refreshPeer_eq_self_iff wellFormed.distinct member).mpr unchanged
        rw [own] at refreshed
        rw [← Outcome.ok.inj remembered, refreshed]

theorem length_forgetting_iff :
    (database.forgetting deviceId).peers.length = database.peers.length ↔
      deviceId ∉ database.peers.map TrustedPeer.deviceId := by
  unfold forgetting
  rw [List.length_filter_eq_length_iff]
  simp

theorem binding_ne (database : TrustDatabase) (endpoint : String) (deviceId : DeviceId) :
    database.binding endpoint deviceId ≠ database := by
  intro same
  simpa [TrustDatabase.binding] using congrArg (fun database => database.endpoints.length) same

/-- Only an operation that asks for another database proposes one. -/
theorem WellFormed.changes_iff (wellFormed : database.WellFormed fromCertificate) :
    database.Changes fromCertificate operation ↔
      ∃ candidate, database.proposal fromCertificate operation = .ok (some candidate) ∧
        candidate ≠ database := by
  cases operation with
  | remember displayName certificate now =>
      simp [wellFormed.remember_changes_iff, TrustDatabase.proposal, Outcome.bind_eq_ok]
  | bindEndpoint endpoint deviceId =>
      simp only [Changes, TrustDatabase.proposal, ← lists_iff]
      cases listed : database.lists deviceId with
      | false => simp
      | true =>
          cases found : database.endpoints.find? fun binding => binding.endpoint = endpoint with
          | none =>
              have unbound := endpoint_not_mem_of_find?_eq_none found
              exact iff_of_true ⟨rfl, unbound⟩ ⟨_, rfl, binding_ne _ _ _⟩
          | some binding =>
              have bound : endpoint ∈ database.endpoints.map EndpointBinding.endpoint :=
                List.mem_map.mpr ⟨binding, List.mem_of_find?_eq_some found,
                  by simpa using List.find?_some found⟩
              refine iff_of_false (fun changes => changes.2 bound) ?_
              rintro ⟨candidate, proposed, differs⟩
              simp only [Bool.true_eq_false, if_false] at proposed
              split_ifs at proposed
              exact differs (Option.some.inj (Outcome.ok.inj proposed)).symm
  | forget deviceId =>
      simp only [Changes, TrustDatabase.proposal]
      split_ifs with same
      · exact iff_of_false (length_forgetting_iff.mp same) (by simp)
      · refine iff_of_true (not_not.mp fun unlisted => same (length_forgetting_iff.mpr unlisted))
          ⟨_, rfl, fun unchanged => same ?_⟩
        rw [unchanged]
  | forgetAll =>
      simp only [Changes, TrustDatabase.proposal]
      split_ifs with empty
      · exact iff_of_false (not_not.mpr (List.length_eq_zero_iff.mp empty)) (by simp)
      · have listed : database.peers ≠ [] := fun none => empty (List.length_eq_zero_iff.mpr none)
        exact iff_of_true listed ⟨_, rfl, fun same => listed (congrArg peers same).symm⟩

end TrustDatabase

/-- A call of the trust store, and the commit step that fails in it, if one does. -/
structure TrustCall where
  operation : TrustOperation
  fault : Option CommitStep
  deriving DecidableEq

namespace TrustStore

variable {fromCertificate : Certificate → DeviceId} {store : TrustStore} {call : TrustCall}
  {candidate : TrustDatabase} {file : TrustFile}

/-- Calls one after the other; each answers whether it succeeded. -/
def callStep (fromCertificate : Certificate → DeviceId) :
    Machine.Step TrustStore TrustCall (Outcome String Unit) Empty := fun store call =>
  .ok ([(store.perform fromCertificate call.operation call.fault).1],
    (store.perform fromCertificate call.operation call.fault).2)

/-- A call that fails leaves the memory and the file as they were, a call that succeeds changes both
to the new database, and the two agree after either. -/
structure AllOrNothing (fromCertificate : Certificate → DeviceId) (store : TrustStore)
    (call : TrustCall) : Prop where
  failed : ∀ error, (store.perform fromCertificate call.operation call.fault).1 = .err error →
    (store.perform fromCertificate call.operation call.fault).2.database = store.database ∧
      read (store.perform fromCertificate call.operation call.fault).2.file = read store.file
  succeeded : (store.perform fromCertificate call.operation call.fault).1 = .ok () →
    (store.perform fromCertificate call.operation call.fault).2.database =
        store.database.after fromCertificate call.operation ∧
      read (store.perform fromCertificate call.operation call.fault).2.file =
        .ok (store.database.after fromCertificate call.operation)
  agrees : read (store.perform fromCertificate call.operation call.fault).2.file =
    .ok (store.perform fromCertificate call.operation call.fault).2.database

/-- The sync of the directory does not fail in a call that asks for another database. -/
def SyncsChanges (fromCertificate : Certificate → DeviceId) (store : TrustStore)
    (call : TrustCall) : Prop :=
  store.database.Changes fromCertificate call.operation → call.fault ≠ some .syncDirectory

theorem commit_of_ne {step : CommitStep} (before : step ≠ .syncDirectory) :
    store.commit candidate (some step) = (.err step.context, store) := by
  cases step with
  | syncDirectory => exact absurd rfl before
  | _ => rfl

/-- A call that leaves the store alone is all or nothing, unless it claims to have changed it. -/
theorem Mirrored.allOrNothing_of_unchanged (mirrored : store.Mirrored fromCertificate)
    {result : Outcome String Unit}
    (performed : store.perform fromCertificate call.operation call.fault = (result, store))
    (claimed : result = .ok () →
      store.database.after fromCertificate call.operation = store.database) :
    store.AllOrNothing fromCertificate call := by
  constructor
  · rw [performed]
    exact fun _ _ => ⟨rfl, rfl⟩
  · rw [performed]
    intro succeeded
    rw [claimed succeeded]
    exact ⟨rfl, mirrored.file⟩
  · rw [performed]
    exact mirrored.file

/-- A commit whose directory sync fails is all or nothing when it commits what there was before. -/
theorem Mirrored.allOrNothing_of_unsynced_iff (mirrored : store.Mirrored fromCertificate)
    (performed : store.perform fromCertificate call.operation call.fault =
      store.commit candidate (some .syncDirectory)) :
    store.AllOrNothing fromCertificate call ↔ candidate = store.database := by
  constructor
  · intro whole
    have agrees := whole.agrees
    rw [performed] at agrees
    exact Outcome.ok.inj agrees
  · rintro rfl
    constructor
    · rw [performed]
      exact fun _ _ => ⟨rfl, mirrored.file.symm⟩
    · rw [performed]
      intro succeeded
      cases succeeded
    · rw [performed]
      rfl

/-- A call from a store that mirrors its file is all or nothing exactly when it does not fail to
sync the directory for another database. -/
theorem Mirrored.allOrNothing_iff (mirrored : store.Mirrored fromCertificate) :
    store.AllOrNothing fromCertificate call ↔ store.SyncsChanges fromCertificate call := by
  obtain ⟨operation, fault⟩ := call
  rw [SyncsChanges, mirrored.wellFormed.changes_iff]
  have performed : store.perform fromCertificate operation fault = _ := perform_eq
  rcases proposed : store.database.proposal fromCertificate operation with
    (_ | candidate) | error | message
  · rw [proposed] at performed
    refine iff_of_true (mirrored.allOrNothing_of_unchanged performed fun _ => ?_) (by simp)
    rw [TrustDatabase.after, proposed]
  · rw [proposed] at performed
    have after : store.database.after fromCertificate operation = candidate := by
      rw [TrustDatabase.after, proposed]
    by_cases unsynced : fault = some .syncDirectory
    · subst unsynced
      rw [mirrored.allOrNothing_of_unsynced_iff performed]
      simp
    · refine iff_of_true ?_ fun _ => unsynced
      cases fault with
      | none =>
          refine ⟨?_, ?_, ?_⟩
          · rw [performed]
            intro error failed
            cases failed
          · rw [performed, after]
            exact fun _ => ⟨rfl, rfl⟩
          · rw [performed]
            rfl
      | some step =>
          rw [settle, commit_of_ne fun same => unsynced (congrArg some same)] at performed
          exact mirrored.allOrNothing_of_unchanged performed fun succeeded => by cases succeeded
  · rw [proposed] at performed
    exact iff_of_true
      (mirrored.allOrNothing_of_unchanged performed fun succeeded => by cases succeeded) (by simp)
  · rw [proposed] at performed
    exact iff_of_true
      (mirrored.allOrNothing_of_unchanged performed fun succeeded => by cases succeeded) (by simp)

/-- A call that is all or nothing leaves a store that mirrors its file. -/
theorem Mirrored.callStep (mirrored : store.Mirrored fromCertificate)
    (whole : store.AllOrNothing fromCertificate call) :
    (store.perform fromCertificate call.operation call.fault).2.Mirrored fromCertificate := by
  have kept : (store.perform fromCertificate call.operation call.fault).2.database.WellFormed
        fromCertificate ∧
      (store.perform fromCertificate call.operation call.fault).2.database.version =
        store.database.version := by
    rw [perform_eq]
    rcases proposed : store.database.proposal fromCertificate call.operation with
      (_ | candidate) | error | message
    · exact ⟨mirrored.wellFormed, rfl⟩
    · rw [settle]
      rcases store.commit_database candidate call.fault with same | same <;> rw [same]
      · exact ⟨mirrored.wellFormed, rfl⟩
      · exact mirrored.wellFormed.proposal proposed
    · exact ⟨mirrored.wellFormed, rfl⟩
    · exact ⟨mirrored.wellFormed, rfl⟩
  exact ⟨kept.2.trans mirrored.version, kept.1, whole.agrees⟩

/-- In a run of calls from a loaded store, all are all or nothing exactly when none fails to sync
the directory for another database. -/
theorem calls_allOrNothing_iff (loaded : load fromCertificate file = .ok store)
    (calls : List TrustCall) :
    Machine.Along (TrustStore.callStep fromCertificate) (AllOrNothing fromCertificate) store calls ↔
      Machine.Along (TrustStore.callStep fromCertificate) (SyncsChanges fromCertificate) store
        calls := by
  have kept {store next : TrustStore} {call : TrustCall} {outputs : List (Outcome String Unit)}
      (mirrored : store.Mirrored fromCertificate) (_ : True)
      (whole : store.AllOrNothing fromCertificate call)
      (stepped : callStep fromCertificate store call = .ok (outputs, next)) :
      next.Mirrored fromCertificate := by
    obtain ⟨_, rfl⟩ := Prod.mk.inj (Outcome.ok.inj stepped)
    exact mirrored.callStep whole
  exact Machine.along_congr (fun mirrored _ => mirrored.allOrNothing_iff) kept
    (load_eq_ok.mp loaded).2 fun _ _ => trivial

/-- A peer is remembered on a fresh store once the rename has failed. -/
theorem calls_allOrNothing_iff_retried :
    load (fun _ => emptyDigest) .absent = .ok { database := default, file := .absent } ∧
      Machine.Along (callStep fun _ => emptyDigest) (AllOrNothing fun _ => emptyDigest)
        { database := default, file := .absent }
        [⟨.remember "peer" [] 1, some .rename⟩, ⟨.remember "peer" [] 2, none⟩] := by
  have loaded : load (fun _ => emptyDigest) .absent =
      .ok { database := default, file := .absent } := rfl
  refine ⟨loaded, (calls_allOrNothing_iff loaded _).mpr ⟨fun _ => by simp, fun _ _ _ => ?_⟩⟩
  exact ⟨fun _ => by simp, fun _ _ _ => trivial⟩

/-- Nothing is trusted yet. -/
def freshStore : TrustStore where
  database := default
  file := .absent

/-- A peer is remembered, and the directory cannot be synced. -/
def unsyncedRemember : TrustCall := ⟨.remember "peer" [] 1, some .syncDirectory⟩

/-- What the call on a fresh store returns and leaves. -/
def unsyncedResult : Outcome String Unit × TrustStore :=
  freshStore.perform (fun _ => emptyDigest) unsyncedRemember.operation unsyncedRemember.fault

/-- The call fails, nobody is listed in the memory, and the file lists the peer. -/
theorem unsynced_remember_persists :
    load (fun _ => emptyDigest) .absent = .ok freshStore ∧
      unsyncedResult.1 = .err "sync trusted peer directory" ∧ unsyncedResult.2.database.peers = [] ∧
      (read unsyncedResult.2.file).any (fun database => database.lists emptyDigest) = true ∧
      ¬ freshStore.AllOrNothing (fun _ => emptyDigest) unsyncedRemember := by
  refine ⟨rfl, rfl, rfl, rfl, fun whole => ?_⟩
  have agrees := congrArg (Outcome.any fun database => database.lists emptyDigest) whole.agrees
  exact absurd agrees (by decide)

end TrustStore
end Rflow
