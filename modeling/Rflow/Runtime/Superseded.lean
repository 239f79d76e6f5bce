import Rflow.Runtime.WorldSteps

/-!
# Messages of superseded connections

The tasks of a connection outlive it, and their messages name the connection by its device and its
remote address only.  When a device comes back from an address that no pending task or message of it
has, what is left of the superseded connection has no effect.
-/

namespace Rflow

open Foundation

/-- The device of a task has a peer on another connection. -/
def Host.Superseded (host : Host) (task : PeerTask) : Prop :=
  ∃ peer, host.peers.lookup task.1 = some peer ∧ peer.connection ≠ task.2

namespace World

/-- The connections with tasks that have not ended or messages that have not been taken. -/
def pending (world : World) : List PeerTask :=
  world.watchers ++ world.notices ++ world.readers ++ world.reports.map Prod.fst

section Statements

variable (primitives : Primitives) (config : HostConfig)

/-- No device completes a setup from the remote address of a pending connection of its own. -/
def FreshAddress (world : World) : WorldInput → Prop
  | .turn (.accept (.connected attempt) _) =>
      ∀ host certificate, world.host = .running host →
        host.SetsUp primitives config world.trustFile (.connected attempt) →
        peerCertificate attempt.identity = .ok certificate →
        ∀ task ∈ world.pending, task.1 = (primitives.sha256 certificate).topologyId →
          task.2.remoteAddress ≠ attempt.connection.remoteAddress
  | _ => True

/-- The host takes the next notice and the next report of a superseded connection without any change
to its peers, session, topology and inventory. -/
structure Harmless (world : World) : Prop where
  notice : ∀ host task notices stored, world.host = .running host →
    world.notices = task :: notices → host.Superseded task →
    ∃ outputs after next,
      world.step primitives config (.turn (.takeNotice stored)) = .ok (outputs, after) ∧
        after.host = .running next ∧ host.SameService next
  report : ∀ host task screens reports stored, world.host = .running host →
    world.reports = (task, screens) :: reports → host.Superseded task →
    ∃ outputs after next,
      world.step primitives config (.turn (.takeReport stored)) = .ok (outputs, after) ∧
        after.host = .running next ∧ host.SameService next

end Statements

/-- Pending connections that are not those of the current peers differ from them in the address. -/
def Separate (world : World) : Prop :=
  ∀ host, world.host = .running host → ∀ task ∈ world.pending, ∀ peer,
    host.peers.lookup task.1 = some peer →
      peer.connection = task.2 ∨ peer.connection.remoteAddress ≠ task.2.remoteAddress

variable {primitives : Primitives} {config : HostConfig} {world after : World} {host next : Host}
  {outputs : List HostOutput}

theorem mem_pending {task : PeerTask} :
    task ∈ world.pending ↔ task ∈ world.watchers ∨ task ∈ world.notices ∨ task ∈ world.readers ∨
      ∃ screens, (task, screens) ∈ world.reports := by
  simp [pending]

/-- The message of a superseded connection does not match the peer of its device. -/
theorem Separate.mismatch (separate : Separate world) (running : world.host = .running host)
    {task : PeerTask} (member : task ∈ world.pending) (superseded : host.Superseded task) :
    ∃ peer, host.peers.lookup task.1 = some peer ∧
      peer.connection.remoteAddress ≠ task.2.remoteAddress := by
  obtain ⟨peer, present, other⟩ := superseded
  exact ⟨peer, present, (separate host running task member peer present).resolve_left other⟩

theorem Separate.harmless (separate : Separate world) : Harmless primitives config world where
  notice := by
    intro host task notices stored running queued superseded
    obtain ⟨device, connection⟩ := task
    have member : (device, connection) ∈ world.pending := mem_pending.mpr (by simp [queued])
    obtain ⟨peer, present, mismatch⟩ := separate.mismatch running member superseded
    have ignored : host.disconnected world.closed device connection.remoteAddress stored =
        pure host := by
      unfold Host.disconnected
      rw [if_neg (by simpa [present] using mismatch)]
    have stepped : world.step primitives config (.turn (.takeNotice stored)) =
        .ok ({ world with notices }.settle host .running (pure host)) := by
      simp only [step, running, turn, queued, ignored]
    exact ⟨_, _, host, stepped, rfl, rfl, rfl, rfl, rfl, rfl⟩
  report := by
    intro host task screens reports stored running queued superseded
    obtain ⟨device, connection⟩ := task
    have member : (device, connection) ∈ world.pending := mem_pending.mpr (by simp [queued])
    obtain ⟨peer, present, mismatch⟩ := separate.mismatch running member superseded
    have ignored : host.inventoryReported world.closed device connection.remoteAddress
        screens stored = pure host := by
      simp only [Host.inventoryReported, present, if_neg mismatch]
    have stepped : world.step primitives config (.turn (.takeReport stored)) =
        .ok ({ world with reports }.settle host .running (pure host)) := by
      simp only [step, running, turn, queued, ignored]
    exact ⟨_, _, host, stepped, rfl, rfl, rfl, rfl, rfl, rfl⟩

/-- After a turn without new tasks, what is pending was pending before. -/
theorem mem_pending_of_turn {queue : World} (around : Around world queue)
    (noTasks : ∀ device connection, .spawnTasks device connection ∉ outputs) {task : PeerTask}
    (member : task ∈ ({ outputs.foldl absorb queue with host := .running next } : World).pending) :
    task ∈ world.pending := by
  rw [mem_pending] at member ⊢
  simp only [mem_foldl_absorb_watchers, mem_foldl_absorb_readers, foldl_absorb_notices,
    foldl_absorb_reports, around.watchers, around.readers, noTasks, or_false] at member
  rcases member with watching | noticed | reading | ⟨screens, reported⟩
  · exact Or.inl watching
  · exact Or.inr (Or.inl (around.notices.subset noticed))
  · exact Or.inr (Or.inr (Or.inl reading))
  · exact Or.inr (Or.inr (Or.inr ⟨screens, around.reports.subset reported⟩))

/-- A neighbour starts no task of its own. -/
theorem mem_pending_of_neighbour {neighbour : NeighbourStep}
    (stepped : world.neighbourStep primitives neighbour = .ok after) :
    after.host = world.host ∧ ∀ task ∈ after.pending, task ∈ world.pending := by
  refine ⟨neighbourStep_host stepped, fun other member => ?_⟩
  rw [mem_pending] at member ⊢
  cases neighbourStep_neighbours stepped with
  | watch watching =>
      simp only [List.mem_append, List.mem_singleton] at member
      rcases member with erased | (noticed | rfl) | reading
      · exact Or.inl (List.mem_of_mem_erase erased)
      · exact Or.inr (Or.inl noticed)
      · exact Or.inl watching
      · exact Or.inr (Or.inr reading)
  | read reader =>
      simp only [List.mem_append, List.mem_singleton, Prod.mk.injEq] at member
      rcases member with watching | noticed | reading | ⟨report, reported | ⟨rfl, _⟩⟩
      · exact Or.inl watching
      · exact Or.inr (Or.inl noticed)
      · exact Or.inr (Or.inr (Or.inl reading))
      · exact Or.inr (Or.inr (Or.inr ⟨report, reported⟩))
      · exact Or.inr (Or.inr (Or.inl reader))
  | endRead =>
      rcases member with watching | noticed | reading | reported
      · exact Or.inl watching
      · exact Or.inr (Or.inl noticed)
      · exact Or.inr (Or.inr (Or.inl (List.mem_of_mem_erase reading)))
      · exact Or.inr (Or.inr (Or.inr reported))
  | _ => exact member

/-- A new peer from a fresh address is separate from everything that is pending. -/
theorem Separate.accept {incoming : Incoming} {stored : StoredLayout} (separate : Separate world)
    (running : world.host = .running host)
    (fresh : FreshAddress primitives config world (.turn (.accept incoming stored)))
    (returned : (host.accepted primitives config world.closed world.files world.trustFile stored
      incoming).Returns outputs next) :
    Separate { outputs.foldl absorb world with host := .running next } := by
  intro other resumed task member peer present
  obtain rfl := HostPhase.running.inj resumed
  rw [mem_pending] at member
  simp only [mem_foldl_absorb_watchers, mem_foldl_absorb_readers, foldl_absorb_notices,
    foldl_absorb_reports] at member
  rcases Host.accepted_returns returned with ⟨same, ofSetup⟩ |
    ⟨prepared, middle, first, rest, attempt, certificate, rfl, presented, deviceId,
      connection, same, rfl, ofSetup, admitted, setsUp⟩
  · have noTasks : .spawnTasks task.1 task.2 ∉ outputs := fun spawned => ofSetup _ spawned
    simp only [noTasks, or_false] at member
    rw [same.peers] at present
    exact separate host running task (mem_pending.mpr member) peer present
  · have spawned_iff : .spawnTasks task.1 task.2 ∈ first ++ rest ↔
        task.1 = prepared.peer.summary.deviceId.topologyId ∧ task.2 = attempt.connection := by
      have notFirst : .spawnTasks task.1 task.2 ∉ first := fun spawned => ofSetup _ spawned
      rw [List.mem_append, admitted.tasks, connection]
      simp [notFirst]
    have old_or_new : task ∈ world.pending ∨
        task.1 = prepared.peer.summary.deviceId.topologyId ∧ task.2 = attempt.connection := by
      rw [spawned_iff] at member
      rw [mem_pending]
      tauto
    obtain ⟨before, sameBefore, inserted⟩ := admitted.peers
    rw [inserted] at present
    by_cases own : task.1 = prepared.peer.summary.deviceId.topologyId
    · rw [own, AList.lookup_insert, Option.some.injEq] at present
      subst present
      rcases old_or_new with old | ⟨_, new⟩
      · right
        rw [connection]
        exact (fresh host certificate running setsUp presented task old
          (own.trans (by rw [deviceId]))).symm
      · left
        rw [connection, new]
    · rw [AList.lookup_insert_ne own] at present
      obtain ⟨earlier, found, _, sameConnection⟩ := sameBefore.back present
      rw [same.peers] at found
      rw [← sameConnection]
      exact separate host running task (old_or_new.resolve_right fun new => own new.1) earlier found

/-- Separation survives every step that keeps to fresh addresses. -/
theorem Separate.step {input : WorldInput} (separate : Separate world)
    (fresh : FreshAddress primitives config world input)
    (stepped : world.step primitives config input = .ok (outputs, after)) : Separate after := by
  cases input with
  | neighbour neighbour =>
      obtain ⟨moved, _⟩ := step_neighbour stepped
      obtain ⟨sameHost, back⟩ := mem_pending_of_neighbour moved
      intro host running task member
      exact separate host (sameHost ▸ running) task (back task member)
  | turn turn =>
      obtain ⟨host, running, turned⟩ := step_turn stepped
      intro next resumed task member peer present
      by_cases accepts : ∃ incoming stored, turn = .accept incoming stored
      · obtain ⟨incoming, stored, rfl⟩ := accepts
        obtain ⟨returned, rfl⟩ := turn_accept turned resumed
        exact separate.accept running fresh returned next rfl task member peer present
      · obtain ⟨queue, around, kept, rfl⟩ := turn_kept
          (fun incoming stored same => accepts ⟨incoming, stored, same⟩) turned resumed
        obtain ⟨old, found, _, connection⟩ := kept.peers present
        rw [← connection]
        exact separate host running task (mem_pending_of_turn around kept.noTasks member) old found

/-- In every run in which no device comes back from the remote address of a pending connection of
its own, the messages of superseded connections have no effect. -/
theorem superseded_harmless {files : TopologyFiles} {trustFile : TrustFile}
    {inputs : List WorldInput}
    (fresh : Machine.Along (World.step primitives config) (FreshAddress primitives config)
      (start host files trustFile) inputs) :
    Machine.Throughout (World.step primitives config) (Harmless primitives config)
      (start host files trustFile) inputs := by
  have nothingPending : Separate (start host files trustFile) := by
    intro other running task member
    exact absurd member (by simp [pending, start])
  exact .of_along Separate.harmless Separate.step nothingPending fresh

/-- A device that comes back from another port, while its first connection is pending. -/
theorem superseded_harmless_other_port :
    ∃ host, sampleHost sampleTrust = .ok host ∧
      Machine.Throughout (World.step samplePrimitives sampleConfig)
        (Harmless samplePrimitives sampleConfig)
        (start host sampleFiles (.database sampleTrust))
        [sampleAccept (sampleConnection 0 50000), sampleAccept (sampleConnection 1 50001)] := by
  have separatePorts : ((sampleHost sampleTrust).any fun host =>
      ((start host sampleFiles (.database sampleTrust)).step samplePrimitives sampleConfig
        (sampleAccept (sampleConnection 0 50000))).any fun result =>
          result.2.pending.all fun task =>
            task.2.remoteAddress ≠ (sampleConnection 1 50001).remoteAddress) = true := by
    decide +kernel
  obtain ⟨host, started, separatePorts⟩ := Outcome.any_eq_true.mp separatePorts
  refine ⟨host, started, superseded_harmless ⟨?_, fun outputs next stepped => ⟨?_, ?_⟩⟩⟩
  · intro _ _ _ _ _ task member
    exact absurd member (by simp [pending, start])
  · intro _ _ _ _ _ task member _
    simp only [stepped, Outcome.any, List.all_eq_true, decide_eq_true_eq] at separatePorts
    exact separatePorts task member
  · exact fun _ _ _ => trivial

/-- A device comes back from the same address; then the notice of its first connection removes the
peer on the second one. -/
theorem old_notice_removes_new_peer :
    ∃ host outputs final, sampleHost sampleTrust = .ok host ∧
      Machine.run (World.step samplePrimitives sampleConfig)
          (start host sampleFiles (.database sampleTrust))
          [sampleAccept (sampleConnection 0 50000), sampleAccept (sampleConnection 1 50000),
            .neighbour (.watch ((sampleDeviceId 1).topologyId, sampleConnection 0 50000))] =
        .ok (outputs, final) ∧
      ¬ Harmless samplePrimitives sampleConfig final := by
  have removed : ((sampleHost sampleTrust).any fun host =>
      (Machine.run (World.step samplePrimitives sampleConfig)
          (start host sampleFiles (.database sampleTrust))
          [sampleAccept (sampleConnection 0 50000), sampleAccept (sampleConnection 1 50000),
            .neighbour (.watch ((sampleDeviceId 1).topologyId, sampleConnection 0 50000))]).any
        fun result => result.2.host.runs fun before =>
          result.2.notices = [((sampleDeviceId 1).topologyId, sampleConnection 0 50000)] ∧
          (before.peers.lookup (sampleDeviceId 1).topologyId).map HostPeer.connection =
            some (sampleConnection 1 50000) ∧
          (result.2.step samplePrimitives sampleConfig
              (.turn (.takeNotice (.ok (sampleLayout true))))).any fun later =>
            later.2.host.runs fun after =>
              after.peers.lookup (sampleDeviceId 1).topologyId = none) = true := by decide +kernel
  obtain ⟨host, started, ran⟩ := Outcome.any_eq_true.mp removed
  obtain ⟨⟨outputs, final⟩, ran, removed⟩ := Outcome.any_eq_true.mp ran
  refine ⟨host, outputs, final, started, ran, fun harmless => ?_⟩
  obtain ⟨before, phase, removed⟩ := HostPhase.runs_eq_true.mp removed
  obtain ⟨queued, current, removed⟩ := of_decide_eq_true removed
  obtain ⟨peer, present, connection⟩ := Option.map_eq_some_iff.mp current
  obtain ⟨_, _, next, stepped, resumed, same⟩ :=
    harmless.notice before _ [] (.ok (sampleLayout true)) phase queued
      ⟨peer, present, by rw [connection]; decide⟩
  obtain ⟨_, again, removed⟩ := Outcome.any_eq_true.mp removed
  obtain rfl := Outcome.ok.inj (stepped.symm.trans again)
  obtain ⟨after, ends, gone⟩ := HostPhase.runs_eq_true.mp removed
  obtain rfl := HostPhase.running.inj (resumed.symm.trans ends)
  have absent := of_decide_eq_true gone
  rw [same.peers, present] at absent
  cases absent

end World
end Rflow
