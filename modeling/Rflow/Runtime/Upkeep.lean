import Rflow.Runtime.HostSteps

/-!
# What the branches put out

A branch of the loop touches the trust file and the pairing stream only while it sets a new peer up.
Apart from that, only a new peer and a lost connection change the status of the session.
-/

namespace Rflow

open Foundation

/-- An output that has nothing to do with authorization. -/
def HostOutput.OfService : HostOutput → Prop
  | .trustFile _ | .writePairing .. => False
  | _ => True

/-- An output that has nothing to do with authorization and leaves the status as it is. -/
def HostOutput.OfUpkeep : HostOutput → Prop
  | .trustFile _ | .writePairing .. | .notify (.statusChanged _) => False
  | _ => True

theorem HostOutput.OfUpkeep.service (output : HostOutput) (upkeep : output.OfUpkeep) :
    output.OfService := by
  cases output <;> trivial

theorem HostOutput.OfEffect.upkeep (output : HostOutput) (effect : output.OfEffect) :
    output.OfUpkeep := by
  cases output with
  | notify event => cases event <;> trivial
  | _ => trivial

namespace Host

variable {primitives : Primitives} {config : HostConfig} {closed : Finset Nat} {host : Host}
  {stored : StoredLayout}

theorem carryOut_upkeep {current : Option Nat} {asked : List SessionEffect × DesktopSession} :
    (host.carryOut closed current asked).Emits HostOutput.OfUpkeep := by
  refine .bind (Traced.emits_emit fun outputs peers executed output member => ?_) fun _ => by simp
  exact ((executeHostEffectsMulti_effects executed).2 output member).upkeep

theorem install_upkeep {topology : ScreenTopology} :
    (host.install closed topology).Emits HostOutput.OfUpkeep :=
  .bind (by simp) fun _ => carryOut_upkeep

theorem saveInventory_upkeep {inventory : ScreenInventory} :
    (saveInventory inventory).Emits HostOutput.OfUpkeep :=
  .bind (by simp) fun _ => by simp [HostOutput.OfUpkeep]

theorem refresh_upkeep : (host.refresh closed stored).Emits HostOutput.OfUpkeep :=
  .bind saveInventory_upkeep fun _ => .bind (by simp) fun _ => .bind (by simp) fun _ =>
    install_upkeep

theorem announceTopology_upkeep : host.announceTopology.Emits HostOutput.OfUpkeep := by
  simp [announceTopology, HostOutput.OfUpkeep]

theorem arrange_upkeep {files : TopologyFiles} :
    (host.arrange files stored).Emits HostOutput.OfUpkeep := by
  unfold arrange
  split_ifs
  · simp
  · cases host.direction with
    | none => exact .bind (by simp) fun _ => by simp
    | some direction =>
        exact .bind (by simp) fun _ => .bind (by simp) fun _ =>
          .bind (by simp [HostOutput.OfUpkeep]) fun _ => .bind (by simp) fun _ => by simp

theorem enterPeer_upkeep {peer : HostPeer} :
    (host.enterPeer peer).Emits HostOutput.OfUpkeep := by
  refine .bind ?_ fun _ => .bind (by simp [HostOutput.OfUpkeep]) fun _ => .bind ?_ fun _ => by simp
  · split <;> simp [HostOutput.OfUpkeep]
  · split_ifs <;> simp [HostOutput.OfUpkeep]

theorem admitPeer_service {files : TopologyFiles} {prepared : PreparedPeer} :
    (host.admitPeer closed files stored prepared).Emits HostOutput.OfService := by
  have upkeep {α : Type} {call : Traced HostOutput RuntimeError α}
      (emits : call.Emits HostOutput.OfUpkeep) : call.Emits HostOutput.OfService :=
    emits.mono HostOutput.OfUpkeep.service
  exact .bind (upkeep saveInventory_upkeep) fun _ => .bind (upkeep arrange_upkeep) fun _ =>
    .bind (upkeep install_upkeep) fun _ => .bind (upkeep enterPeer_upkeep) fun _ =>
      .bind (by simp [HostOutput.OfService]) fun _ =>
          .bind (upkeep announceTopology_upkeep) fun _ =>
        .bind (by simp) fun _ => .bind (by simp [HostOutput.OfService]) fun _ =>
          .bind (by simp [HostOutput.OfService]) fun _ => by simp

theorem captured_upkeep {event : Outcome String CapturedEvent} :
    (host.captured closed event).Emits HostOutput.OfUpkeep :=
  .bind (by simp) fun _ => .bind (by simp) fun _ => .bind carryOut_upkeep fun _ => by simp

theorem disconnected_service {device : TopologyDeviceId} {remote : SocketAddr} :
    (host.disconnected closed device remote stored).Emits HostOutput.OfService := by
  unfold disconnected
  split_ifs
  · exact .bind (refresh_upkeep.mono HostOutput.OfUpkeep.service) fun _ =>
      .bind (announceTopology_upkeep.mono HostOutput.OfUpkeep.service) fun _ =>
        .bind (by simp [HostOutput.OfService]) fun _ => by simp
  · simp

theorem inventoryReported_upkeep {device : TopologyDeviceId} {remote : SocketAddr}
    {screens : ReportedScreens} :
    (host.inventoryReported closed device remote screens stored).Emits HostOutput.OfUpkeep := by
  unfold inventoryReported
  split
  · split_ifs
    · exact .bind refresh_upkeep fun _ => .bind announceTopology_upkeep fun _ => by simp
    · simp
  · simp

theorem forgotten_upkeep {deviceId : DeviceId} :
    (host.forgotten closed deviceId stored).Emits HostOutput.OfUpkeep := by
  refine .bind ?_ fun _ => .bind refresh_upkeep fun _ => .bind announceTopology_upkeep
    fun _ => by simp
  split <;> simp [HostOutput.OfUpkeep]

theorem broadcast_upkeep {frame : HostPeer → ReliableEvent} {entries : List PeerEntry}
    {outputs : List HostOutput} (sent : broadcast closed frame entries = .ok outputs) :
    (Traced.tell outputs : Traced HostOutput RuntimeError PUnit).Emits HostOutput.OfUpkeep :=
  fun output member => ((broadcast_returns sent).2 output member).upkeep

theorem refreshScreens_upkeep {detected : Option (List DetectedScreen)} :
    (host.refreshScreens primitives config closed detected stored).Emits HostOutput.OfUpkeep := by
  unfold refreshScreens
  split
  · simp
  · split_ifs
    · exact .bind refresh_upkeep fun _ => .bind_of_ok (by simp) fun _ sent =>
        .bind (broadcast_upkeep sent) fun _ => .bind announceTopology_upkeep fun _ => by simp
    · simp

theorem heartbeat_upkeep {detected : Option (List DetectedScreen)} :
    (host.heartbeat primitives config closed detected stored).Emits HostOutput.OfUpkeep :=
  .bind refreshScreens_upkeep fun _ => .bind_of_ok (by simp) fun _ sent =>
    .bind (broadcast_upkeep sent) fun _ => by simp

theorem topologyUpdated_upkeep {topology : ScreenTopology} :
    (host.topologyUpdated closed topology stored).Emits HostOutput.OfUpkeep :=
  .bind (by simp) fun _ => install_upkeep

theorem finish_upkeep : host.finish.Emits HostOutput.OfUpkeep := by
  refine .bind (fun output member => ?_) fun _ => .bind saveInventory_upkeep fun _ =>
    .bind (by simp) fun _ => .bind (by simp [HostOutput.OfUpkeep]) fun _ => by simp
  obtain ⟨_, _, rfl⟩ := List.mem_map.mp member
  trivial

theorem stop_upkeep : (host.stop closed).Emits HostOutput.OfUpkeep := by
  unfold stop
  split_ifs
  · exact .bind (by simp) fun _ => .bind carryOut_upkeep fun _ => finish_upkeep
  · exact finish_upkeep

/-! ## What a turn says last -/

variable {next : Host} {outputs : List HostOutput}

/-- A lost connection is taken note of, and the status comes last; other notices change nothing. -/
theorem disconnected_status {device : TopologyDeviceId} {remote : SocketAddr}
    (returned : (host.disconnected closed device remote stored).Returns outputs next) :
    (next = host ∧ outputs = []) ∨
      ∃ front, outputs = front ++ [.notify (.statusChanged next.peerStatus)] := by
  unfold disconnected at returned
  split at returned
  · simp only [Traced.returns_bind, announceTopology, Traced.returns_tell,
      Traced.returns_pure] at returned
    obtain ⟨first, middle, _, _, ⟨_, _, _, rfl, ⟨_, _, _, rfl, ⟨rfl, rfl⟩, rfl⟩, rfl⟩, rfl⟩ :=
      returned
    exact Or.inr ⟨first ++ [.notify (.topologyChanged middle.topology),
      .notify (.peerChanged (middle.peers.entries.head?.map fun entry =>
        entry.2.connection.remoteAddress))], by simp⟩
  · obtain ⟨rfl, rfl⟩ := Traced.returns_pure.mp returned
    exact Or.inl ⟨rfl, rfl⟩

/-- Once a peer is admitted, the host says that it is connected. -/
theorem admitPeer_status {files : TopologyFiles} {prepared : PreparedPeer}
    (returned : (host.admitPeer closed files stored prepared).Returns outputs next) :
    ∃ front, outputs = front ++ [.notify (.statusChanged .connected)] := by
  simp only [admitPeer, Traced.returns_bind, Traced.returns_tell, Traced.returns_pure] at returned
  obtain ⟨_, _, _, _, ⟨_, _, _, _, ⟨_, _, _, _, ⟨_, _, _, _, ⟨_, _, _, _, ⟨_, _, _, _, ⟨_, _, _, _,
    ⟨_, _, _, _, ⟨_, _, _, rfl, ⟨rfl, _⟩, rfl⟩, rfl⟩, rfl⟩, rfl⟩, rfl⟩, rfl⟩, rfl⟩, rfl⟩, rfl⟩ :=
        returned
  simp only [List.append_nil, ← List.append_assoc]
  exact ⟨_, rfl⟩

end Host
end Rflow
