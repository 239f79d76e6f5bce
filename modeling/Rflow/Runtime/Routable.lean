import Rflow.Runtime.Failures

/-!
# Online screens of connected devices

The loop marks the screens of another device online only while the device is connected, and resolves
its topologies from these marks.  The supervisor computes topologies from a copy of the marks, so a
published topology can promise a device that is gone when the loop takes it.
-/

namespace Rflow

open Foundation

/-! ## Marks of inventories and topologies -/

/-- The inventory marks a screen of another device online. -/
def ScreenInventory.Marks (inventory : ScreenInventory) (device : TopologyDeviceId) : Prop :=
  ∃ screen ∈ inventory.screens, screen.online = true ∧ screen.thisDevice = false ∧
    screen.deviceId = device

/-- The topology marks a screen of another device online. -/
def ScreenTopology.Marks (topology : ScreenTopology) (device : TopologyDeviceId) : Prop :=
  ∃ node ∈ topology.screens, node.online = true ∧ node.thisDevice = false ∧ node.deviceId = device

section Marks

variable {inventory : ScreenInventory} {topology : ScreenTopology} {device other : TopologyDeviceId}

/-- A resolved topology marks what its inventory marks. -/
theorem ScreenTopology.Marks.of_resolve {layout : ScreenLayout}
    (resolved : layout.resolve inventory = .ok topology) (marks : topology.Marks device) :
    inventory.Marks device := by
  obtain ⟨_, rfl⟩ := ScreenLayout.resolve_eq_ok.mp resolved
  obtain ⟨node, member, online, remote, own⟩ := marks
  obtain ⟨screen, listed, rfl⟩ := List.mem_map.mp member
  exact ⟨screen, listed, online, remote, own⟩

@[simp]
theorem ScreenInventory.marks_fromTopology :
    (ScreenInventory.fromTopology topology).Marks device ↔ topology.Marks device := by
  constructor
  · rintro ⟨screen, member, online, remote, own⟩
    obtain ⟨node, listed, rfl⟩ := List.mem_map.mp member
    exact ⟨node, listed, online, remote, own⟩
  · rintro ⟨node, listed, online, remote, own⟩
    exact ⟨node.descriptor, List.mem_map_of_mem listed, online, remote, own⟩

/-- Putting the screens of a device offline leaves the marks of the other devices. -/
theorem ScreenInventory.Marks.of_onDevice {change : ScreenDescriptor → ScreenDescriptor}
    (offline : ∀ screen, (change screen).online = false)
    (marks : (inventory.onDevice other change).Marks device) :
    device ≠ other ∧ inventory.Marks device := by
  obtain ⟨_, member, online, remote, rfl⟩ := marks
  obtain ⟨screen, listed, rfl⟩ := List.mem_map.mp member
  split_ifs at online remote ⊢ with own
  · simp [offline] at online
  · exact ⟨own, screen, listed, online, remote, rfl⟩

theorem ScreenInventory.Marks.of_markOffline (marks : (inventory.markOffline other).Marks device) :
    device ≠ other ∧ inventory.Marks device :=
  marks.of_onDevice fun _ => rfl

/-- A report marks screens of the reporting device only. -/
theorem ScreenInventory.Marks.of_mergeRemoteInventory {peer : PeerSummary}
    {report : ReportedScreens} (marks : (mergeRemoteInventory inventory peer report).Marks device) :
    device = peer.deviceId.topologyId ∨ inventory.Marks device := by
  have folded {screens : List WireScreenDescriptor} {base : ScreenInventory}
      (marks : (screens.foldl (mergeRemoteScreen peer.displayName peer.deviceId.topologyId)
        base).Marks device) : device = peer.deviceId.topologyId ∨ base.Marks device := by
    induction screens generalizing base with
    | nil => exact Or.inr marks
    | cons screen screens induction =>
        rcases induction marks with own | ⟨_, member, online, remote, rfl⟩
        · exact Or.inl own
        · rcases mem_upsert member with rfl | old | ⟨_, _, _, rfl⟩
          · exact Or.inl rfl
          · exact Or.inr ⟨_, old, online, remote, rfl⟩
          · exact Or.inl rfl
  exact (folded marks).imp_right fun base => (base.of_onDevice fun _ => rfl).2

/-- The screens of this device are no marks. -/
theorem ScreenInventory.Marks.of_mergeLocalInventory {deviceName : String} {deviceId : DeviceId}
    {screens : List DetectedScreen}
    (marks : (mergeLocalInventory inventory deviceName deviceId screens).Marks device) :
    inventory.Marks device := by
  have folded {screens : List DetectedScreen} {base : ScreenInventory}
      (marks : (screens.foldl (mergeLocalScreen deviceName deviceId.topologyId)
          base).Marks device) :
      base.Marks device := by
    induction screens generalizing base with
    | nil => exact marks
    | cons screen screens induction =>
        obtain ⟨_, member, online, remote, own⟩ := induction marks
        rcases mem_upsert member with rfl | old | ⟨_, _, _, rfl⟩
        · cases remote
        · exact ⟨_, old, online, remote, own⟩
        · cases remote
  exact ((folded marks).of_onDevice fun _ => rfl).2

/-- A host starts without marks. -/
theorem not_marks_reconcileDiscoveredInventory {deviceName : String} {deviceId : DeviceId}
    {screens : List DetectedScreen} :
    ¬ (reconcileDiscoveredInventory inventory deviceName deviceId screens).Marks device := by
  intro marks
  obtain ⟨_, member, online, _⟩ := marks.of_mergeLocalInventory
  obtain ⟨_, _, rfl⟩ := List.mem_map.mp member
  cases online

end Marks

namespace Host

variable {primitives : Primitives} {config : HostConfig} {closed : Finset Nat} {host next : Host}
  {outputs : List HostOutput} {stored : StoredLayout}

/-- The inventory and the topology of the loop mark connected devices only. -/
structure Current (host : Host) : Prop where
  inventory : ∀ device, host.inventory.Marks device → device ∈ host.peers
  topology : ∀ device, host.topology.Marks device → device ∈ host.peers

/-- A refresh resolves the topology from the inventory. -/
theorem Refreshed.current (refreshed : Refreshed closed stored host next outputs)
    (inventory : ∀ device, host.inventory.Marks device → device ∈ host.peers) : next.Current := by
  have same := refreshed.sameConnections
  obtain ⟨layout, _, _, resolved⟩ := refreshed.resolved
  constructor
  · rw [refreshed.inventory]
    exact fun device marks => same.mem_iff.mpr (inventory device marks)
  · exact fun device marks => same.mem_iff.mpr (inventory device (marks.of_resolve resolved))

theorem start_current {direction : Option ScreenDirection} {state : TopologyState}
    {trust : TrustDatabase} {screens : List DetectedScreen} {x y : Int}
    (starts : start primitives config direction state trust screens x y = .ok host) :
    host.Current := by
  simp only [start, Outcome.bind_eq_ok, Outcome.mapErr_eq_ok, Outcome.pure_eq,
    Outcome.ok.injEq] at starts
  obtain ⟨_, _, _, resolved, _, _, _, _, rfl⟩ := starts
  exact ⟨fun device marks => (not_marks_reconcileDiscoveredInventory marks).elim,
    fun device marks => (not_marks_reconcileDiscoveredInventory (marks.of_resolve resolved)).elim⟩

/-- What moves the peers but not the marks keeps a loop current. -/
theorem Current.of_eq (current : host.Current) (inventory : next.inventory = host.inventory)
    (topology : next.topology = host.topology) (mem : ∀ device, device ∈ host.peers →
        device ∈ next.peers) :
    next.Current := by
  constructor
  · rw [inventory]
    exact fun device marks => mem device (current.inventory device marks)
  · rw [topology]
    exact fun device marks => mem device (current.topology device marks)

theorem Current.captured (current : host.Current) {event : Outcome String CapturedEvent}
    (returned : (host.captured closed event).Returns outputs next) : next.Current := by
  obtain ⟨_, _, _, _, same, _, sameNext⟩ := captured_returns returned
  exact current.of_eq (by rw [sameNext]) (by rw [sameNext]) fun device => same.mem_iff.mpr

/-- Removing a device removes its marks. -/
theorem Current.erase (current : host.Current) {removed device : TopologyDeviceId}
    (marks : (host.inventory.markOffline removed).Marks device) :
    device ∈ host.peers.erase removed := by
  obtain ⟨different, marks⟩ := marks.of_markOffline
  exact AList.mem_erase.mpr ⟨different, current.inventory device marks⟩

theorem Current.disconnected (current : host.Current) {device : TopologyDeviceId}
    {remote : SocketAddr}
    (returned : (host.disconnected closed device remote stored).Returns outputs next) :
    next.Current := by
  rcases disconnected_returns returned with ⟨_, rfl, _⟩ | ⟨_, _, _, _, _, refreshed⟩
  · exact current
  · exact refreshed.current fun _ => current.erase

theorem Current.forgotten (current : host.Current) {deviceId : DeviceId}
    (returned : (host.forgotten closed deviceId stored).Returns outputs next) : next.Current := by
  obtain ⟨_, _, _, _, _, _, refreshed⟩ := forgotten_returns returned
  exact refreshed.current fun _ => current.erase

theorem Current.inventoryReported (current : host.Current) {device : TopologyDeviceId}
    {remote : SocketAddr} {screens : ReportedScreens}
    (listed : ∀ peer, host.peers.lookup device = some peer →
        peer.summary.deviceId.topologyId = device)
    (returned : (host.inventoryReported closed device remote screens stored).Returns outputs next) :
    next.Current := by
  rcases inventoryReported_returns returned with ⟨_, rfl, _⟩ | ⟨peer, _, _,
    present, _, _, _, refreshed⟩
  · exact current
  · refine refreshed.current fun other marks => ?_
    rcases marks.of_mergeRemoteInventory with rfl | old
    · rw [listed peer present]
      exact AList.lookup_isSome.mp (by simp [present])
    · exact current.inventory other old

theorem Current.refreshScreens (current : host.Current) {detected : Option (List DetectedScreen)}
    (returned : (host.refreshScreens primitives config closed detected stored).Returns
        outputs next) :
    next.Current := by
  rcases refreshScreens_returns returned with ⟨rfl, _⟩ | ⟨_, _, _, _, _, refreshed⟩
  · exact current
  · exact refreshed.current fun device marks =>
      current.inventory device marks.of_mergeLocalInventory

theorem Current.heartbeat (current : host.Current) {detected : Option (List DetectedScreen)}
    (returned : (host.heartbeat primitives config closed detected stored).Returns outputs next) :
    next.Current := by
  obtain ⟨middle, _, _, _, _, refreshed, rfl⟩ := heartbeat_returns returned
  exact (current.refreshScreens refreshed).of_eq rfl rfl fun _ =>
    (sameConnections_beat middle.peers).mem_iff.mpr

/-- The only branch that takes a topology over from outside. -/
theorem Current.topologyUpdated (current : host.Current) {topology : ScreenTopology}
    (connected : ∀ device, topology.Marks device → device ∈ host.peers)
    (returned : (host.topologyUpdated closed topology stored).Returns outputs next) :
    next.Current := by
  obtain ⟨_, _, _, _, executed, sameNext⟩ := topologyUpdated_returns returned
  have same := (executeHostEffectsMulti_returns executed).1
  constructor
  · rw [sameNext]
    exact fun device marks => same.mem_iff.mpr (current.inventory device marks)
  · rw [sameNext]
    exact fun device marks => same.mem_iff.mpr (connected device marks)

theorem Current.admitPeer (current : host.Current) {prepared : PreparedPeer}
    (admitted : Admitted host next prepared outputs) : next.Current := by
  obtain ⟨before, same, inserted⟩ := admitted.peers
  have inventory (device : TopologyDeviceId) (marks : next.inventory.Marks device) :
      device ∈ next.peers := by
    rw [admitted.inventory] at marks
    rw [inserted, AList.mem_insert, same.mem_iff]
    exact marks.of_mergeRemoteInventory.imp_right (current.inventory device)
  obtain ⟨layout, resolved⟩ := admitted.resolved
  exact ⟨inventory, fun device marks => inventory device (marks.of_resolve resolved)⟩

theorem Current.accepted (current : host.Current) {files : TopologyFiles} {trustFile : TrustFile}
    {incoming : Incoming}
    (returned : (host.accepted primitives config closed files trustFile stored incoming).Returns
      outputs next) : next.Current := by
  have sameService {later : Host} (same : host.SameService later) : later.Current :=
    current.of_eq same.inventory same.topology fun _ member => same.peers ▸ member
  rcases accepted_returns returned with ⟨same, _⟩ |
    ⟨_, _, _, _, _, _, _, _, _, _, same, _, _, admitted, _⟩
  · exact sameService same
  · exact (sameService same).admitPeer admitted

/-- Every peer is listed under its own device. -/
def Listed (host : Host) : Prop :=
  ∀ device peer, host.peers.lookup device = some peer → peer.summary.deviceId.topologyId = device

theorem Listed.accepted (listed : host.Listed) {files : TopologyFiles} {trustFile : TrustFile}
    {incoming : Incoming}
    (returned : (host.accepted primitives config closed files trustFile stored incoming).Returns
      outputs next) : next.Listed := by
  intro device peer present
  rcases accepted_returns returned with ⟨same, _⟩ |
    ⟨prepared, _, _, _, _, _, _, _, _, _, same, _, _, admitted, _⟩
  · rw [same.peers] at present
    exact listed device peer present
  · obtain ⟨before, sameBefore, inserted⟩ := admitted.peers
    rw [inserted] at present
    by_cases own : device = prepared.peer.summary.deviceId.topologyId
    · rw [own, AList.lookup_insert, Option.some.injEq] at present
      rw [← present, own]
    · rw [AList.lookup_insert_ne own] at present
      obtain ⟨old, found, summary, _⟩ := sameBefore.back present
      rw [same.peers] at found
      rw [← summary]
      exact listed device old found

end Host

namespace World

variable {primitives : Primitives} {config : HostConfig} {world after : World} {host next : Host}
  {outputs : List HostOutput} {turn : LoopTurn} {input : WorldInput}

/-! ## The loop routes to connected devices -/

/-- Every device that the routing topology of the session marks online is connected. -/
def Routable (world : World) : Prop :=
  ∀ host router localScreen device, world.host = .running host →
    host.session.router = some (.topology router localScreen) → router.topology.Marks device →
      device ∈ host.peers

/-- A step fails for a device that is not connected only when a screen of the device is one of this
machine's own. -/
def Reachable (primitives : Primitives) (config : HostConfig) (world : World) (input : WorldInput) :
    Prop :=
  ∀ outputs after host last device, world.step primitives config input = .ok (outputs, after) →
    world.host = .running host → after.host = .ended last (.notConnected device) →
      ∃ node ∈ host.topology.screens, node.deviceId = device ∧ node.thisDevice = true

/-- A published topology that the loop takes marks only devices that are connected by then. -/
def Checked (world : World) : WorldInput → Prop
  | .turn (.takeTopology _) =>
      ∀ host topology device, world.host = .running host → world.published = some topology →
        topology.Marks device → device ∈ host.peers
  | _ => True

/-- What holds of the loop while the topologies that it takes are checked. -/
structure Consistent (world : World) : Prop where
  inStep : InStep world
  listed : ∀ host, world.host = .running host → host.Listed
  current : ∀ host, world.host = .running host → host.Current

theorem Consistent.current_turn (consistent : Consistent world)
    (running : world.host = .running host) (checked : Checked world (.turn turn))
    (turned : world.turn primitives config host turn = .ok (outputs, after))
    (resumed : after.host = .running next) : next.Current := by
  have current := consistent.current host running
  obtain ⟨queue, branch, turns, returned, _⟩ := turn_running turned resumed
  cases turns with
  | accept => exact current.accepted returned
  | capture => exact current.captured returned
  | takeNotice => exact current.disconnected returned
  | takeReport => exact current.inventoryReported (consistent.listed host running _) returned
  | takeForget => exact current.forgotten returned
  | heartbeat => exact current.heartbeat returned
  | @takeTopology topology _ published =>
      exact current.topologyUpdated (fun device => checked host topology device running published)
        returned

theorem Consistent.step (consistent : Consistent world) (checked : Checked world input)
    (stepped : world.step primitives config input = .ok (outputs, after)) : Consistent after := by
  refine ⟨consistent.inStep.step stepped, fun next resumed => ?_, fun next resumed => ?_⟩
  · cases input with
    | neighbour neighbour =>
        exact consistent.listed next (neighbourStep_host (step_neighbour stepped).1 ▸ resumed)
    | turn turn =>
        obtain ⟨host, running, turned⟩ := step_turn stepped
        by_cases accepts : ∃ incoming stored, turn = .accept incoming stored
        · obtain ⟨incoming, stored, rfl⟩ := accepts
          exact (consistent.listed host running).accepted (turn_accept turned resumed).1
        · obtain ⟨_, _, kept, _⟩ := turn_kept
            (fun incoming stored same => accepts ⟨incoming, stored, same⟩) turned resumed
          intro device peer present
          obtain ⟨old, found, summary, _⟩ := kept.peers present
          rw [← summary]
          exact consistent.listed host running device old found
  · cases input with
    | neighbour neighbour =>
        exact consistent.current next (neighbourStep_host (step_neighbour stepped).1 ▸ resumed)
    | turn turn =>
        obtain ⟨host, running, turned⟩ := step_turn stepped
        exact consistent.current_turn running checked turned resumed

theorem Consistent.routable (consistent : Consistent world) : Routable world := by
  intro host router localScreen device running routes marks
  obtain ⟨_, other, synced, sameTopology, _⟩ := consistent.inStep host running
  obtain ⟨rfl, _⟩ : other = router ∧ _ := by simpa [synced.routes] using routes
  exact (consistent.current host running).topology device (sameTopology ▸ marks)

/-- An event is sent to an online screen, and so to a device that is connected or to this
machine. -/
theorem Consistent.reachable (consistent : Consistent world) :
    Reachable primitives config world input := by
  intro outputs after host last device stepped running ended
  obtain ⟨turn, rfl, blames⟩ := consistent.inStep.ended stepped running ended
  cases blames with
  | internal internal => exact internal.elim
  | cut _ _ names => rcases names with absurd | absurd <;> cases absurd
  | beat _ ofClosed =>
      obtain ⟨_, _, _, _, absurd⟩ := ofClosed
      cases absurd
  | absent captures sends found absent names =>
      rename_i occurred screenId node
      obtain rfl := RuntimeError.notConnected.inj names
      obtain ⟨localScreen, oriented⟩ := consistent.inStep host running
      have online := oriented.online_of_sends sends
      rw [ScreenTopology.Online, found] at online
      refine ⟨node, ScreenTopology.find_mem found, rfl, ?_⟩
      by_contra remote
      exact absent ((consistent.current host running).topology node.deviceId
        ⟨node, ScreenTopology.find_mem found, online, Bool.eq_false_iff.mpr remote, rfl⟩)

end World
end Rflow
