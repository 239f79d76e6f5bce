import Rflow.Runtime.Routable

/-!
# Snapshots of the supervisor

Between its steps the supervisor holds an inventory or a topology that it took from the files, and a
published topology waits until the loop takes it.  Each is a promise that the devices it marks
online are connected, and a device that leaves in between breaks the promise.
-/

namespace Rflow

open Foundation

namespace Host

variable {primitives : Primitives} {config : HostConfig} {closed : Finset Nat} {host next : Host}
  {outputs : List HostOutput} {stored : StoredLayout} {gone : TopologyDeviceId → Prop}

/-- A turn removes no peers but those that are gone, and saves the inventory when it removes any. -/
structure Spares (host next : Host) (outputs : List HostOutput) (gone : TopologyDeviceId → Prop) :
    Prop where
  peers : ∀ device ∈ host.peers, device ∈ next.peers ∨ gone device
  saves : .inventoryFile next.inventory ∈ outputs ∨ ∀ device ∈ host.peers, device ∈ next.peers
  only : ∀ inventory, .inventoryFile inventory ∈ outputs → inventory = next.inventory

theorem Spares.of_kept (kept : host.Kept next outputs)
    (peers : ∀ device ∈ host.peers, device ∈ next.peers) : host.Spares next outputs gone :=
  ⟨fun device member => Or.inl (peers device member), Or.inr peers, kept.inventoryFile⟩

/-- A refresh after a device was removed. -/
theorem Spares.of_refreshed (kept : host.Kept next outputs) {removed : TopologyDeviceId}
    {inventory : ScreenInventory} {first : List HostOutput} (isGone : gone removed)
    (refreshed : Refreshed closed stored
      { host with peers := host.peers.erase removed, inventory } next first)
    (early : ∀ output ∈ first, output ∈ outputs) : host.Spares next outputs gone := by
  obtain ⟨passing, sameFirst, _⟩ := refreshed.outputs_eq
  refine ⟨fun device member => ?_, Or.inl (early _ (sameFirst ▸ List.mem_cons_self)),
    kept.inventoryFile⟩
  by_cases same : device = removed
  · exact Or.inr (same ▸ isGone)
  · exact Or.inl (refreshed.sameConnections.mem_iff.mpr (AList.mem_erase.mpr ⟨same, member⟩))

theorem captured_spares {event : Outcome String CapturedEvent}
    (returned : (host.captured closed event).Returns outputs next) :
    host.Spares next outputs gone := by
  obtain ⟨_, _, _, _, same, _⟩ := captured_returns returned
  exact .of_kept (captured_kept returned) fun device => same.mem_iff.mpr

theorem disconnected_spares {device : TopologyDeviceId} {remote : SocketAddr}
    (isGone : ((host.peers.lookup device).any fun peer => peer.connection.remoteAddress = remote) =
      true → gone device)
    (returned : (host.disconnected closed device remote stored).Returns outputs next) :
    host.Spares next outputs gone := by
  have kept := disconnected_kept returned
  rcases disconnected_returns returned with ⟨_, rfl, _⟩ | ⟨current, _, _, rfl, _, refreshed⟩
  · exact .of_kept kept fun _ => id
  · exact .of_refreshed kept (isGone current) refreshed fun _ => List.mem_append_left _

theorem inventoryReported_spares {device : TopologyDeviceId} {remote : SocketAddr}
    {screens : ReportedScreens}
    (returned : (host.inventoryReported closed device remote screens stored).Returns outputs next) :
    host.Spares next outputs gone := by
  have kept := inventoryReported_kept returned
  rcases inventoryReported_returns returned with ⟨_, rfl, _⟩ | ⟨_, _, _, _, _, _, _, refreshed⟩
  · exact .of_kept kept fun _ => id
  · exact .of_kept kept fun _ => refreshed.sameConnections.mem_iff.mpr

theorem forgotten_spares {deviceId : DeviceId} (isGone : gone deviceId.topologyId)
    (returned : (host.forgotten closed deviceId stored).Returns outputs next) :
    host.Spares next outputs gone := by
  have kept := forgotten_kept returned
  obtain ⟨closing, first, rest, rfl, _, _, refreshed⟩ := forgotten_returns returned
  exact .of_refreshed kept isGone refreshed fun _ early =>
    List.mem_append_right closing (List.mem_append_left rest early)

theorem heartbeat_spares {detected : Option (List DetectedScreen)}
    (returned : (host.heartbeat primitives config closed detected stored).Returns outputs next) :
    host.Spares next outputs gone := by
  refine .of_kept (heartbeat_kept returned) fun device member => ?_
  obtain ⟨middle, _, _, _, _, refreshed, rfl⟩ := heartbeat_returns returned
  refine (sameConnections_beat middle.peers).mem_iff.mpr ?_
  rcases refreshScreens_returns refreshed with ⟨rfl, _⟩ | ⟨_, _, _, _, _, refreshed⟩
  · exact member
  · exact refreshed.sameConnections.mem_iff.mpr member

theorem topologyUpdated_spares {topology : ScreenTopology}
    (returned : (host.topologyUpdated closed topology stored).Returns outputs next) :
    host.Spares next outputs gone := by
  obtain ⟨_, _, _, _, executed, _⟩ := topologyUpdated_returns returned
  exact .of_kept (topologyUpdated_kept returned) fun _ =>
    (executeHostEffectsMulti_returns executed).1.mem_iff.mpr

theorem accepted_spares {files : TopologyFiles} {trustFile : TrustFile} {incoming : Incoming}
    (returned : (host.accepted primitives config closed files trustFile stored incoming).Returns
      outputs next) : host.Spares next outputs gone := by
  rcases accepted_returns returned with ⟨same, setUp⟩ |
    ⟨_, _, first, rest, _, _, _, _, _, _, same, rfl, setUp, admitted, _⟩
  · have peers (device : TopologyDeviceId) (member : device ∈ host.peers) : device ∈ next.peers :=
      same.peers ▸ member
    exact ⟨fun device member => Or.inl (peers device member), Or.inr peers,
      fun inventory written => (setUp _ written).elim⟩
  · obtain ⟨before, sameBefore, inserted⟩ := admitted.peers
    have peers (device : TopologyDeviceId) (member : device ∈ host.peers) :
        device ∈ next.peers := by
      rw [inserted, AList.mem_insert, sameBefore.mem_iff, same.peers]
      exact Or.inr member
    refine ⟨fun device member => Or.inl (peers device member), Or.inr peers, ?_⟩
    intro inventory written
    rcases List.mem_append.mp written with early | late
    · exact (setUp _ early).elim
    · exact (admitted.inventoryFile inventory).mp late

end Host

namespace World

variable {primitives : Primitives} {config : HostConfig} {world queue after : World}
  {host next : Host} {outputs : List HostOutput} {turn : LoopTurn} {input : WorldInput}
  {device : TopologyDeviceId}

/-! ## Promises -/

/-- The supervisor holds something that marks a screen of the device online, or has published it. -/
inductive Promises (world : World) (device : TopologyDeviceId) : Prop where
  | loaded (revision : Nat) (command : LayoutCommand) (inventory : ScreenInventory)
      (stage : world.supervisor = .loaded revision command inventory)
      (marks : inventory.Marks device)
  | written (topology : ScreenTopology) (stage : world.supervisor = .written topology)
      (marks : topology.Marks device)
  | published (topology : ScreenTopology) (waits : world.published = some topology)
      (marks : topology.Marks device)

/-- The inventory file marks a screen of the device online. -/
def FileMarks (files : TopologyFiles) (device : TopologyDeviceId) : Prop :=
  ∃ inventory, files.inventory = .inventory inventory ∧ inventory.Marks device

/-- The device that a turn removes. -/
def Removes (world : World) (host : Host) (device : TopologyDeviceId) : LoopTurn → Prop
  | .takeNotice _ => ∃ connection notices, world.notices = (device, connection) :: notices ∧
      ((host.peers.lookup device).any fun peer =>
        peer.connection.remoteAddress = connection.remoteAddress) = true
  | .takeForget _ => ∃ deviceId requests, world.forgetRequests = deviceId :: requests ∧
      deviceId.topologyId = device
  | _ => False

/-- No device is removed that the supervisor promises, and no topology of another origin than the
inventory of the loop marks a device that is not connected. -/
def Timely (world : World) : WorldInput → Prop
  | .turn turn => ∀ host device, world.host = .running host → world.Removes host device turn →
      ¬ world.Promises device
  | .neighbour (.replaceTopology _ topology) => ∀ host device, world.host = .running host →
      topology.Marks device → device ∈ host.peers
  | .neighbour (.loadForEdit ..) => ∀ host topology device, world.host = .running host →
      world.files.layout = .legacy topology → topology.Marks device → device ∈ host.peers
  | .neighbour _ => True

/-- Whatever is promised, or marked in the inventory file, is connected. -/
structure Prompt (world : World) : Prop where
  consistent : Consistent world
  promised : ∀ host device, world.host = .running host → world.Promises device → device ∈ host.peers
  filed : ∀ host device, world.host = .running host → FileMarks world.files device →
    device ∈ host.peers

theorem Prompt.checked (prompt : Prompt world) : Checked world input := by
  cases input with
  | neighbour => trivial
  | turn turn =>
      cases turn with
      | takeTopology stored =>
          exact fun host topology device running published marks =>
            prompt.promised host device running (.published topology published marks)
      | _ => trivial

/-- What is promised after a turn was promised by the queue that it leaves. -/
theorem Promises.of_absorbed {queue : World}
    (promises : ({ outputs.foldl absorb queue with host := .running next } : World).Promises
        device) :
    queue.Promises device := by
  cases promises with
  | loaded revision command inventory stage marks =>
      exact .loaded revision command inventory (by rw [← stage, foldl_absorb_supervisor]) marks
  | written topology stage marks =>
      exact .written topology (by rw [← stage, foldl_absorb_supervisor]) marks
  | published topology waits marks =>
      exact .published topology (by rw [← waits, foldl_absorb_published]) marks

/-- A promise is kept by the supervisor or waits to be taken. -/
theorem Promises.mono {later : World} (promises : later.Promises device)
    (supervisor : later.supervisor = world.supervisor)
    (published : ∀ topology, later.published = some topology → world.published = some topology) :
    world.Promises device := by
  cases promises with
  | loaded revision command inventory stage marks =>
      exact .loaded revision command inventory (supervisor ▸ stage) marks
  | written topology stage marks => exact .written topology (supervisor ▸ stage) marks
  | published topology waits marks => exact .published topology (published topology waits) marks

/-- What a turn leaves of the promises, the peers and the inventory file. -/
theorem turn_spares (turned : world.turn primitives config host turn = .ok (outputs, after))
    (resumed : after.host = .running next) :
    host.Spares next outputs (fun device => world.Removes host device turn) ∧
      (∀ device, after.Promises device → world.Promises device) ∧
      ∃ queue, queue.files = world.files ∧
        after = { outputs.foldl absorb queue with host := .running next } := by
  obtain ⟨queue, branch, turns, returned, rfl⟩ := turn_running turned resumed
  cases turns with
  | accept =>
      exact ⟨Host.accepted_spares returned, fun _ promises => promises.of_absorbed, world, rfl, rfl⟩
  | capture =>
      exact ⟨Host.captured_spares returned, fun _ promises => promises.of_absorbed, world, rfl, rfl⟩
  | @takeNotice _ connection notices _ queued =>
      exact ⟨Host.disconnected_spares (fun current => ⟨connection, notices, queued,
        current⟩) returned,
        fun _ promises => promises.of_absorbed.mono rfl fun _ => id,
            { world with notices }, rfl, rfl⟩
  | @takeReport _ _ _ reports =>
      exact ⟨Host.inventoryReported_spares returned,
        fun _ promises => promises.of_absorbed.mono rfl fun _ => id,
            { world with reports }, rfl, rfl⟩
  | @takeForget deviceId forgetRequests _ queued =>
      exact ⟨Host.forgotten_spares ⟨deviceId, forgetRequests, queued, rfl⟩ returned,
        fun _ promises => promises.of_absorbed.mono rfl fun _ => id, { world with forgetRequests },
        rfl, rfl⟩
  | heartbeat =>
      exact ⟨Host.heartbeat_spares returned, fun _ promises => promises.of_absorbed,
        world, rfl, rfl⟩
  | takeTopology =>
      refine ⟨Host.topologyUpdated_spares returned, fun _ promises => ?_,
        { world with published := none }, rfl, rfl⟩
      exact promises.of_absorbed.mono rfl fun _ waits => by cases waits

/-- A turn keeps what is promised connected, unless it removes a device that is promised. -/
theorem Prompt.of_turn (prompt : Prompt world) (running : world.host = .running host)
    (timely : Timely world (.turn turn)) (current : next.Current)
    (turned : world.turn primitives config host turn = .ok (outputs, after))
    (resumed : after.host = .running next) :
    (∀ device, after.Promises device → device ∈ next.peers) ∧
      ∀ device, FileMarks after.files device → device ∈ next.peers := by
  obtain ⟨spares, promises, queue, sameFiles, rfl⟩ := turn_spares turned resumed
  constructor
  · intro device promised
    rcases spares.peers device (prompt.promised host device running (promises device promised)) with
      still | removed
    · exact still
    · exact (timely host device running removed (promises device promised)).elim
  · rintro device ⟨inventory, file, marks⟩
    rw [foldl_absorb_inventory spares.only] at file
    split_ifs at file with saved
    · obtain rfl := InventoryFile.inventory.inj file
      exact current.inventory device marks
    · rw [sameFiles] at file
      rcases spares.saves with absurd | peers
      · exact (saved absurd).elim
      · exact peers device (prompt.filed host device running ⟨inventory, file, marks⟩)

/-! ## The supervisor -/

/-- A stored topology implies the inventory that is stored with it. -/
theorem replace_returns {files written : TopologyFiles} {revision : Nat}
    {topology replaced : ScreenTopology}
    (stores : files.replace revision topology = .ok (replaced, written)) :
    replaced.screens = topology.screens ∧
      written.inventory = .inventory (.fromTopology replaced) := by
  simp only [TopologyFiles.replace, TopologyFiles.saveInventory, Outcome.bind_eq_ok,
    Outcome.mapErr_eq_ok, Outcome.pure_eq, Outcome.ok.injEq, Prod.mk.injEq] at stores
  obtain ⟨_, _, _, _, _, _, _, _, _, ⟨_, _, rfl⟩, rfl, rfl⟩ := stores
  exact ⟨rfl, rfl⟩

/-- What is loaded marks what the inventory file marks, or what a legacy topology marks. -/
theorem loadState_marks {files : TopologyFiles} {state : TopologyState}
    (loads : files.loadState = .ok state) (marks : state.inventory.Marks device) :
    FileMarks files device ∨
      ∃ topology, files.layout = .legacy topology ∧ topology.Marks device := by
  have cached {inventory : ScreenInventory} (held : files.inventory.Holds inventory)
      (marks : inventory.Marks device) : FileMarks files device := by
    obtain ⟨inventoryFile, layoutFile⟩ := files
    cases held with
    | missing =>
        obtain ⟨_, member, _⟩ := marks
        cases member
    | stored inventory => exact ⟨inventory, rfl, marks⟩
  cases TopologyFiles.loadState_eq_ok.mp loads with
  | unplaced inventory held missing => exact Or.inl (cached held marks)
  | current layout inventory held stored wellFormed => exact Or.inl (cached held marks)
  | legacy topology inventory held stored accepted wellFormed =>
      exact Or.inr ⟨topology, stored, ScreenInventory.marks_fromTopology.mp marks⟩

/-- What a step next to the loop leaves of the promises and the inventory file. -/
theorem neighbourStep_promises {neighbour : NeighbourStep} (running : world.host = .running host)
    (prompt : Prompt world) (timely : Timely world (.neighbour neighbour))
    (stepped : world.neighbourStep primitives neighbour = .ok after) :
    (∀ device, after.Promises device → device ∈ host.peers) ∧
      ∀ device, FileMarks after.files device → device ∈ host.peers := by
  have promised {device : TopologyDeviceId} (promises : world.Promises device) :
      device ∈ host.peers := prompt.promised host device running promises
  have filed (device : TopologyDeviceId) : FileMarks world.files device → device ∈ host.peers :=
    prompt.filed host device running
  cases neighbourStep_neighbours stepped with
  | replaced idle stores =>
      obtain ⟨screens, file⟩ := replace_returns stores
      refine ⟨fun device promises => ?_, ?_⟩
      · cases promises with
        | loaded _ _ _ stage => cases stage
        | written topology stage marks =>
            obtain rfl := SupervisorStage.written.inj stage
            rw [ScreenTopology.Marks, screens] at marks
            exact timely host device running marks
        | published topology waits marks => exact promised (.published topology waits marks)
      · rintro device ⟨inventory, found, marks⟩
        obtain rfl := InventoryFile.inventory.inj (file.symm.trans found)
        have marked := ScreenInventory.marks_fromTopology.mp marks
        rw [ScreenTopology.Marks, screens] at marked
        exact timely host device running marked
  | loaded idle loads =>
      refine ⟨fun device promises => ?_, filed⟩
      cases promises with
      | loaded _ _ _ stage marks =>
          obtain ⟨-, -, rfl⟩ := SupervisorStage.loaded.inj stage
          rcases loadState_marks loads marks with marks | ⟨topology, legacy, marks⟩
          · exact filed device marks
          · exact timely host topology device running legacy marks
      | written _ stage => cases stage
      | published topology waits marks => exact promised (.published topology waits marks)
  | @edited revision command inventory _ _ stage applies =>
      obtain ⟨⟨layout, resolved⟩, file⟩ := Host.apply_returns applies
      refine ⟨fun device promises => ?_, ?_⟩
      · cases promises with
        | loaded _ _ _ stage => cases stage
        | written topology written marks =>
            obtain rfl := SupervisorStage.written.inj written
            exact promised (.loaded revision command inventory stage (marks.of_resolve resolved))
        | published topology waits marks => exact promised (.published topology waits marks)
      · rintro device ⟨other, found, marks⟩
        obtain rfl := InventoryFile.inventory.inj (file.symm.trans found)
        exact promised (.loaded revision command inventory stage marks)
  | editFailed =>
      refine ⟨fun device promises => ?_, filed⟩
      cases promises with
      | loaded _ _ _ stage => cases stage
      | written _ stage => cases stage
      | published topology waits marks => exact promised (.published topology waits marks)
  | @publish topology stage =>
      refine ⟨fun device promises => ?_, filed⟩
      cases promises with
      | loaded _ _ _ stage => cases stage
      | written _ stage => cases stage
      | published _ waits marks =>
          obtain rfl := Option.some.inj waits
          exact promised (.written topology stage marks)
  | _ => exact ⟨fun _ promises => promised (promises.mono rfl fun _ => id), filed⟩

theorem Prompt.step (prompt : Prompt world) (timely : Timely world input)
    (stepped : world.step primitives config input = .ok (outputs, after)) : Prompt after := by
  have consistent := prompt.consistent.step prompt.checked stepped
  have both (next : Host) (resumed : after.host = .running next) :
      (∀ device, after.Promises device → device ∈ next.peers) ∧
        ∀ device, FileMarks after.files device → device ∈ next.peers := by
    cases input with
    | turn turn =>
        obtain ⟨host, running, turned⟩ := step_turn stepped
        exact prompt.of_turn running timely (consistent.current next resumed) turned resumed
    | neighbour neighbour =>
        have happened := (step_neighbour stepped).1
        exact neighbourStep_promises (neighbourStep_host happened ▸ resumed) prompt timely happened
  exact ⟨consistent, fun next device resumed => (both next resumed).1 device,
    fun next device resumed => (both next resumed).2 device⟩

/-! ## Whole runs -/

/-- The files when the loop starts: the inventory has just been saved. -/
def saved (host : Host) (files : TopologyFiles) : TopologyFiles :=
  { files with inventory := .inventory host.inventory }

theorem consistent_start {direction : Option ScreenDirection} {state : TopologyState}
    {trust : TrustDatabase} {screens : List DetectedScreen} {x y : Int} {files : TopologyFiles}
    {trustFile : TrustFile}
    (starts : Host.start primitives config direction state trust screens x y = .ok host) :
    Consistent (start host files trustFile) where
  inStep := by
    intro other running
    obtain rfl := HostPhase.running.inj running
    exact Host.start_oriented starts
  listed := by
    intro other running device peer present
    obtain rfl := HostPhase.running.inj running
    rw [Host.start_peers starts, AList.lookup_empty] at present
    cases present
  current := by
    intro other running
    obtain rfl := HostPhase.running.inj running
    exact Host.start_current starts

theorem prompt_start {direction : Option ScreenDirection} {state : TopologyState}
    {trust : TrustDatabase} {screens : List DetectedScreen} {x y : Int} {files : TopologyFiles}
    {trustFile : TrustFile}
    (starts : Host.start primitives config direction state trust screens x y = .ok host) :
    Prompt (start host (saved host files) trustFile) where
  consistent := consistent_start starts
  promised := by
    intro other device _ promises
    cases promises with
    | loaded revision command inventory stage marks => cases stage
    | written topology stage marks => cases stage
    | published topology waits marks => cases waits
  filed := by
    rintro other device running ⟨inventory, file, marks⟩
    obtain rfl := HostPhase.running.inj running
    obtain rfl := InventoryFile.inventory.inj file
    exact (Host.start_current starts).inventory device marks

/-- In every run in which the loop takes no topology that marks a device that has left, it routes to
connected devices only.  It takes none when no device leaves that the supervisor promises. -/
theorem routable_of_checked {direction : Option ScreenDirection} {state : TopologyState}
    {trust : TrustDatabase} {screens : List DetectedScreen} {x y : Int} {files : TopologyFiles}
    {trustFile : TrustFile} {inputs : List WorldInput}
    (starts : Host.start primitives config direction state trust screens x y = .ok host) :
    (Machine.Along (World.step primitives config) Checked (start host (saved host files) trustFile)
        inputs →
      Machine.Throughout (World.step primitives config) Routable
          (start host (saved host files) trustFile) inputs ∧
        Machine.Along (World.step primitives config) (Reachable primitives config)
          (start host (saved host files) trustFile) inputs) ∧
      (Machine.Along (World.step primitives config) Timely (start host (saved host files) trustFile)
          inputs →
        Machine.Along (World.step primitives config) Checked
          (start host (saved host files) trustFile) inputs) := by
  have reachable {world : World} {input : WorldInput} (consistent : Consistent world)
      (_ : Checked world input) : Reachable primitives config world input := consistent.reachable
  have checked {world : World} {input : WorldInput} (prompt : Prompt world)
      (_ : Timely world input) : Checked world input := prompt.checked
  refine ⟨fun checked => ⟨?_, ?_⟩, fun timely => ?_⟩
  · exact .of_along (fun consistent => Consistent.routable consistent)
      (fun consistent checked stepped => Consistent.step consistent checked stepped)
      (consistent_start starts) checked
  · exact .of_invariant reachable
      (fun consistent checked stepped => Consistent.step consistent checked stepped)
      (consistent_start starts) checked
  · exact .of_invariant checked
      (fun prompt timely stepped => Prompt.step prompt timely stepped) (prompt_start starts) timely

/-- An edit of the layout that changes no link. -/
def sampleEdit : LayoutCommand :=
  .unlink ⟨(sampleScreen 2 "desk" true true).screenId, .top⟩

/-- The sample device connects, the layout is edited, and the device leaves. -/
def samplePrompt : List WorldInput :=
  [sampleAccept (sampleConnection 0 50000),
    .neighbour (.loadForEdit 0 sampleEdit),
    .neighbour .writeEdit,
    .neighbour .publish,
    .turn (.takeTopology (.ok (sampleLayout true))),
    .neighbour (.close 0),
    .neighbour (.watch ((sampleDeviceId 1).topologyId, sampleConnection 0 50000)),
    .turn (.takeNotice (.ok (sampleLayout true)))]

/-- The device leaves before the edited topology is published and taken. -/
def sampleLate : List WorldInput :=
  [sampleAccept (sampleConnection 0 50000),
    .neighbour (.loadForEdit 0 sampleEdit),
    .neighbour .writeEdit,
    .neighbour (.close 0),
    .neighbour (.watch ((sampleDeviceId 1).topologyId, sampleConnection 0 50000)),
    .turn (.takeNotice (.ok (sampleLayout true))),
    .neighbour .publish,
    .turn (.takeTopology (.ok (sampleLayout true)))]

/-- An edited topology is taken while the device is connected, and gone again when the device
leaves. -/
theorem routable_of_checked_prompt :
    ∃ host, sampleHost sampleTrust = .ok host ∧
      Machine.Throughout (World.step samplePrimitives sampleConfig) Routable
          (start host (saved host sampleFiles) (.database sampleTrust)) samplePrompt ∧
        Machine.Along (World.step samplePrimitives sampleConfig)
          (Reachable samplePrimitives sampleConfig)
          (start host (saved host sampleFiles) (.database sampleTrust)) samplePrompt := by
  have facts : ((sampleHost sampleTrust).any fun host =>
      (Machine.run (World.step samplePrimitives sampleConfig)
        (start host (saved host sampleFiles) (.database sampleTrust)) (samplePrompt.take 1)).any
          fun entered =>
            decide (entered.2.files.layout = .current (sampleLayout true)) &&
              (Machine.run (World.step samplePrimitives sampleConfig) entered.2
                (samplePrompt.drop 1).dropLast).any fun result =>
                  decide (result.2.supervisor = .idle) && decide (result.2.published = none)) =
      true := by decide +kernel
  obtain ⟨host, starts, facts⟩ := Outcome.any_eq_true.mp facts
  refine ⟨host, starts, ?_⟩
  obtain ⟨routable, checked⟩ := routable_of_checked starts
  refine routable (checked ?_)
  obtain ⟨⟨_, entered⟩, enters, facts⟩ := Outcome.any_eq_true.mp facts
  obtain ⟨current, facts⟩ := Bool.and_eq_true_iff.mp facts
  obtain ⟨⟨_, last⟩, ran, facts⟩ := Outcome.any_eq_true.mp facts
  obtain ⟨idle, waits⟩ := Bool.and_eq_true_iff.mp facts
  obtain ⟨_, _, _, accepts, entry, _⟩ := Machine.run_cons_eq_ok.mp enters
  obtain ⟨_, rfl⟩ := Prod.mk.inj (Outcome.ok.inj entry)
  obtain ⟨_, _, _, loads, ran, _⟩ := Machine.run_cons_eq_ok.mp ran
  obtain ⟨_, _, _, writes, ran, _⟩ := Machine.run_cons_eq_ok.mp ran
  obtain ⟨_, _, _, publishes, ran, _⟩ := Machine.run_cons_eq_ok.mp ran
  obtain ⟨_, _, _, takes, ran, _⟩ := Machine.run_cons_eq_ok.mp ran
  obtain ⟨_, _, _, closes, ran, _⟩ := Machine.run_cons_eq_ok.mp ran
  obtain ⟨_, _, _, watches, ran, _⟩ := Machine.run_cons_eq_ok.mp ran
  obtain ⟨_, rfl⟩ := Prod.mk.inj (Outcome.ok.inj ran)
  refine (Machine.along_cons accepts).mpr ⟨fun _ _ _ removes => False.elim removes, ?_⟩
  refine (Machine.along_cons loads).mpr ⟨fun _ topology _ _ legacy => ?_, ?_⟩
  · rw [of_decide_eq_true current] at legacy
    cases legacy
  refine (Machine.along_cons writes).mpr ⟨trivial, (Machine.along_cons publishes).mpr ⟨trivial, ?_⟩⟩
  refine (Machine.along_cons takes).mpr ⟨fun _ _ _ removes => False.elim removes, ?_⟩
  refine (Machine.along_cons closes).mpr ⟨trivial, (Machine.along_cons watches).mpr ⟨trivial, ?_⟩⟩
  refine ⟨fun _ _ _ _ promises => ?_, fun _ _ _ => trivial⟩
  cases promises with
  | loaded _ _ _ stage => cases (of_decide_eq_true idle).symm.trans stage
  | written _ stage => cases (of_decide_eq_true idle).symm.trans stage
  | published _ published => cases (of_decide_eq_true waits).symm.trans published

/-- An edited topology that is published late brings the screens of a device back that has left. -/
theorem late_topology_marks_gone_device :
    ∃ host outputs after,
      sampleHost sampleTrust = .ok host ∧
        Machine.run (World.step samplePrimitives sampleConfig)
          (start host (saved host sampleFiles) (.database sampleTrust)) sampleLate =
            .ok (outputs, after) ∧
        ¬ Routable after := by
  have marked : ((sampleHost sampleTrust).any fun host =>
      (Machine.run (World.step samplePrimitives sampleConfig)
        (start host (saved host sampleFiles) (.database sampleTrust)) sampleLate).any fun result =>
        result.2.host.runs fun host => host.session.routesBy fun router _ =>
          decide ((sampleDeviceId 1).topologyId ∉ host.peers) &&
            router.topology.screens.any fun node =>
              node.online && !node.thisDevice &&
                node.deviceId = (sampleDeviceId 1).topologyId) = true := by decide +kernel
  obtain ⟨host, starts, marked⟩ := Outcome.any_eq_true.mp marked
  obtain ⟨⟨outputs, after⟩, ran, marked⟩ := Outcome.any_eq_true.mp marked
  refine ⟨host, outputs, after, starts, ran, fun routable => ?_⟩
  obtain ⟨running, phase, marked⟩ := HostPhase.runs_eq_true.mp marked
  obtain ⟨router, localScreen, routes, marked⟩ := DesktopSession.routesBy_eq_true.mp marked
  obtain ⟨gone, marks⟩ := Bool.and_eq_true_iff.mp marked
  obtain ⟨node, member, marks⟩ := List.any_eq_true.mp marks
  simp only [Bool.and_eq_true, Bool.not_eq_true', decide_eq_true_eq] at marks
  obtain ⟨⟨online, remote⟩, own⟩ := marks
  exact of_decide_eq_true gone
    (routable running router localScreen _ phase routes ⟨node, member, online, remote, own⟩)

end World
end Rflow
