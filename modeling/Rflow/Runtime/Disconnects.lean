import Rflow.Runtime.Failures

/-!
# Losing the connection of a peer

A closed connection is noticed by a task that sends a notice to the loop.  Until the loop takes the
notice the peer stays in its table, and a write to it ends the loop.  When nothing is written to it
in between, the loop comes to the notice and goes on without the peer.
-/

namespace Rflow

open Foundation

/-! ## The disconnect handler returns -/

section Execution

variable {closed : Finset Nat} {topology : ScreenTopology} {sources : LocalInputSources}
  {peers next : Peers} {Released : ScreenId → Prop} {outputs : List HostOutput}

/-- Where nothing that is released is cut off, effects that send nothing can be carried out. -/
theorem executeHostEffectsMulti_isOk {effects : List SessionEffect}
    (within : ∀ effect ∈ effects, effect.Within (fun _ => False) Released)
    (connected : ∀ screenId device, Released screenId →
        ¬ Cut closed topology peers screenId device) :
    (executeHostEffectsMulti closed topology true sources peers effects).IsOk := by
  induction effects with
  | nil => exact ⟨_, rfl⟩
  | cons effect effects induction =>
      obtain ⟨first, rest⟩ := List.forall_mem_cons.mp within
      obtain ⟨⟨later, final⟩, remaining⟩ := induction rest
      have stepped : ∃ outputs, executeHostEffect closed topology true sources peers effect =
          .ok (outputs, peers) := by
        cases effect with
        | injectLocal | injectLocalMotion | setLocalCursor | controlChanged => exact ⟨_, rfl⟩
        | releaseScreen screenId =>
            simp only [executeHostEffect]
            split
            · rename_i device peer found
              have isOpen : peer.connection.id ∉ closed := fun isClosed =>
                connected screenId device first (cut_of_peerForScreen found isClosed)
              exact ⟨_, Outcome.bind_eq_ok.mpr ⟨_, writeReliable_eq_ok.mpr ⟨isOpen, rfl⟩, rfl⟩⟩
            · exact ⟨_, rfl⟩
        | _ => exact first.elim
      obtain ⟨outputs, stepped⟩ := stepped
      exact ⟨_, Machine.run_cons_eq_ok.mpr ⟨_, _, _, stepped, remaining, rfl⟩⟩

/-- A change of control is announced. -/
theorem notify_of_executeHostEffectsMulti {ready : Bool} {effects : List SessionEffect}
    {control : ControlTarget} (asked : .controlChanged control ∈ effects)
    (executed : executeHostEffectsMulti closed topology ready sources peers effects =
      .ok (outputs, next)) : .notify (.controlChanged control) ∈ outputs := by
  induction effects generalizing peers outputs with
  | nil => cases asked
  | cons effect effects induction =>
      obtain ⟨first, middle, rest, stepped, remaining, rfl⟩ := Machine.run_cons_eq_ok.mp executed
      rw [List.mem_append]
      rcases List.mem_cons.mp asked with rfl | later
      · obtain ⟨rfl, _⟩ := Prod.mk.inj (Outcome.ok.inj stepped)
        exact Or.inl List.mem_cons_self
      · exact Or.inr (induction later remaining)

end Execution

/-- A node of a resolved topology shows an entry of the inventory. -/
theorem mem_screens_of_resolve {layout : ScreenLayout} {inventory : ScreenInventory}
    {topology : ScreenTopology} (resolved : layout.resolve inventory = .ok topology)
    {node : ScreenNode} (member : node ∈ topology.screens) :
    ∃ screen ∈ inventory.screens, layout.resolveScreen screen = node := by
  obtain ⟨_, rfl⟩ := ScreenLayout.resolve_eq_ok.mp resolved
  exact List.mem_map.mp member

/-- The screens of a device are offline. -/
theorem online_of_mem_markOffline {inventory : ScreenInventory} {device : TopologyDeviceId}
    {screen : ScreenDescriptor} (member : screen ∈ (inventory.markOffline device).screens)
    (own : screen.deviceId = device) : screen.online = false := by
  obtain ⟨old, _, rfl⟩ := List.mem_map.mp member
  split_ifs at own ⊢ with marked
  · rfl
  · exact (marked own).elim

/-- A screen that the inventory lists under a device is lost once the device is marked offline. -/
theorem lost_of_markOffline {layout : ScreenLayout} {inventory : ScreenInventory}
    {topology : ScreenTopology} {device : TopologyDeviceId} {screen : ScreenDescriptor}
    (resolved : layout.resolve (inventory.markOffline device) = .ok topology)
    (listed : screen ∈ inventory.screens) (own : screen.deviceId = device) :
    topology.Lost screen.screenId := by
  have wellFormed := ScreenLayout.WellFormed.resolved resolved
  obtain ⟨_, rfl⟩ := ScreenLayout.resolve_eq_ok.mp resolved
  have member : layout.resolveScreen { screen with online := false } ∈
      (inventory.markOffline device).screens.map layout.resolveScreen :=
    List.mem_map_of_mem (List.mem_map.mpr ⟨screen, listed, by simp [own]⟩)
  exact Or.inr (Or.inl ⟨_, wellFormed.find_of_mem member, rfl⟩)

namespace Host

variable {closed : Finset Nat} {host next : Host} {stored : StoredLayout} {router : TopologyRouter}
  {localScreen : ScreenId} {device : TopologyDeviceId} {remote : SocketAddr}
  {outputs : List HostOutput}

/-- The loop can go on without a device: the layout file can be read and fits the inventory, the
screen under the cursor has a positive size, and when it is lost the local screen is online with a
positive size. -/
def Ready (host : Host) (device : TopologyDeviceId) (stored : StoredLayout) : Prop :=
  ∃ layout topology, stored = .ok layout ∧
    layout.resolve (host.inventory.markOffline device) = .ok topology ∧
    ∀ router localScreen, host.session.router = some (.topology router localScreen) →
      topology.Enterable router.active ∧
        (router.active ≠ localScreen → topology.Lost router.active →
          topology.Online localScreen ∧ topology.Enterable localScreen)

/-- What the loop has done when it goes on without a device. -/
structure Removes (host next : Host) (device : TopologyDeviceId) (outputs : List HostOutput) :
    Prop where
  peer : device ∉ next.peers
  others : ∀ other, other ≠ device →
    (next.peers.lookup other).map (fun peer => (peer.summary, peer.connection)) =
      (host.peers.lookup other).map fun peer => (peer.summary, peer.connection)
  inventory : ∀ screen ∈ next.inventory.screens, screen.deviceId = device → screen.online = false
  topology : ∀ node ∈ next.topology.screens, node.deviceId = device → node.online = false
  control : ∀ router localScreen, host.session.router = some (.topology router localScreen) →
    router.active ≠ localScreen →
    (∃ screen ∈ host.inventory.screens, screen.screenId = router.active ∧
        screen.deviceId = device) →
      next.session.control = .localControl ∧ next.session.remoteInjected = ∅ ∧
        (∃ home, next.session.router = some (.topology home localScreen) ∧
          home.active = localScreen) ∧
        .notify (.controlChanged .localControl) ∈ outputs

/-- A refresh returns when each of its steps does. -/
theorem refresh_of_ok {layout : ScreenLayout} {topology : ScreenTopology}
    {effects : List SessionEffect} {session : DesktopSession} {peers : Peers}
    (valid : host.inventory.validate = .ok ()) (loaded : stored = .ok layout)
    (resolved : layout.resolve host.inventory = .ok topology)
    (replaced : host.session.replaceTopology topology = .ok (effects, session))
    (executed : executeHostEffectsMulti closed topology host.capturing
      { current := none, held := host.heldSources } host.peers effects = .ok (outputs, peers)) :
    (host.refresh closed stored).Returns (.inventoryFile host.inventory :: outputs)
      { host with layout, topology, session, peers } := by
  have carried : (({ host with layout, topology } : Host).carryOut closed none
      (effects, session)).Returns outputs { host with layout, topology, session, peers } :=
    Traced.returns_bind.mpr ⟨outputs, peers, [], Traced.returns_emit.mpr executed, ⟨rfl, rfl⟩,
      (List.append_nil outputs).symm⟩
  have installed : (({ host with layout } : Host).install closed topology).Returns outputs
      { host with layout, topology, session, peers } :=
    Traced.returns_bind.mpr ⟨[], (effects, session), outputs,
      Traced.returns_lift.mpr ⟨Outcome.mapErr_eq_ok.mpr replaced, rfl⟩, carried, rfl⟩
  have saved : (saveInventory host.inventory).Returns [.inventoryFile host.inventory] ⟨⟩ :=
    saveInventory_returns.mpr ⟨valid, rfl⟩
  refine Traced.returns_bind.mpr ⟨_, _, outputs, saved, ?_, rfl⟩
  refine Traced.returns_bind.mpr ⟨[], layout, outputs,
    Traced.returns_lift.mpr ⟨Outcome.mapErr_eq_ok.mpr loaded, rfl⟩, ?_, rfl⟩
  exact Traced.returns_bind.mpr ⟨[], topology, outputs,
    Traced.returns_lift.mpr ⟨Outcome.mapErr_eq_ok.mpr resolved, rfl⟩, installed, rfl⟩

/-- The disconnect handler returns when the loop is ready for it and the screen that the cursor
leaves is not cut off. -/
theorem disconnected_of_ready (routed : host.session.Routed router localScreen)
    (capturing : host.capturing = true) (ready : host.Ready device stored)
    (current : ((host.peers.lookup device).any fun peer =>
      peer.connection.remoteAddress = remote) = true)
    (connected : ∀ layout topology screenId other, stored = .ok layout →
      layout.resolve (host.inventory.markOffline device) = .ok topology →
        host.session.Leaves topology screenId →
          ¬ Cut closed topology (host.peers.erase device) screenId other) :
    ∃ outputs next, (host.disconnected closed device remote stored).Returns outputs next := by
  obtain ⟨layout, topology, loaded, resolved, takesOver⟩ := ready
  have valid : (host.inventory.markOffline device).validate = .ok () :=
    ScreenInventory.validate_eq_ok.mpr (ScreenLayout.resolve_eq_ok.mp resolved).1.ids
  have validTopology : topology.validate = .ok () :=
    ScreenTopology.validate_eq_ok.mpr (ScreenLayout.WellFormed.resolved resolved)
  obtain ⟨⟨effects, session⟩, replaced⟩ :=
    (DesktopSession.replaceTopology_isOk_iff routed.routes validTopology).mpr
      (takesOver router localScreen routed.routes)
  have executes : (executeHostEffectsMulti closed topology true
      { current := none, held := host.heldSources } (host.peers.erase device) effects).IsOk :=
    executeHostEffectsMulti_isOk (routed.replaceTopology_within replaced) fun screenId
        other leaves =>
      connected layout topology screenId other loaded resolved leaves
  obtain ⟨⟨outputs, peers⟩, executed⟩ := executes
  rw [← capturing] at executed
  have refreshed : (({ host with
      peers := host.peers.erase device
      inventory := host.inventory.markOffline device } : Host).refresh closed stored).Returns _ _ :=
    refresh_of_ok valid loaded resolved replaced executed
  unfold disconnected
  rw [if_pos current]
  exact ⟨_, _, Traced.returns_bind.mpr ⟨_, _, _, refreshed, ⟨rfl, rfl⟩, rfl⟩⟩

/-- A disconnect handler that returns removes the device. -/
theorem disconnected_removes (routed : host.session.Routed router localScreen)
    (current : ((host.peers.lookup device).any fun peer =>
      peer.connection.remoteAddress = remote) = true)
    (returned : (host.disconnected closed device remote stored).Returns outputs next) :
    host.Removes next device outputs := by
  rcases disconnected_returns returned with ⟨mismatch, _⟩ | ⟨_, first, rest, rfl, _, refreshed⟩
  · simp [current] at mismatch
  obtain ⟨layout, _, _, resolved⟩ := refreshed.resolved
  obtain ⟨effects, replaced, passing, executed, rfl⟩ := refreshed.replaced
  have same := refreshed.sameConnections
  refine ⟨?_, ?_, ?_, ?_, ?_⟩
  · rw [same.mem_iff]
    exact fun member => AList.mem_erase.mp member |>.1 rfl
  · intro other different
    rw [same other, AList.lookup_erase_ne different]
  · rw [refreshed.inventory]
    exact fun screen member => online_of_mem_markOffline member
  · intro node member own
    obtain ⟨screen, listed, rfl⟩ := mem_screens_of_resolve resolved member
    exact online_of_mem_markOffline listed own
  · rintro active home routes away ⟨screen, listed, shown, own⟩
    obtain ⟨rfl, rfl⟩ : router = active ∧ localScreen = home := by
      simpa [routed.routes] using routes
    have lost : next.topology.Lost router.active := shown ▸ lost_of_markOffline resolved listed own
    have notRoutable := DesktopSession.activeStillRoutable_eq_false_iff.mpr lost
    obtain ⟨_, _, recovered, _, ⟨_, _, atHome, x, y, returns⟩ | ⟨stays, _⟩⟩ :=
      DesktopSession.replaceTopology_cases routed.routes replaced
    · obtain ⟨rfl, session⟩ := Prod.mk.inj returns
      have announced : .notify (.controlChanged .localControl) ∈ passing :=
        notify_of_executeHostEffectsMulti (by simp) executed
      rw [session]
      exact ⟨rfl, rfl, ⟨recovered, rfl, atHome⟩, List.mem_append_left _
        (List.mem_cons_of_mem _ announced)⟩
    · rcases stays with atHome | routable
      · exact (away atHome).elim
      · simp [notRoutable] at routable

end Host

/-- The sample device connects, its connection closes, and the host takes the notice. -/
def sampleLoss : List WorldInput :=
  [sampleAccept (sampleConnection 0 50000), .neighbour (.close 0),
    .neighbour (.watch ((sampleDeviceId 1).topologyId, sampleConnection 0 50000)),
    .turn (.takeNotice (.ok (sampleLayout true)))]

namespace World

variable {primitives : Primitives} {config : HostConfig} {world after : World} {host next : Host}
  {outputs : List HostOutput} {turn : LoopTurn}

/-! ## Every connection is watched -/

/-- A task waits for its connection to close, or has sent its notice. -/
def Awaits (world : World) (task : PeerTask) : Prop :=
  task ∈ world.watchers ∨ task ∈ world.notices

/-- While there are peers inputs are captured, and the end of each of their connections is
awaited. -/
def Watched (world : World) : Prop :=
  ∀ host device peer, world.host = .running host → host.peers.lookup device = some peer →
    host.capturing = true ∧ world.Awaits (device, peer.connection)

theorem Awaits.neighbour {neighbour : NeighbourStep} {task : PeerTask} (awaits : world.Awaits task)
    (stepped : world.neighbourStep primitives neighbour = .ok after) : after.Awaits task := by
  cases neighbourStep_neighbours stepped with
  | @watch other =>
      simp only [Awaits, List.mem_append, List.mem_singleton]
      by_cases same : task = other
      · exact Or.inr (Or.inr same)
      · rw [List.mem_erase_of_ne same]
        exact awaits.imp_right Or.inl
  | _ => exact awaits

/-- Only the notice branch takes a notice. -/
theorem turn_notices (other : ∀ stored, turn ≠ .takeNotice stored)
    (turned : world.turn primitives config host turn = .ok (outputs, after)) :
    after.notices = world.notices := by
  have settled {queue : World} {resume : Host → HostPhase}
      {branch : Traced HostOutput RuntimeError Host}
      (ended : queue.settle host resume branch = (outputs, after))
      (same : queue.notices = world.notices) : after.notices = world.notices := by
    obtain ⟨_, rfl⟩ := Prod.mk.inj ended
    rw [← same]
    exact foldl_absorb_notices queue branch.outputs
  rcases turn_cases turned with ⟨_, ended⟩ | ⟨queue, branch, turns, ended⟩
  · exact settled ended rfl
  · cases turns with
    | @takeNotice _ _ _ stored => exact (other stored rfl).elim
    | _ => exact settled ended rfl

/-- What a turn spawns or has awaited before is awaited after it. -/
theorem awaits_of_turn {queue : World} {task : PeerTask}
    (watchers : queue.watchers = world.watchers)
    (awaits : task ∈ world.watchers ∨ task ∈ queue.notices ∨ .spawnTasks task.1 task.2 ∈ outputs) :
    ({ outputs.foldl absorb queue with host := .running next } : World).Awaits task := by
  simp only [Awaits, mem_foldl_absorb_watchers, foldl_absorb_notices, watchers]
  tauto

theorem Watched.accept {incoming : Incoming} {stored : StoredLayout} (watched : Watched world)
    (running : world.host = .running host)
    (returned : (host.accepted primitives config world.closed world.files world.trustFile stored
      incoming).Returns outputs next) :
    Watched { outputs.foldl absorb world with host := .running next } := by
  intro resumed device peer phase present
  obtain rfl := HostPhase.running.inj phase
  have earlier {old : HostPeer} (found : host.peers.lookup device = some old)
      (connection : old.connection = peer.connection) :
      host.capturing = true ∧
        ({ outputs.foldl absorb world with host := .running next } : World).Awaits
          (device, peer.connection) := by
    obtain ⟨capturing, awaits⟩ := watched host device old running found
    rw [connection] at awaits
    exact ⟨capturing, awaits_of_turn rfl (awaits.imp_right Or.inl)⟩
  rcases Host.accepted_returns returned with ⟨same, _⟩ |
    ⟨prepared, middle, first, rest, _, _, _, _, _, _, same, rfl, _, admitted, _⟩
  · rw [same.peers] at present
    rw [same.capturing]
    exact earlier present rfl
  · refine ⟨admitted.capturing, ?_⟩
    obtain ⟨before, sameBefore, inserted⟩ := admitted.peers
    rw [inserted] at present
    by_cases own : device = prepared.peer.summary.deviceId.topologyId
    · rw [own, AList.lookup_insert, Option.some.injEq] at present
      subst present
      refine awaits_of_turn rfl (Or.inr (Or.inr (List.mem_append_right _ ?_)))
      exact (admitted.tasks _ _).mpr ⟨own, rfl⟩
    · rw [AList.lookup_insert_ne own] at present
      obtain ⟨old, found, _, connection⟩ := sameBefore.back present
      rw [same.peers] at found
      exact (earlier found connection).2

/-- The notice branch takes the notice of a connection together with its peer. -/
theorem Watched.notice {stored : StoredLayout} (watched : Watched world)
    (running : world.host = .running host)
    (turned : world.turn primitives config host (.takeNotice stored) = .ok (outputs, after)) :
    Watched after := by
  intro resumed device peer phase present
  obtain ⟨_, _, turns, returned, rfl⟩ := turn_running turned phase
  cases turns with
  | @takeNotice noticed connection notices _ queued =>
      have kept := Host.disconnected_kept returned
      obtain ⟨old, found, _, sameConnection⟩ := kept.peers present
      obtain ⟨capturing, awaits⟩ := watched host device old running found
      rw [sameConnection] at awaits
      refine ⟨kept.capturing.trans capturing, awaits_of_turn rfl ?_⟩
      have different : (device, peer.connection) ≠ (noticed, connection) := by
        intro same
        obtain ⟨rfl, sameAddress⟩ := Prod.mk.inj same
        rcases Host.disconnected_returns returned with ⟨mismatch, _⟩ | ⟨_, _, _, _, _, refreshed⟩
        · simp [found, sameConnection, sameAddress] at mismatch
        · obtain ⟨_, gone, _⟩ := refreshed.sameConnections.back present
          rw [AList.lookup_erase] at gone
          cases gone
      rcases awaits with waiting | sent
      · exact Or.inl waiting
      · rw [queued] at sent
        exact Or.inr (Or.inl ((List.mem_cons.mp sent).resolve_left different))

theorem Watched.step {input : WorldInput} (watched : Watched world)
    (stepped : world.step primitives config input = .ok (outputs, after)) : Watched after := by
  cases input with
  | neighbour neighbour =>
      obtain ⟨moved, _⟩ := step_neighbour stepped
      intro host device peer running present
      obtain ⟨capturing, awaits⟩ :=
        watched host device peer (neighbourStep_host moved ▸ running) present
      exact ⟨capturing, awaits.neighbour moved⟩
  | turn turn =>
      obtain ⟨host, running, turned⟩ := step_turn stepped
      by_cases notices : ∃ stored, turn = .takeNotice stored
      · obtain ⟨stored, rfl⟩ := notices
        exact watched.notice running turned
      by_cases accepts : ∃ incoming stored, turn = .accept incoming stored
      · obtain ⟨incoming, stored, rfl⟩ := accepts
        intro next device peer resumed
        obtain ⟨returned, rfl⟩ := turn_accept turned resumed
        exact watched.accept running returned next device peer resumed
      intro next device peer resumed present
      have sameNotices := turn_notices (fun stored same => notices ⟨stored, same⟩) turned
      obtain ⟨queue, around, kept, rfl⟩ := turn_kept
        (fun incoming stored same => accepts ⟨incoming, stored, same⟩) turned resumed
      obtain ⟨old, found, _, connection⟩ := kept.peers present
      obtain ⟨capturing, awaits⟩ := watched host device old running found
      rw [connection] at awaits
      refine ⟨kept.capturing.trans capturing, awaits_of_turn around.watchers ?_⟩
      rw [foldl_absorb_notices] at sameNotices
      rw [sameNotices]
      exact awaits.imp_right Or.inl

/-- Once the connection of a peer is closed, its notice is on the way: it is sent, or can be sent
now. -/
def Noticed (primitives : Primitives) (world : World) : Prop :=
  ∀ host device peer, world.host = .running host → host.peers.lookup device = some peer →
    peer.connection.id ∈ world.closed →
      (device, peer.connection) ∈ world.notices ∨
        ∃ after, world.neighbourStep primitives (.watch (device, peer.connection)) = .ok after ∧
          (device, peer.connection) ∈ after.notices

theorem Watched.noticed (watched : Watched world) : Noticed primitives world := by
  intro host device peer running present isClosed
  rcases (watched host device peer running present).2 with waiting | sent
  · refine Or.inr ⟨_, if_pos ⟨waiting, isClosed⟩, ?_⟩
    exact List.mem_append_right _ List.mem_cons_self
  · exact Or.inl sent

/-! ## Surviving a disconnect -/

section Statements

variable (primitives : Primitives) (config : HostConfig)

/-- A turn does not depend on a peer that is gone: nothing is written to a closed connection, no
event goes to a device that is not connected, and the loop is ready for the notice that it takes. -/
structure TurnSpares (world : World) (host : Host) (turn : LoopTurn) : Prop where
  reached : ∀ topology peers screenId device,
    Reaches primitives config world host turn topology peers screenId →
      ¬ Cut world.closed topology peers screenId device
  beat : ∀ refreshed stored device peer, turn = .heartbeat refreshed stored →
    host.peers.lookup device = some peer → peer.connection.id ∉ world.closed
  sent : ∀ occurred screenId node, turn = .capture (.ok occurred) →
    host.session.Sends occurred.sessionEvent screenId → host.topology.find screenId = some node →
      node.thisDevice = false → node.deviceId ∈ host.peers
  ready : ∀ stored device connection notices, turn = .takeNotice stored →
    world.notices = (device, connection) :: notices →
      ((host.peers.lookup device).any fun peer =>
        peer.connection.remoteAddress = connection.remoteAddress) = true →
        host.Ready device stored

/-- A step of a neighbour, or a turn that does not depend on a peer that is gone. -/
def Spares (world : World) : WorldInput → Prop
  | .turn turn => ∀ host, world.host = .running host → world.TurnSpares primitives config host turn
  | .neighbour _ => True

/-- A step does not end the loop because of a peer, and the notice of a current peer removes it. -/
structure Survives (world : World) (input : WorldInput) (outputs : List HostOutput)
    (after : World) : Prop where
  goesOn : ∀ host last error, world.host = .running host → after.host = .ended last error →
    error.Internal ∨
      ∃ node ∈ host.topology.screens, node.thisDevice = true ∧ error = .notConnected node.deviceId
  removes : ∀ host device connection notices stored, world.host = .running host →
    input = .turn (.takeNotice stored) → world.notices = (device, connection) :: notices →
      ((host.peers.lookup device).any fun peer =>
        peer.connection.remoteAddress = connection.remoteAddress) = true →
        ∃ next, after.host = .running next ∧ host.Removes next device outputs

end Statements

/-- A turn that spares the peers that are gone does not end the loop because of one. -/
theorem TurnSpares.goesOn (spares : world.TurnSpares primitives config host turn)
    {error : RuntimeError} (blames : TurnBlames primitives config world host turn error) :
    error.Internal ∨
      ∃ node ∈ host.topology.screens,
          node.thisDevice = true ∧ error = .notConnected node.deviceId := by
  cases blames with
  | internal internal => exact Or.inl internal
  | cut reaches cut _ => exact (spares.reached _ _ _ _ reaches cut).elim
  | beat beats ofClosed =>
      obtain ⟨device, peer, present, isClosed, _⟩ := ofClosed
      exact (spares.beat _ _ device peer beats present isClosed).elim
  | absent captures sends found absent names =>
      rename_i occurred screenId node
      refine Or.inr ⟨node, ScreenTopology.find_mem found, ?_, names⟩
      by_contra remote
      exact absent (spares.sent occurred screenId node captures sends found
        (Bool.eq_false_iff.mpr remote))

/-- What holds of the loop and its tasks in every run. -/
structure Attended (world : World) : Prop where
  inStep : InStep world
  watched : Watched world

theorem Attended.step {input : WorldInput} (attended : Attended world)
    (stepped : world.step primitives config input = .ok (outputs, after)) : Attended after :=
  ⟨attended.inStep.step stepped, attended.watched.step stepped⟩

theorem attended_start {direction : Option ScreenDirection} {state : TopologyState}
    {trust : TrustDatabase} {screens : List DetectedScreen} {x y : Int} {files : TopologyFiles}
    {trustFile : TrustFile}
    (starts : Host.start primitives config direction state trust screens x y = .ok host) :
    Attended (start host files trustFile) := by
  constructor
  · intro other running
    obtain rfl := HostPhase.running.inj running
    exact Host.start_oriented starts
  · intro other device peer running present
    obtain rfl := HostPhase.running.inj running
    rw [Host.start_peers starts, AList.lookup_empty] at present
    cases present

theorem Spares.survives {input : WorldInput} (spares : Spares primitives config world input)
    (attended : Attended world)
    (stepped : world.step primitives config input = .ok (outputs, after)) :
    Survives world input outputs after where
  goesOn := by
    intro host last error running ended
    obtain ⟨turn, rfl, blames⟩ := attended.inStep.ended stepped running ended
    exact (spares host running).goesOn blames
  removes := by
    rintro host device connection notices stored running rfl queued current
    have turnSpares := spares host running
    obtain ⟨localScreen, router, synced, _⟩ := attended.inStep host running
    obtain ⟨peer, present, _⟩ := (Option.any_eq_true ..).mp current
    obtain ⟨told, next, returned⟩ := Host.disconnected_of_ready synced.toRouted
      (attended.watched host device peer running present).1
      (turnSpares.ready stored device connection notices rfl queued current) current
      (by
        rintro layout topology screenId other rfl resolved leaves
        exact turnSpares.reached _ _ _ _ (.notice queued current resolved leaves))
    simp only [step, running, turn, queued, settle, returned.2, afterBranch, Outcome.ok.injEq,
      Prod.mk.injEq] at stepped
    obtain ⟨rfl, rfl⟩ := stepped
    refine ⟨next, rfl, ?_⟩
    rw [returned.1]
    exact Host.disconnected_removes synced.toRouted current returned

/-- In every run whose turns do not depend on a peer that is gone, the notice of every closed
connection comes, the loop never ends because of a peer, and the notice removes the peer. -/
theorem disconnect_survived {direction : Option ScreenDirection} {state : TopologyState}
    {trust : TrustDatabase} {screens : List DetectedScreen} {x y : Int} {files : TopologyFiles}
    {trustFile : TrustFile} {inputs : List WorldInput}
    (starts : Host.start primitives config direction state trust screens x y = .ok host)
    (spares : Machine.Along (World.step primitives config) (Spares primitives config)
      (start host files trustFile) inputs) :
    Machine.Throughout (World.step primitives config) (Noticed primitives)
        (start host files trustFile) inputs ∧
      Machine.Along (World.step primitives config)
        (fun world input => ∀ outputs after,
          world.step primitives config input = .ok (outputs, after) →
            Survives world input outputs after)
        (start host files trustFile) inputs := by
  have begins : Attended (start host files trustFile) := attended_start starts
  constructor
  · exact .of_along (fun attended => Watched.noticed (Attended.watched attended))
      (fun attended _ stepped => Attended.step attended stepped) begins spares
  · have survives {world : World} {input : WorldInput} (attended : Attended world)
        (spares : Spares primitives config world input) (outputs : List HostOutput) (after : World)
        (stepped : world.step primitives config input = .ok (outputs, after)) :
        Survives world input outputs after := spares.survives attended stepped
    exact .of_invariant survives (fun attended _ stepped => Attended.step attended stepped) begins
      spares

/-- The host goes on without a device when its connection closes and the notice comes. -/
theorem disconnect_survived_noticed :
    ∃ host, sampleHost sampleTrust = .ok host ∧
      Machine.Throughout (World.step samplePrimitives sampleConfig) (Noticed samplePrimitives)
          (start host sampleFiles (.database sampleTrust)) sampleLoss ∧
        Machine.Along (World.step samplePrimitives sampleConfig)
          (fun world input => ∀ outputs after,
            world.step samplePrimitives sampleConfig input = .ok (outputs, after) →
              Survives world input outputs after)
          (start host sampleFiles (.database sampleTrust)) sampleLoss := by
  have facts : ((sampleHost sampleTrust).any fun host =>
      decide (host.session.activeTopologyScreen = none) &&
        (Machine.run (World.step samplePrimitives sampleConfig)
          (start host sampleFiles (.database sampleTrust)) (sampleLoss.take 3)).any fun result =>
          result.2.host.runs fun before =>
            decide (result.2.notices =
              [((sampleDeviceId 1).topologyId, sampleConnection 0 50000)]) &&
            ((sampleLayout true).resolve
              (before.inventory.markOffline (sampleDeviceId 1).topologyId)).any fun topology =>
              before.session.routesBy fun router localScreen => router.active = localScreen ∧
                (topology.find router.active).any fun node =>
                    node.effectiveSize.Positive) = true := by
    decide +kernel
  obtain ⟨host, starts, facts⟩ := Outcome.any_eq_true.mp facts
  obtain ⟨atHome, facts⟩ := Bool.and_eq_true_iff.mp facts
  obtain ⟨⟨outputs, noticed⟩, ran, facts⟩ := Outcome.any_eq_true.mp facts
  obtain ⟨_, entered, _, accepts, ran, _⟩ := Machine.run_cons_eq_ok.mp ran
  obtain ⟨_, cut, _, closes, ran, _⟩ := Machine.run_cons_eq_ok.mp ran
  obtain ⟨_, _, _, watches, ran, _⟩ := Machine.run_cons_eq_ok.mp ran
  obtain ⟨_, rfl⟩ := Prod.mk.inj (Outcome.ok.inj ran)
  refine ⟨host, starts, disconnect_survived starts ?_⟩
  refine (Machine.along_cons accepts).mpr ⟨?_, (Machine.along_cons closes).mpr
    ⟨trivial, (Machine.along_cons watches).mpr ⟨trivial, ?_, fun _ _ _ => trivial⟩⟩⟩
  · intro other running
    obtain rfl := HostPhase.running.inj running
    refine ⟨?_, fun _ _ _ _ absurd => (by cases absurd), fun _ _ _ absurd => (by cases absurd),
      fun _ _ _ _ absurd => by cases absurd⟩
    rintro _ _ _ _ (_ | ⟨arranges, leaves⟩)
    have active := leaves.1
    rw [arranges.session, of_decide_eq_true atHome] at active
    cases active
  · intro before running
    obtain ⟨current, runs, facts⟩ := HostPhase.runs_eq_true.mp facts
    obtain rfl := HostPhase.running.inj (running.symm.trans runs)
    obtain ⟨queued, facts⟩ := Bool.and_eq_true_iff.mp facts
    obtain ⟨topology, resolved, facts⟩ := Outcome.any_eq_true.mp facts
    obtain ⟨router, localScreen, routes, facts⟩ := DesktopSession.routesBy_eq_true.mp facts
    obtain ⟨home, listed⟩ := of_decide_eq_true facts
    obtain ⟨node, found, positive⟩ := (Option.any_eq_true ..).mp listed
    refine ⟨?_, fun _ _ _ _ absurd => (by cases absurd), fun _ _ _ absurd => (by cases absurd), ?_⟩
    · rintro _ _ _ _ (_ | _ | ⟨_, _, _, leaves⟩)
      exact (((DesktopSession.activeTopologyScreen_eq_some routes).mp leaves.1).1 home).elim
    · rintro stored device connection notices taken again _
      obtain rfl := LoopTurn.takeNotice.inj taken
      obtain ⟨rfl, _⟩ :=
        Prod.mk.inj (List.cons.inj ((of_decide_eq_true queued).symm.trans again)).1
      refine ⟨_, topology, rfl, resolved, fun other otherLocal otherRoutes => ?_⟩
      obtain ⟨rfl, rfl⟩ : router = other ∧ localScreen = otherLocal := by
        simpa [routes] using otherRoutes
      exact ⟨⟨node, found, of_decide_eq_true positive⟩, fun away => (away home).elim⟩

/-- The connection of a peer closes, and the next heartbeat ends the loop before the notice
comes. -/
theorem heartbeat_ends_loop :
    ∃ host outputs cut told after,
      sampleHost sampleTrust = .ok host ∧
        Machine.run (World.step samplePrimitives sampleConfig)
            (start host sampleFiles (.database sampleTrust))
            (sampleLoss.take 2) = .ok (outputs, cut) ∧
        cut.step samplePrimitives sampleConfig (.turn (.heartbeat none (.ok (sampleLayout true)))) =
          .ok (told, after) ∧
        (∃ last, after.host = .ended last (.streamWrite (sampleDeviceId 1).topologyId)) ∧
        ¬ Survives cut (.turn (.heartbeat none (.ok (sampleLayout true)))) told after := by
  have ends : ((sampleHost sampleTrust).any fun host =>
      (Machine.run (World.step samplePrimitives sampleConfig)
        (start host sampleFiles (.database sampleTrust)) (sampleLoss.take 2)).any fun result =>
          (result.2.step samplePrimitives sampleConfig
            (.turn (.heartbeat none (.ok (sampleLayout true))))).any fun later =>
              match later.2.host with
              | .ended _ error => error = .streamWrite (sampleDeviceId 1).topologyId
              | _ => false) = true := by decide +kernel
  obtain ⟨host, starts, ends⟩ := Outcome.any_eq_true.mp ends
  obtain ⟨⟨outputs, cut⟩, ran, ends⟩ := Outcome.any_eq_true.mp ends
  obtain ⟨⟨told, after⟩, stepped, ends⟩ := Outcome.any_eq_true.mp ends
  cases phase : after.host with
  | ended last error =>
      obtain rfl : error = .streamWrite (sampleDeviceId 1).topologyId := by simpa [phase] using ends
      refine ⟨host, outputs, cut, told, after, starts, ran, stepped, ⟨last, phase⟩,
        fun survives => ?_⟩
      obtain ⟨entered, running, _⟩ := step_turn stepped
      rcases survives.goesOn entered last _ running phase with internal | ⟨_, _, _, names⟩
      · exact internal
      · cases names
  | running next => simp [phase] at ends
  | stopped => simp [phase] at ends
  | panicked message => simp [phase] at ends

end World
end Rflow
