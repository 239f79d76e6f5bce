import Rflow.Runtime.Pairing
import Rflow.Store.TopologyStore

/-!
# The loop of the host

The host serves its peers one event at a time.  Each branch of its loop runs to its end before the
next one starts.  The layout file is shared with the supervisor, which writes it at any time, so
what a branch reads back from it is an argument.  The file system, the clock and the input devices
do not fail.
-/

namespace Rflow

open Foundation

/-- What the loop keeps from one turn to the next. -/
structure Host where
  session : DesktopSession
  peers : Peers
  topology : ScreenTopology
  layout : ScreenLayout
  inventory : ScreenInventory
  detectedScreens : List DetectedScreen
  direction : Option ScreenDirection
  capturing : Bool
  heldSources : AList fun _ : HeldInput => Nat
  trust : TrustDatabase
  limiter : PairingRateLimiter

inductive CapturedEvent where
  | input (source : Nat) (event : InputEvent)
  | motion (source : Nat) (motion : Motion)
  deriving DecidableEq

namespace CapturedEvent

/-- The device that the event came from. -/
def source : CapturedEvent → Nat
  | .input source _ | .motion source _ => source

/-- What the session is told. -/
def sessionEvent : CapturedEvent → SessionEvent
  | .input _ event => .physicalInput event
  | .motion _ moved => .physicalMotion moved

/-- The input that the event brings into a state, if it does. -/
def heldIn (state : ButtonState) : CapturedEvent → Option HeldInput
  | .input _ event => if event.state = some state then event.held else none
  | .motion .. => none

end CapturedEvent

/-- What a read of the layout file gives. -/
abbrev StoredLayout := Outcome String ScreenLayout

/-- Count a heartbeat of a peer. -/
def HostPeer.beat (peer : HostPeer) : HostPeer :=
  { peer with heartbeatSequence := wrappingSucc peer.heartbeatSequence }

/-- A peer with the device it is listed under. -/
abbrev PeerEntry := Sigma fun _ : TopologyDeviceId => HostPeer

/-- Change every peer. -/
def Peers.update (change : HostPeer → HostPeer) (peers : Peers) : Peers where
  entries := peers.entries.map fun entry => ⟨entry.1, change entry.2⟩
  nodupKeys := by
    have sameKeys : (peers.entries.map fun entry => (⟨entry.1, change entry.2⟩ : PeerEntry)).keys =
        peers.entries.keys := by
      simp [List.keys, Function.comp_def]
    exact (congrArg List.Nodup sameKeys).mpr peers.nodupKeys

namespace Host

section Branches

variable (primitives : Primitives) (config : HostConfig) (closed : Finset Nat)

/-- The screens of this device come online, the layout is read back, and the cursor starts on the
first screen of this device. -/
def start (direction : Option ScreenDirection) (stored : TopologyState) (trust : TrustDatabase)
    (screens : List DetectedScreen) (x y : Int) : Outcome String Host := do
  let inventory := reconcileDiscoveredInventory stored.inventory config.deviceName
    (primitives.sha256 config.certificate) screens
  inventory.validate.mapErr LayoutError.display
  let topology ← (stored.layout.resolve inventory).mapErr LayoutError.display
  let localScreen ← Outcome.ofOption "no online local screen is available"
    (topology.screens.find? fun screen => screen.thisDevice && screen.online)
  let session ← DesktopSession.hostTopology topology localScreen.screenId x y
  pure
    { session, topology, inventory, direction, trust
      peers := ∅
      layout := stored.layout
      detectedScreens := screens
      capturing := false
      heldSources := ∅
      limiter := { attempts := [] } }

/-- Carry out what the session asks for. -/
def carryOut (host : Host) (current : Option Nat) (asked : List SessionEffect × DesktopSession) :
    Traced HostOutput RuntimeError Host := do
  let peers ← .emit (executeHostEffectsMulti closed host.topology host.capturing
    { current, held := host.heldSources } host.peers asked.1)
  pure { host with session := asked.2, peers }

/-- Route over a topology from now on. -/
def install (host : Host) (topology : ScreenTopology) : Traced HostOutput RuntimeError Host := do
  let asked ← .lift ((host.session.replaceTopology topology).mapErr .other)
  { host with topology }.carryOut closed none asked

/-- Write the inventory to its file. -/
def saveInventory (inventory : ScreenInventory) : Traced HostOutput RuntimeError PUnit := do
  .lift (inventory.validate.mapErr fun error => .other error.display)
  .tell [.inventoryFile inventory]

/-- Save the inventory, read the layout back and route over both. -/
def refresh (host : Host) (stored : StoredLayout) : Traced HostOutput RuntimeError Host := do
  saveInventory host.inventory
  let layout ← .lift (stored.mapErr .other)
  let topology ← .lift ((layout.resolve host.inventory).mapErr fun error => .other error.display)
  { host with layout }.install closed topology

/-- Tell the application about the topology. -/
def announceTopology (host : Host) : Traced HostOutput RuntimeError PUnit :=
  .tell [.notify (.topologyChanged host.topology)]

/-! ### A new connection -/

/-- A peer whose setup is complete. -/
structure PreparedPeer where
  peer : HostPeer
  screens : ReportedScreens
  newlyTrusted : Bool

/-- Set the peer of an incoming connection up; none when it is turned away. -/
def setUpPeer (host : Host) (trustFile : TrustFile) (incoming : Incoming) :
    Traced HostOutput RuntimeError (Option PreparedPeer × Host) := do
  let attempt ← .lift (acceptOne incoming)
  let (authorized, trust, limiter) ← authorizeHostPeer primitives config attempt
    { database := host.trust, file := trustFile } host.limiter
  let host := { host with trust, limiter }
  match authorized with
  | none => do
      .tell [.closeConnection attempt.connection.id]
      pure (none, host)
  | some authorized => do
      let (peer, screens) ← prepareHostPeer primitives attempt authorized.summary
          host.detectedScreens
      pure (some { peer, screens, newlyTrusted := authorized.newlyTrusted }, host)

/-- The topology after a peer has reported its screens; a direction that was given on the command
line becomes the first layout. -/
def arrange (host : Host) (files : TopologyFiles) (stored : StoredLayout) :
    Traced HostOutput RuntimeError (ScreenTopology × Host) := do
  if host.layout.links ≠ [] ∧ host.direction.isSome then
    .fail (.other "--direction cannot be used after a persistent layout has been configured")
  else
    match host.direction with
    | some direction => do
        let migrated ← .lift
          ((migrateLegacyDirection host.layout host.inventory direction).mapErr .other)
        let (topology, files) ← .lift
          ((files.apply host.layout.revision host.inventory (.replace migrated)).mapErr .other)
        .tell [.inventoryFile host.inventory, .layoutFile files.layout]
        let layout ← .lift (stored.mapErr .other)
        pure (topology, { host with layout, direction := none })
    | none => do
        let topology ← .lift
          ((host.layout.resolve host.inventory).mapErr fun error => .other error.display)
        pure (topology, host)

/-- Enter a prepared peer into the table and start its tasks. -/
def enterPeer (host : Host) (peer : HostPeer) : Traced HostOutput RuntimeError Host := do
  let device := peer.summary.deviceId.topologyId
  .tell (match host.peers.lookup device with
    | some previous => [.closeConnection previous.connection.id]
    | none => [])
  .tell [.spawnTasks device peer.connection]
  .tell (if host.capturing then [] else [.notify (.controlChanged .localControl)])
  pure { host with peers := host.peers.insert device peer, capturing := true }

/-- Admit a prepared peer with its screens. -/
def admitPeer (host : Host) (files : TopologyFiles) (stored : StoredLayout)
    (prepared : PreparedPeer) : Traced HostOutput RuntimeError Host := do
  let inventory := mergeRemoteInventory host.inventory prepared.peer.summary prepared.screens
  saveInventory inventory
  let (topology, host) ← { host with inventory }.arrange
    { files with inventory := .inventory inventory } stored
  let host ← host.install closed topology
  let host ← host.enterPeer prepared.peer
  .tell [.notify (.peerChanged (some prepared.peer.connection.remoteAddress))]
  host.announceTopology
  let request ← .lift ((placementRequest prepared.newlyTrusted prepared.peer.summary host.inventory
    host.topology).mapErr .other)
  .tell (request.toList.map fun request => .notify (.placementRequested request))
  .tell [.notify (.statusChanged .connected)]
  pure host

def accepted (host : Host) (files : TopologyFiles) (trustFile : TrustFile) (stored : StoredLayout)
    (incoming : Incoming) : Traced HostOutput RuntimeError Host := do
  match ← host.setUpPeer primitives config trustFile incoming with
  | (none, host) => pure host
  | (some prepared, host) => host.admitPeer closed files stored prepared

/-! ### The other branches -/

/-- Note which device a pressed input came from. -/
def noteSource (host : Host) (event : CapturedEvent) : Host :=
  match event.heldIn .pressed with
  | some item => { host with heldSources := host.heldSources.insert item event.source }
  | none => host

/-- Drop the source of a released input. -/
def dropSource (host : Host) (event : CapturedEvent) : Host :=
  match event.heldIn .released with
  | some item => { host with heldSources := host.heldSources.erase item }
  | none => host

def captured (host : Host) (event : Outcome String CapturedEvent) :
    Traced HostOutput RuntimeError Host := do
  let event ← .lift (event.mapErr .other)
  let host := host.noteSource event
  let asked ← .lift ((host.session.handle event.sessionEvent).mapErr .other)
  let host ← host.carryOut closed (some event.source) asked
  pure (host.dropSource event)

/-- The status that goes with the peer table. -/
def peerStatus (host : Host) : RuntimeStatus :=
  if host.peers.entries = [] then .listening else .connected

def disconnected (host : Host) (device : TopologyDeviceId) (remote : SocketAddr)
    (stored : StoredLayout) : Traced HostOutput RuntimeError Host :=
  if (host.peers.lookup device).any fun peer => peer.connection.remoteAddress = remote then do
    let host ← { host with
      peers := host.peers.erase device
      inventory := host.inventory.markOffline device }.refresh closed stored
    host.announceTopology
    .tell [.notify (.peerChanged (host.peers.entries.head?.map fun entry =>
        entry.2.connection.remoteAddress)),
      .notify (.statusChanged host.peerStatus)]
    pure host
  else
    pure host

def inventoryReported (host : Host) (device : TopologyDeviceId) (remote : SocketAddr)
    (screens : ReportedScreens) (stored : StoredLayout) : Traced HostOutput RuntimeError Host :=
  match host.peers.lookup device with
  | some peer =>
      if peer.connection.remoteAddress = remote then do
        let host ← { host with
          inventory := mergeRemoteInventory host.inventory peer.summary screens
              }.refresh closed stored
        host.announceTopology
        pure host
      else
        pure host
  | none => pure host

def forgotten (host : Host) (deviceId : DeviceId) (stored : StoredLayout) :
    Traced HostOutput RuntimeError Host := do
  let device := deviceId.topologyId
  .tell (match host.peers.lookup device with
    | some peer => [.closeConnection peer.connection.id]
    | none => [])
  let host ← { host with
    peers := host.peers.erase device
    inventory := host.inventory.markOffline device }.refresh closed stored
  host.announceTopology
  pure host

/-- Write a frame to every peer, in the order of the table, up to the first that fails. -/
def broadcast (frame : HostPeer → ReliableEvent) :
    List PeerEntry → Outcome RuntimeError (List HostOutput)
  | [] => .ok []
  | ⟨device, peer⟩ :: rest => do
      let outputs ← writeReliable closed device peer (frame peer)
      let others ← broadcast frame rest
      pure (outputs ++ others)

/-- Take over the screens of this device when they have changed. -/
def refreshScreens (host : Host) (refreshed : Option (List DetectedScreen))
    (stored : StoredLayout) : Traced HostOutput RuntimeError Host :=
  match refreshed with
  | none => pure host
  | some screens =>
      if screens ≠ [] ∧ wireScreens screens ≠ wireScreens host.detectedScreens then do
        let host ← { host with
          detectedScreens := screens
          inventory := mergeLocalInventory host.inventory config.deviceName
            (primitives.sha256 config.certificate) screens }.refresh closed stored
        let outputs ← .lift
          (broadcast closed (fun _ => .screenInventory (wireScreens screens)) host.peers.entries)
        .tell outputs
        host.announceTopology
        pure host
      else
        pure host

def heartbeat (host : Host) (refreshed : Option (List DetectedScreen)) (stored : StoredLayout) :
    Traced HostOutput RuntimeError Host := do
  let host ← host.refreshScreens primitives config closed refreshed stored
  let peers := host.peers.update HostPeer.beat
  let outputs ← .lift
    (broadcast closed (fun peer => .heartbeat peer.heartbeatSequence) peers.entries)
  .tell outputs
  pure { host with peers }

def topologyUpdated (host : Host) (topology : ScreenTopology) (stored : StoredLayout) :
    Traced HostOutput RuntimeError Host := do
  let layout ← .lift (stored.mapErr .other)
  { host with layout }.install closed topology

/-- Close the connections and mark the screens of the peers offline. -/
def finish (host : Host) : Traced HostOutput RuntimeError Host := do
  .tell (host.peers.entries.map fun entry => .closeConnection entry.2.connection.id)
  let inventory : ScreenInventory :=
    { screens := host.inventory.screens.map fun screen =>
        if screen.thisDevice then screen else { screen with online := false } }
  saveInventory inventory
  let topology ← .lift ((host.layout.resolve inventory).mapErr fun error => .other error.display)
  .tell [.notify (.topologyChanged topology)]
  pure { host with peers := ∅, inventory }

/-- Release what is held and finish. -/
def stop (host : Host) : Traced HostOutput RuntimeError Host :=
  if host.capturing then do
    let asked ← .lift ((host.session.handle .stopRequested).mapErr .other)
    let host ← host.carryOut closed none asked
    host.finish
  else
    host.finish

end Branches
end Host
end Rflow
