import Rflow.Foundation.Machine
import Rflow.Runtime.Events
import Rflow.Store.TopologyStore

/-!
# Carrying out session effects

The host carries the effects of its session out on its own injector and on the streams of its peers;
a client carries the effects of its session out on its own injector.
-/

namespace Rflow

open Foundation

/-- A QUIC connection; the number tells connections from the same address apart. -/
structure Connection where
  id : Nat
  remoteAddress : SocketAddr
  deriving DecidableEq

structure HostPeer where
  summary : PeerSummary
  connection : Connection
  reliableSequence : Nat
  heartbeatSequence : Nat
  deriving DecidableEq

/-- The connected peers by device. -/
abbrev Peers := AList fun _ : TopologyDeviceId => HostPeer

/-- A device id of 32 equal bytes. -/
def sampleDeviceId (byte : UInt8) : DeviceId := ⟨List.replicate 32 byte, List.length_replicate⟩

/-- A peer on the connection of the given number. -/
def samplePeer (connection : Nat) : HostPeer where
  summary := { deviceId := sampleDeviceId 1, displayName := "peer" }
  connection := { id := connection, remoteAddress := { ip := .v4 1, port := 24801 } }
  reliableSequence := 0
  heartbeatSequence := 0

/-- Where locally injected events come from: the source of the current event and of each held
input. -/
structure LocalInputSources where
  current : Option Nat
  held : AList fun _ : HeldInput => Nat

/-- What the host does to the world. -/
inductive HostOutput where
  | emit (source : Nat) (event : InputEvent)
  | emitMotion (source : Nat) (dx dy : Int)
  | setCursorPosition (x y : Int)
  | write (device : TopologyDeviceId) (event : ReliableEvent)
  | sendDatagram (device : TopologyDeviceId) (motion : MotionDto)
  | notify (event : AppEvent)
  | writePairing (connection : Nat) (message : PairingMessage)
  | closeConnection (connection : Nat)
  | inventoryFile (inventory : ScreenInventory)
  | layoutFile (layout : LayoutFile)
  | spawnTasks (device : TopologyDeviceId) (connection : Connection)
  | trustFile (file : TrustFile)
  deriving DecidableEq

def localEventSource (event : InputEvent) (sources : LocalInputSources) : Nat :=
  ((event.held.bind sources.held.lookup).or sources.current).getD 0

/-- The device of a screen in the topology. -/
def deviceOfScreen (topology : ScreenTopology) (screenId : ScreenId) :
    Outcome RuntimeError TopologyDeviceId := do
  let screen ← Outcome.ofOption (.unknownScreen screenId) (topology.find screenId)
  pure screen.deviceId

/-- The peer that shows a screen, with its key. -/
def peerForScreen (peers : Peers) (topology : ScreenTopology) (screenId : ScreenId) :
    Outcome RuntimeError (TopologyDeviceId × HostPeer) := do
  let deviceId ← deviceOfScreen topology screenId
  let peer ← Outcome.ofOption (.notConnected deviceId) (peers.lookup deviceId)
  pure (deviceId, peer)

def onlyPeer (peers : Peers) : Outcome RuntimeError (TopologyDeviceId × HostPeer) :=
  match peers.entries with
  | [entry] => .ok (entry.1, entry.2)
  | _ => .err .notOnePeer

theorem peerForScreen_eq_ok {peers : Peers} {topology : ScreenTopology} {screenId : ScreenId}
    {device : TopologyDeviceId} {peer : HostPeer} :
    peerForScreen peers topology screenId = .ok (device, peer) ↔
      ∃ node, topology.find screenId = some node ∧ device = node.deviceId ∧
        peers.lookup device = some peer := by
  simp only [peerForScreen, deviceOfScreen, Outcome.bind_eq_ok, Outcome.ofOption_eq_ok,
    Outcome.pure_eq, Outcome.ok.injEq, Prod.mk.injEq]
  constructor
  · rintro ⟨_, ⟨node, found, rfl⟩, _, present, rfl, rfl⟩
    exact ⟨node, found, rfl, present⟩
  · rintro ⟨node, found, rfl, present⟩
    exact ⟨_, ⟨node, found, rfl⟩, peer, present, rfl, rfl⟩

theorem onlyPeer_eq_ok {peers : Peers} {device : TopologyDeviceId} {peer : HostPeer}
    (only : onlyPeer peers = .ok (device, peer)) : peers.lookup device = some peer := by
  unfold onlyPeer at only
  split at only
  · rename_i entry single
    obtain ⟨rfl, rfl⟩ := Prod.mk.inj (Outcome.ok.inj only)
    obtain ⟨device, peer⟩ := entry
    rw [AList.lookup, single, List.dlookup_cons_eq]
  · cases only

section Host

/-! Writes to closed connections fail; the other steps of the environment succeed. -/

variable (closed : Finset Nat)

/-- Write a frame to the stream of a peer. -/
def writeReliable (device : TopologyDeviceId) (peer : HostPeer) (event : ReliableEvent) :
    Outcome RuntimeError (List HostOutput) :=
  if peer.connection.id ∈ closed then .err (.streamWrite device) else .ok [.write device event]

/-- Send a pointer motion to a peer. -/
def sendDatagram (device : TopologyDeviceId) (peer : HostPeer) (motion : Motion) :
    Outcome RuntimeError (List HostOutput) :=
  if peer.connection.id ∈ closed then
    .err (.datagramSend device)
  else
    .ok [.sendDatagram device (.ofMotion motion)]

/-- Send an input event to a peer under its next sequence number. -/
def sendInput (peers : Peers) (device : TopologyDeviceId) (peer : HostPeer) (event : InputEvent) :
    Outcome RuntimeError (List HostOutput × Peers) := do
  let peer := { peer with reliableSequence := wrappingSucc peer.reliableSequence }
  let frame ← (encodeInput peer.reliableSequence event).mapErr RuntimeError.conversion
  let outputs ← writeReliable closed device peer frame
  pure (outputs, peers.insert device peer)

/-- Carry out one effect of the host session. -/
def executeHostEffect (topology : ScreenTopology) (injectorReady : Bool)
    (sources : LocalInputSources) (peers : Peers) :
    SessionEffect → Outcome RuntimeError (List HostOutput × Peers)
  | .injectLocal event => do
      Outcome.require (injectorReady = true) .injectorUnavailable
      pure ([.emit (localEventSource event sources) event], peers)
  | .injectLocalMotion dx dy => do
      Outcome.require (injectorReady = true) .injectorUnavailable
      pure ([.emitMotion (sources.current.getD 0) dx dy], peers)
  | .setLocalCursor x y => do
      Outcome.require (injectorReady = true) .injectorUnavailable
      pure ([.setCursorPosition x y], peers)
  | .sendScreen screenId event => do
      let (device, peer) ← peerForScreen peers topology screenId
      sendInput closed peers device peer event
  | .sendScreenMotion screenId motion => do
      let (device, peer) ← peerForScreen peers topology screenId
      let outputs ← sendDatagram closed device peer motion
      pure (outputs, peers)
  | .enterScreen screenId x y => do
      let (device, peer) ← peerForScreen peers topology screenId
      let outputs ← writeReliable closed device peer (.enterScreen x y)
      pure (outputs, peers)
  | .releaseScreen screenId =>
      match peerForScreen peers topology screenId with
      | .ok (device, peer) => do
          let outputs ← writeReliable closed device peer .releaseAll
          pure (outputs, peers)
      | _ => .ok ([], peers)
  | .sendRemote event => do
      let (device, peer) ← onlyPeer peers
      sendInput closed peers device peer event
  | .sendRemoteMotion motion => do
      let (device, peer) ← onlyPeer peers
      let outputs ← sendDatagram closed device peer motion
      pure (outputs, peers)
  | .enterRemote x y => do
      let (device, peer) ← onlyPeer peers
      let outputs ← writeReliable closed device peer (.enterScreen x y)
      pure (outputs, peers)
  | .releaseRemote =>
      if peers.keys.length = 1 then do
        let (device, peer) ← onlyPeer peers
        let outputs ← writeReliable closed device peer .releaseAll
        pure (outputs, peers)
      else
        .ok ([], peers)
  | .controlChanged control => .ok ([.notify (.controlChanged control)], peers)

/-- Carry out effects one after the other, up to the first that fails. -/
def executeHostEffectsMulti (topology : ScreenTopology) (injectorReady : Bool)
    (sources : LocalInputSources) (peers : Peers) (effects : List SessionEffect) :
    Outcome RuntimeError (List HostOutput × Peers) :=
  Machine.run (executeHostEffect closed topology injectorReady sources) peers effects

end Host

end Rflow
