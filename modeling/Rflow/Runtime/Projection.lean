import Rflow.Runtime.ServerPeer

/-!
# The snapshot of the application

The application bus folds every notification into a snapshot before it passes the notification on.
The configuration that a snapshot also shows is left out.
-/

namespace Rflow

open Foundation

structure RuntimeSnapshot where
  status : RuntimeStatus
  peer : Option SocketAddr
  peerDevice : Option PeerSummary
  control : Option ControlTarget
  fault : Option AppFault
  pairing : Option PairingRequestSummary
  topology : ScreenTopology
  deriving DecidableEq

instance : Inhabited RuntimeSnapshot :=
  ⟨{ status := .stopped, peer := none, peerDevice := none, control := none, fault := none,
     pairing := none, topology := default }⟩

/-- The statuses at which no session controls anything any more. -/
def RuntimeStatus.dropsControl : RuntimeStatus → Bool
  | .stopped | .configurationRequired | .faulted => true
  | _ => false

namespace RuntimeSnapshot

def apply (snapshot : RuntimeSnapshot) : AppEvent → RuntimeSnapshot
  | .statusChanged status =>
      if status = .starting then
        { snapshot with status, peer := none, peerDevice := none, control := none, fault := none }
      else if status.dropsControl then
        { snapshot with status, control := none }
      else
        { snapshot with status }
  | .peerChanged peer =>
      { snapshot with peer, peerDevice := if peer = none then none else snapshot.peerDevice }
  | .peerIdentified peer => { snapshot with peerDevice := some peer }
  | .controlChanged control => { snapshot with control := some control }
  | .pairingRequested request | .pairingCodeReady request =>
      { snapshot with pairing := some request }
  | .pairingCleared requestId | .pairingExpired requestId =>
      if snapshot.pairing.any fun request => request.requestId = requestId then
        { snapshot with pairing := none }
      else
        snapshot
  | .peerTrusted _ | .placementRequested _ => snapshot
  | .topologyChanged topology => { snapshot with topology }
  | .faulted fault => { snapshot with fault := some fault }

/-- The snapshot after some notifications. -/
def observe (snapshot : RuntimeSnapshot) (events : List AppEvent) : RuntimeSnapshot :=
  events.foldl apply snapshot

@[simp]
theorem observe_nil (snapshot : RuntimeSnapshot) : snapshot.observe [] = snapshot := rfl

@[simp]
theorem observe_cons (snapshot : RuntimeSnapshot) (event : AppEvent) (events : List AppEvent) :
    snapshot.observe (event :: events) = (snapshot.apply event).observe events := rfl

theorem observe_append (snapshot : RuntimeSnapshot) (first second : List AppEvent) :
    snapshot.observe (first ++ second) = (snapshot.observe first).observe second :=
  List.foldl_append

end RuntimeSnapshot

/-- The notification that the host publishes with an output. -/
def HostOutput.event : HostOutput → Option AppEvent
  | .notify event => some event
  | _ => none

/-- The notification that a client publishes while it authorizes its server. -/
def PairingOutput.event : PairingOutput → Option AppEvent
  | .notify event => some event
  | .write _ => none

end Rflow
