import Rflow.Core.Session
import Rflow.Runtime.Inventory
import Rflow.Wire.Pairing

/-!
# Application notifications and runtime errors

What the runtime tells the application, and the errors that end a session.
-/

namespace Rflow

inductive IpAddr where
  | v4 (value : Nat)
  | v6 (value : Nat)
  deriving DecidableEq

structure SocketAddr where
  ip : IpAddr
  port : Nat
  deriving DecidableEq

structure PairingRequestSummary where
  requestId : PairingRequestId
  deviceName : String
  address : SocketAddr
  fingerprint : DeviceId
  code : PairingCode
  expiresAtUnixSeconds : Nat
  deriving DecidableEq

inductive RuntimeStatus where
  | stopped
  | starting
  | listening
  | pairingPending
  | connecting
  | connected
  | retrying
  | stopping
  | configurationRequired
  | faulted
  deriving DecidableEq

inductive FaultKind where
  | invalidConfiguration
  | permissionDenied
  | platformUnavailable
  | connection
  | protocol
  | taskStopped
  | cleanup
  | internal
  deriving DecidableEq

structure AppFault where
  kind : FaultKind
  message : String
  deriving DecidableEq

inductive AppEvent where
  | statusChanged (status : RuntimeStatus)
  | peerChanged (peer : Option SocketAddr)
  | peerIdentified (peer : PeerSummary)
  | controlChanged (control : ControlTarget)
  | pairingRequested (request : PairingRequestSummary)
  | pairingCodeReady (request : PairingRequestSummary)
  | pairingCleared (requestId : PairingRequestId)
  | pairingExpired (requestId : PairingRequestId)
  | peerTrusted (peer : PeerSummary)
  | placementRequested (request : PlacementRequestSummary)
  | topologyChanged (topology : ScreenTopology)
  | faulted (fault : AppFault)
  deriving DecidableEq

/-- Why a call of the runtime returns no value: it propagates an error, or it never returns.  Errors
about a peer say which one. -/
inductive RuntimeError where
  /-- The call waits for a peer that stays silent. -/
  | silence
  /-- A write to the stream of a closed connection. -/
  | streamWrite (device : TopologyDeviceId)
  /-- A datagram to a closed connection. -/
  | datagramSend (device : TopologyDeviceId)
  | notConnected (device : TopologyDeviceId)
  | unknownScreen (screen : ScreenId)
  | notOnePeer
  | injectorUnavailable
  | conversion (error : InputConversionError)
  /-- The handshake of an incoming connection failed. -/
  | handshake (message : String)
  /-- The setup of an incoming connection failed. -/
  | peerSetup (message : String)
  | hostOnlyEffect
  | unexpectedHandshake
  /-- An error of the session, the layout, the inventory or a store. -/
  | other (message : String)
  deriving DecidableEq

end Rflow
