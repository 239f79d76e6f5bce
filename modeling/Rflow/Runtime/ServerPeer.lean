import Rflow.Runtime.PairingSteps

/-!
# Authorizing the server

The client's side of pairing: it introduces itself, checks the server against the binding of the
endpoint and the pinned certificate, waits for the decision of the server, and remembers and binds a
server that it meets for the first time.  The trust store lives on when an attempt fails, so it is
returned beside the outcome.
-/

namespace Rflow

open Foundation

structure ServerTarget where
  host : String
  port : Nat
  deriving DecidableEq

/-- The text of a target, under which its endpoint is bound. -/
def ServerTarget.display (target : ServerTarget) : String :=
  if target.host.contains ':' then
    "[" ++ target.host ++ "]:" ++ toString target.port
  else
    target.host ++ ":" ++ toString target.port

structure ClientConfig where
  target : ServerTarget
  certificate : Certificate
  /-- The path of the certificate that the server must have. -/
  serverCert : Option String
  deviceName : String
  deriving DecidableEq

/-- How the wait for the decision of the server ends. -/
inductive DecisionWait where
  | read
  | deadline
  | stopped
  deriving DecidableEq

/-- What the connection, the file system, the user and the clock do while the client authorizes its
server. -/
structure ServerAttempt where
  remoteAddress : SocketAddr
  identity : PeerIdentity
  nonce : List UInt8
  streamOpened : Bool
  helloWrite : FrameWrite
  stoppedAtHello : Bool
  stream : PeerStream
  pinnedFile : Option Certificate
  unixTimestamp : Nat
  decisionWait : DecisionWait
  rememberFault : Option CommitStep
  bindFault : Option CommitStep
  acknowledgementWrite : FrameWrite
  finished : Bool
  deriving DecidableEq

/-- What the client does during the authorization. -/
inductive PairingOutput where
  | notify (event : AppEvent)
  | write (message : PairingMessage)
  deriving DecidableEq

/-- What an exchange of introductions with a server establishes. -/
structure ServerIntroduction where
  serverName : String
  server : PairingMaterial
  proof : PairingProof
  receive : PeerStream
  deriving DecidableEq

/-- Nothing is known about the peer. -/
def VerifyPeer.isUnknown : VerifyPeer → Bool
  | .unknown _ => true
  | _ => false

def checkIdentity (endpoint : String) : VerifyPeer → Outcome RuntimeError Unit
  | .identityChanged expected observed =>
      .err (.peerSetup ("SECURITY ERROR: identity for " ++ endpoint ++ " changed; expected " ++
        expected.display ++ ", received " ++ observed.display ++
        "; forget the old peer before pairing again"))
  | _ => .ok ()

def checkDecision : PairingMessage → Outcome RuntimeError Unit
  | .accepted => .ok ()
  | .rejected => .err (.peerSetup "pairing request rejected by server")
  | .hello .. | .acknowledged => .err (.peerSetup "server sent an invalid pairing decision")

section Client

variable (primitives : Primitives) (config : ClientConfig) (attempt : ServerAttempt)

/-- What the client introduces itself with. -/
def clientMaterial : PairingMaterial where
  role := .client
  certificate := config.certificate
  nonce := attempt.nonce

/-- Wait for the introduction of the server; none when the client is stopped first. -/
def awaitServerHello : Outcome RuntimeError (Option (PairingMessage × PeerStream)) :=
  if attempt.stoppedAtHello then
    .ok none
  else do
    let received ← attempt.stream.readFrame "pairing" primitives.pairing
    pure (some received)

/-- Wait for the decision of the server; none when the client is stopped first. -/
def awaitDecision (receive : PeerStream) : Outcome RuntimeError (Option PairingMessage) :=
  match attempt.decisionWait with
  | .read =>
      match receive.readFrame "pairing" primitives.pairing with
      | .ok (message, _) => .ok (some message)
      -- A server that sends no whole frame lets the deadline pass.
      | .err .silence => .err (.peerSetup "pairing request expired")
      | .err error => .err error
      | .panic message => .panic message
  | .deadline => .err (.peerSetup "pairing request expired")
  | .stopped => .ok none

def checkPinned (certificate : Certificate) : Outcome RuntimeError Unit :=
  match config.serverCert with
  | none => .ok ()
  | some _ => do
      let pinned ← Outcome.ofOption (.peerSetup "read pinned server certificate") attempt.pinnedFile
      Outcome.require (pinned = certificate)
        (.peerSetup "SECURITY ERROR: server certificate does not match --server-cert")

/-- What the user is shown about a server that the client does not know. -/
def ServerIntroduction.request (introduction : ServerIntroduction) : PairingRequestSummary where
  requestId := introduction.proof.requestId
  deviceName := introduction.serverName
  address := attempt.remoteAddress
  fingerprint := primitives.sha256 introduction.server.certificate
  code := introduction.proof.code
  expiresAtUnixSeconds := attempt.unixTimestamp + pairingRequestLifetime

/-- Exchange introductions; none when the client is stopped meanwhile. -/
def introduceServer : Traced PairingOutput RuntimeError (Option ServerIntroduction) := do
  let certificate ← .lift (peerCertificate attempt.identity)
  let client := clientMaterial config attempt
  .lift (Outcome.require (attempt.streamOpened = true) (.peerSetup "open pairing stream"))
  .lift attempt.helloWrite.result
  .tell [.write (client.hello primitives.sha256 config.deviceName)]
  match ← .lift (awaitServerHello primitives attempt) with
  | none => pure none
  | some (message, receive) => do
      let (serverName, server) ← .lift
        ((validatePairingHello primitives.sha256 message .server certificate).mapErr .peerSetup)
      .tell [.notify (.peerIdentified
        { deviceId := primitives.sha256 server.certificate, displayName := serverName })]
      let proof ← .lift ((pairingProof primitives.sha256 server client).mapErr .peerSetup)
      pure (some { serverName, server, proof, receive })

/-- Show the code of an unknown server and wait for the decision; none when the client is stopped
meanwhile. -/
def awaitApproval (introduction : ServerIntroduction) (verification : VerifyPeer) :
    Traced PairingOutput RuntimeError (Option PUnit) := do
  .tell (if verification.isUnknown then
    [.notify (.pairingCodeReady (introduction.request primitives attempt))] else [])
  match ← .lift (awaitDecision primitives attempt introduction.receive) with
  | none => pure none
  | some decision => do
      .tell (if verification.isUnknown then
        [.notify (.pairingCleared introduction.proof.requestId)] else [])
      .lift (checkDecision decision)
      pure (some ⟨⟩)

/-- Everything up to the approval of the server, with what the trust database says about it. -/
def approveServer (trust : TrustDatabase) :
    Traced PairingOutput RuntimeError (Option (ServerIntroduction × VerifyPeer)) := do
  match ← introduceServer primitives config attempt with
  | none => pure none
  | some introduction => do
      let endpoint := config.target.display
      let verification :=
        trust.verifyEndpoint primitives.sha256 endpoint introduction.server.certificate
      .lift (checkIdentity endpoint verification)
      .lift (checkPinned config attempt introduction.server.certificate)
      let approved ← awaitApproval primitives attempt introduction verification
      pure (approved.map fun _ => (introduction, verification))

/-- Remember an unknown server and bind the endpoint to it. -/
def keepServer (trust : TrustStore) (introduction : ServerIntroduction)
    (verification : VerifyPeer) : Outcome RuntimeError DeviceId × TrustStore :=
  if verification.isUnknown then
    let (remembered, store) := trust.remember primitives.sha256 introduction.serverName
      introduction.server.certificate attempt.unixTimestamp attempt.rememberFault
    match remembered with
    | .ok deviceId =>
        let (bound, store) :=
          store.bindEndpoint config.target.display deviceId attempt.bindFault
        ((bound >>= fun _ => .ok deviceId).mapErr .peerSetup, store)
    | .err error => (.err (.peerSetup error), store)
    | .panic message => (.panic message, store)
  else
    (.ok (primitives.sha256 introduction.server.certificate), trust)

/-- Acknowledge the approval. -/
def acknowledgeServer (introduction : ServerIntroduction) (verification : VerifyPeer)
    (kept : Outcome RuntimeError DeviceId) : Traced PairingOutput RuntimeError PeerSummary := do
  let deviceId ← .lift kept
  .tell (if verification.isUnknown then
    [.notify (.peerTrusted { deviceId, displayName := introduction.serverName })] else [])
  .lift attempt.acknowledgementWrite.result
  .tell [.write .acknowledged]
  .lift (Outcome.require (attempt.finished = true) (.peerSetup "finish pairing acknowledgement"))
  pure { deviceId, displayName := introduction.serverName }

/-- What the attempt does and returns, and the trust store that it leaves. -/
def authorizeServerPeer (trust : TrustStore) :
    Traced PairingOutput RuntimeError (Option PeerSummary) × TrustStore :=
  let approval := approveServer primitives config attempt trust.database
  match approval.outcome with
  | .ok (some (introduction, verification)) =>
      let (kept, store) := keepServer primitives config attempt trust introduction verification
      ((do
        let _ ← approval
        let peer ← acknowledgeServer attempt introduction verification kept
        pure (some peer)), store)
  | _ => ((do
      let _ ← approval
      pure none), trust)

end Client

/-! ## Servers that accept at once -/

/-- A digest that goes by the first byte, and encodings of the messages of two servers. -/
def sampleServerPrimitives : Primitives where
  sha256 := fun bytes => sampleDeviceId (bytes.headD 0)
  pairing :=
    { encode := fun _ => []
      decode
        | [0] => some .accepted
        | [server] => some (.hello 1 .server "desk" [] (sampleDeviceId server))
        | _ => none }
  reliable := { encode := fun _ => [], decode := fun _ => none }

def sampleClientConfig : ClientConfig where
  target := { host := "desk.local", port := 24801 }
  certificate := [9]
  serverCert := some "desk.der"
  deviceName := "laptop"

/-- An attempt at which the server with the given certificate introduces itself and accepts. -/
def sampleServerAttempt (server : UInt8) : ServerAttempt where
  remoteAddress := { ip := .v4 1, port := 24801 }
  identity := .chain [[server]]
  nonce := []
  streamOpened := true
  helloWrite := .written
  stoppedAtHello := false
  stream := { bytes := [0, 0, 0, 1, server, 0, 0, 0, 1, 0], ended := true }
  pinnedFile := some [server]
  unixTimestamp := 0
  decisionWait := .read
  rememberFault := none
  bindFault := none
  acknowledgementWrite := .written
  finished := true

end Rflow
