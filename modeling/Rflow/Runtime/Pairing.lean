import Rflow.Foundation.Traced
import Rflow.Runtime.Effects

/-!
# Setting up a peer

From an incoming connection to a peer of the host: the handshake, the exchange of introductions, the
decision of the user about an unknown device, and the exchange of screens.  An attempt holds
everything that the connection, the user and the clock do meanwhile.
-/

namespace Rflow

open Foundation

/-- What the runtime takes from other libraries: the digest and the wire encodings. -/
structure Primitives where
  sha256 : List UInt8 → DeviceId
  pairing : Framing.Codec PairingMessage
  reliable : Framing.Codec ReliableEvent

structure HostConfig where
  deviceName : String
  certificate : Certificate
  deriving DecidableEq

/-- What a peer sends on a stream: its bytes, and whether it ends the stream after them. -/
structure PeerStream where
  bytes : List UInt8
  ended : Bool
  deriving DecidableEq

/-- How the wait for a stream of the peer ends. -/
inductive StreamWait where
  | opened (stream : PeerStream)
  | failed
  | stopped
  | silent
  deriving DecidableEq

/-- How the write of a frame ends: its header and its body are written one after the other. -/
inductive FrameWrite where
  | written
  | headerFailed
  | bodyFailed
  deriving DecidableEq

/-- What the TLS layer knows about the peer. -/
inductive PeerIdentity where
  | missing
  | unsupported
  | chain (certificates : List Certificate)
  deriving DecidableEq

/-- What can happen while a pairing request waits for a decision. -/
inductive PairingSignal where
  | decision (requestId : PairingRequestId) (accepted : Bool)
  | channelClosed
  | deadline
  | stopped
  | connectionClosed
  deriving DecidableEq

/-- What the connection, the user and the clock do during the setup of a peer. -/
structure Attempt where
  connection : Connection
  identity : PeerIdentity
  pairingStream : StreamWait
  nonce : List UInt8
  helloWrite : FrameWrite
  now : Nat
  unixTimestamp : Nat
  signals : List PairingSignal
  commitFault : Option CommitStep
  answerWrite : FrameWrite
  finished : Bool
  metadataStream : StreamWait
  inputStreamOpened : Bool
  inputHelloWritten : Bool
  deriving DecidableEq

/-- What the endpoint hands to the accept branch. -/
inductive Incoming where
  | endpointClosed
  | handshakeFailed
  | connected (attempt : Attempt)
  deriving DecidableEq

def acceptOne : Incoming → Outcome RuntimeError Attempt
  | .endpointClosed => .err (.handshake "server endpoint closed")
  | .handshakeFailed => .err (.handshake "accept QUIC connection")
  | .connected attempt => .ok attempt

def peerCertificate : PeerIdentity → Outcome RuntimeError Certificate
  | .missing => .err (.peerSetup "peer did not present a TLS identity")
  | .unsupported => .err (.peerSetup "unsupported TLS peer identity type")
  | .chain certificates =>
      Outcome.ofOption (.peerSetup "peer presented an empty certificate chain") certificates.head?

/-- Wait for a stream; none when the host is stopped first. -/
def StreamWait.result (failure : String) : StreamWait → Outcome RuntimeError (Option PeerStream)
  | opened stream => .ok (some stream)
  | failed => .err (.peerSetup failure)
  | stopped => .ok none
  | silent => .err .silence

def FrameWrite.result : FrameWrite → Outcome RuntimeError Unit
  | written => .ok ()
  | headerFailed => .err (.peerSetup "write pairing frame header")
  | bodyFailed => .err (.peerSetup "write pairing frame body")

/-- Read one frame of a stream; the kind names the frame in the errors. -/
def PeerStream.readFrame {ε : Type} (kind : String) (codec : Framing.Codec ε)
    (stream : PeerStream) : Outcome RuntimeError (ε × PeerStream) :=
  match Framing.poll codec maxReliableFrame .fresh stream.bytes with
  | .ok (some message, _, bytes) => .ok (message, { stream with bytes })
  | .ok (none, reading, _) =>
      if stream.ended = false then
        .err .silence
      else
        .err (.peerSetup ("read " ++ kind ++ " frame " ++
          if reading.header.length < 4 then "header" else "body"))
  | .err (.tooLong length) =>
      .err (.peerSetup (kind ++ " frame length " ++ toString length ++ " exceeds limit"))
  | .err .undecodable => .err (.peerSetup "decode protocol message")
  | .panic message => .panic message

/-! ## The limit on pairing requests -/

/-- The requests of the last minute, oldest first, with times in nanoseconds. -/
structure PairingRateLimiter where
  attempts : List (Nat × IpAddr)
  deriving DecidableEq

namespace PairingRateLimiter

def window : Nat := 60 * 1000000000

/-- Admit a request unless there were too many in the window, in total or from its source. -/
def allow (limiter : PairingRateLimiter) (source : IpAddr) (now : Nat) :
    Bool × PairingRateLimiter :=
  let attempts := limiter.attempts.dropWhile fun attempt => window ≤ now - attempt.1
  let sourceAttempts := (attempts.filter fun attempt => attempt.2 = source).length
  if 20 ≤ attempts.length ∨ 5 ≤ sourceAttempts then
    (false, { attempts })
  else
    (true, { attempts := attempts ++ [(now, source)] })

end PairingRateLimiter

/-! ## Authorization -/

inductive PairingOutcome where
  | accepted
  | rejected
  | expired
  | stopped
  deriving DecidableEq

/-- The outcome of a pairing request; once nothing more happens it expires. -/
def pairingOutcome (requestId : PairingRequestId) : List PairingSignal → PairingOutcome
  | [] => .expired
  | .decision decided accepted :: rest =>
      if decided = requestId then
        if accepted then .accepted else .rejected
      else
        pairingOutcome requestId rest
  | .channelClosed :: _ => .rejected
  | .deadline :: _ => .expired
  | .stopped :: _ | .connectionClosed :: _ => .stopped

def pairingRequestLifetime : Nat := 120

/-- Whether a certificate is that of a trusted peer. -/
def TrustDatabase.trusts (database : TrustDatabase) (fromCertificate : Certificate → DeviceId)
    (certificate : Certificate) : Bool :=
  match database.verifyCertificate fromCertificate certificate with
  | .trusted _ => true
  | _ => false

/-- What an exchange of introductions establishes. -/
structure Introduction where
  clientName : String
  client : PairingMaterial
  proof : PairingProof
  receive : PeerStream
  deriving DecidableEq

structure AuthorizedPeer where
  summary : PeerSummary
  newlyTrusted : Bool
  deriving DecidableEq

/-- What authorization says about the peer, with the trust database and the limiter that it
leaves. -/
abbrev Authorization := Option AuthorizedPeer × TrustDatabase × PairingRateLimiter

section Setup

variable (primitives : Primitives) (config : HostConfig) (attempt : Attempt)

/-- What the host introduces itself with. -/
def serverMaterial : PairingMaterial where
  role := .server
  certificate := config.certificate
  nonce := attempt.nonce

/-- The peer that an introduction names. -/
def Introduction.summary (introduction : Introduction) : PeerSummary where
  deviceId := primitives.sha256 introduction.client.certificate
  displayName := introduction.clientName

/-- Exchange introductions; none when the host is stopped before the peer opens a stream. -/
def introduce : Traced HostOutput RuntimeError (Option Introduction) := do
  let certificate ← .lift (peerCertificate attempt.identity)
  match ← .lift (attempt.pairingStream.result "accept pairing stream") with
  | none => pure none
  | some stream => do
      let (message, receive) ← .lift (stream.readFrame "pairing" primitives.pairing)
      let (clientName, client) ← .lift
        ((validatePairingHello primitives.sha256 message .client certificate).mapErr .peerSetup)
      .tell [.notify (.peerIdentified
        { deviceId := primitives.sha256 client.certificate, displayName := clientName })]
      let server := serverMaterial config attempt
      .lift attempt.helloWrite.result
      .tell [.writePairing attempt.connection.id (server.hello primitives.sha256 config.deviceName)]
      let proof ← .lift ((pairingProof primitives.sha256 server client).mapErr .peerSetup)
      pure (some { clientName, client, proof, receive })

def expectPairingAcknowledgement (receive : PeerStream) : Outcome RuntimeError Unit := do
  let (message, _) ← receive.readFrame "pairing" primitives.pairing
  match message with
  | .acknowledged => pure ()
  | _ => .err (.peerSetup "client did not acknowledge persisted pairing state")

/-- Tell the peer that it is accepted and wait for its acknowledgement. -/
def confirm (receive : PeerStream) : Traced HostOutput RuntimeError Unit := do
  .lift attempt.answerWrite.result
  .tell [.writePairing attempt.connection.id .accepted]
  .lift (expectPairingAcknowledgement primitives receive)

/-- Tell the peer that it is rejected, if it can still be told. -/
def reject : Traced HostOutput RuntimeError PUnit :=
  .tell (if attempt.answerWrite = .written then
    [.writePairing attempt.connection.id .rejected] else [])

def finishPairingStream : Outcome RuntimeError Unit :=
  Outcome.require (attempt.finished = true) (.peerSetup "finish pairing stream")

/-- What the user is asked about an unknown device. -/
def Introduction.request (introduction : Introduction) : PairingRequestSummary where
  requestId := introduction.proof.requestId
  deviceName := introduction.clientName
  address := attempt.connection.remoteAddress
  fingerprint := primitives.sha256 introduction.client.certificate
  code := introduction.proof.code
  expiresAtUnixSeconds := attempt.unixTimestamp + pairingRequestLifetime

/-- Remember a device that the user has accepted. -/
def rememberAccepted (trust : TrustStore) (introduction : Introduction) :
    Traced HostOutput RuntimeError (DeviceId × TrustDatabase) := do
  let (remembered, store) := trust.remember primitives.sha256 introduction.clientName
    introduction.client.certificate attempt.unixTimestamp attempt.commitFault
  .tell (if store.file = trust.file then [] else [.trustFile store.file])
  let deviceId ← .lift (remembered.mapErr .peerSetup)
  confirm primitives attempt introduction.receive
  .tell [.notify (.peerTrusted { deviceId, displayName := introduction.clientName })]
  .lift (finishPairingStream attempt)
  pure (deviceId, store.database)

/-- Ask the user about an unknown device and remember it when it is accepted. -/
def requestDecision (trust : TrustStore) (limiter : PairingRateLimiter)
    (introduction : Introduction) : Traced HostOutput RuntimeError Authorization := do
  let (allowed, limiter) :=
    limiter.allow attempt.connection.remoteAddress.ip attempt.now
  if allowed = false then do
    reject attempt
    pure (none, trust.database, limiter)
  else do
    .tell [.notify (.statusChanged .pairingPending),
      .notify (.pairingRequested (introduction.request primitives attempt))]
    let requestId := introduction.proof.requestId
    let outcome := pairingOutcome requestId attempt.signals
    .tell [.notify (if outcome = .expired then .pairingExpired requestId
      else .pairingCleared requestId)]
    if outcome ≠ .accepted then do
      reject attempt
      pure (none, trust.database, limiter)
    else do
      let (deviceId, database) ← rememberAccepted primitives attempt trust introduction
      pure (some { summary := { deviceId, displayName := introduction.clientName }
                   newlyTrusted := true }, database, limiter)

def authorizeHostPeer (trust : TrustStore) (limiter : PairingRateLimiter) :
    Traced HostOutput RuntimeError Authorization := do
  match ← introduce primitives config attempt with
  | none => pure (none, trust.database, limiter)
  | some introduction =>
      if trust.database.trusts primitives.sha256 introduction.client.certificate then do
        confirm primitives attempt introduction.receive
        .lift (finishPairingStream attempt)
        pure (some { summary := introduction.summary primitives, newlyTrusted := false },
          trust.database, limiter)
      else
        requestDecision primitives attempt trust limiter introduction

/-- The screens that the first message of an authorized client reports. -/
def clientScreens : ReliableEvent → Outcome RuntimeError ReportedScreens
  | .clientHello version screens =>
      if version = protocolVersion then
        (validateWireScreens screens).mapErr .peerSetup
      else
        .err (.peerSetup ("unsupported client protocol version " ++ toString version))
  | _ => .err (.peerSetup "first client message must be ClientHello")

def prepareHostPeer (summary : PeerSummary) (localScreens : List DetectedScreen) :
    Traced HostOutput RuntimeError (HostPeer × ReportedScreens) := do
  match ← .lift (attempt.metadataStream.result "accept client metadata stream") with
  | none => .fail (.peerSetup "host stopped during peer setup")
  | some metadata => do
      let (message, _) ← .lift (metadata.readFrame "reliable" primitives.reliable)
      let screens ← .lift (clientScreens message)
      .lift (Outcome.require (attempt.inputStreamOpened = true)
          (.peerSetup "open host input stream"))
      .lift (Outcome.require (attempt.inputHelloWritten = true)
        (.peerSetup "write reliable input event"))
      .tell [.write summary.deviceId.topologyId (.hello protocolVersion (wireScreens localScreens))]
      pure ({ summary
              connection := attempt.connection
              reliableSequence := 0
              heartbeatSequence := 0 }, screens)

end Setup
end Rflow
