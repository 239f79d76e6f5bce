import Rflow.Core.Layout
import Rflow.Foundation.Framing
import Rflow.Trust.Store

/-!
# Pairing messages

The first messages on a connection introduce the two devices to each other.  Both sides derive a
request id and a short code from the digest of what was introduced.
-/

namespace Rflow

open Foundation

def pairingProtocolVersion : Nat := 1

inductive PairingRole where
  | server
  | client
  deriving DecidableEq

structure PairingMaterial where
  role : PairingRole
  certificate : Certificate
  nonce : List UInt8
  deriving DecidableEq

inductive PairingMessage where
  | hello (version : Nat) (role : PairingRole) (deviceName : String) (nonce : List UInt8)
      (certificateFingerprint : DeviceId)
  | accepted
  | acknowledged
  | rejected
  deriving DecidableEq

structure PairingRequestId where
  value : Nat
  deriving DecidableEq

structure PairingCode where
  value : Nat
  deriving DecidableEq

structure PairingProof where
  requestId : PairingRequestId
  code : PairingCode
  deriving DecidableEq

/-- The text that starts every pairing transcript. -/
def sasDomain : List UInt8 :=
  ("rflow pairing sas v1".toList.map fun char => UInt8.ofNat char.toNat) ++ [0]

/-- A field of the transcript with its length in front. -/
def lengthPrefixed (bytes : List UInt8) : Outcome String (List UInt8) :=
  if bytes.length < 2 ^ 32 then
    .ok (Framing.bigEndian bytes.length ++ bytes)
  else
    .err "pairing field too large"

/-- The bytes that are hashed, the same in whichever order the two sides are given. -/
def pairingTranscript (first second : PairingMaterial) : Outcome String (List UInt8) := do
  let (server, client) ← match first.role, second.role with
    | .server, .client => .ok (first, second)
    | .client, .server => .ok (second, first)
    | _, _ => .err "pairing transcript requires one server and one client"
  let serverField ← lengthPrefixed server.certificate
  let clientField ← lengthPrefixed client.certificate
  pure (sasDomain ++ serverField ++ clientField ++ server.nonce ++ client.nonce)

section Digest

variable (sha256 : List UInt8 → DeviceId)

/-- The message that introduces the owner of the material. -/
def PairingMaterial.hello (material : PairingMaterial) (deviceName : String) : PairingMessage :=
  .hello pairingProtocolVersion material.role deviceName material.nonce
      (sha256 material.certificate)

def pairingProof (first second : PairingMaterial) : Outcome String PairingProof := do
  let transcript ← pairingTranscript first second
  let digest := (sha256 transcript).bytes
  pure
    { requestId := ⟨Framing.ofBigEndian (digest.take 8)⟩
      code := ⟨Framing.ofBigEndian (digest.take 4) % 1000000⟩ }

/-- Check an introduction against the certificate of the connection it came from. -/
def validatePairingHello (message : PairingMessage) (expectedRole : PairingRole)
    (certificate : Certificate) : Outcome String (String × PairingMaterial) :=
  match message with
  | .hello version role deviceName nonce fingerprint =>
      if version ≠ pairingProtocolVersion then
        .err ("unsupported pairing protocol version " ++ toString version)
      else if role ≠ expectedRole then
        .err "pairing peer sent the wrong role"
      else if fingerprint ≠ sha256 certificate then
        .err "pairing certificate fingerprint does not match TLS identity"
      else if isBlank deviceName ∨ 128 < deviceName.utf8ByteSize then
        .err "pairing device name must contain 1 to 128 bytes"
      else
        .ok (deviceName, { role, certificate, nonce })
  | _ => .err "first pairing message must be Hello"

end Digest
end Rflow
