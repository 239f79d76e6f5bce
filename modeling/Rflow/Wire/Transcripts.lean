import Rflow.Wire.Pairing

/-!
# What a pairing transcript identifies

The two sides of a handshake hash the certificates and nonces of both.  The bytes that are hashed
determine all four, so the two digests agree exactly when each side has seen the certificate and the
nonce that the other side has.
-/

namespace Rflow

open Foundation

/-! ## The hashed bytes -/

/-- A certificate whose length fits in four bytes, and a nonce of 32 bytes. -/
structure PairingMaterial.Sized (material : PairingMaterial) : Prop where
  certificate : material.certificate.length < 2 ^ 32
  nonce : material.nonce.length = 32

/-- One server and one client. -/
structure PairingMaterial.Faces (server client : PairingMaterial) : Prop where
  serverRole : server.role = .server
  clientRole : client.role = .client
  server : server.Sized
  client : client.Sized

variable {first second server client otherServer otherClient : PairingMaterial}

theorem PairingMaterial.eq_iff :
    first = second ↔ first.role = second.role ∧ first.certificate = second.certificate ∧
      first.nonce = second.nonce := by
  obtain ⟨_, _, _⟩ := first
  obtain ⟨_, _, _⟩ := second
  exact PairingMaterial.mk.injEq .. ▸ Iff.rfl

theorem lengthPrefixed_of_fits {bytes : List UInt8} (fits : bytes.length < 2 ^ 32) :
    lengthPrefixed bytes = .ok (Framing.bigEndian bytes.length ++ bytes) := if_pos fits

theorem pairingTranscript_comm :
    pairingTranscript first second = pairingTranscript second first := by
  cases firstRole : first.role <;> cases secondRole : second.role <;>
    simp [pairingTranscript, firstRole, secondRole]

theorem pairingTranscript_refuses (same : first.role = second.role) :
    pairingTranscript first second =
      .err "pairing transcript requires one server and one client" := by
  cases role : second.role <;> simp [pairingTranscript, same, role]

namespace PairingMaterial.Faces

/-- The bytes that a server and a client hash. -/
theorem transcript_eq (faces : server.Faces client) :
    pairingTranscript server client =
      .ok (sasDomain ++ (Framing.bigEndian server.certificate.length ++ (server.certificate ++
        (Framing.bigEndian client.certificate.length ++ (client.certificate ++
          (server.nonce ++ client.nonce)))))) := by
  simp only [pairingTranscript, faces.serverRole, faces.clientRole, Outcome.ok_bind,
    lengthPrefixed_of_fits faces.server.certificate,
    lengthPrefixed_of_fits faces.client.certificate, Outcome.pure_eq, List.append_assoc]

/-- The hashed bytes determine both sides. -/
theorem transcript_inj (faces : server.Faces client) (otherFaces : otherServer.Faces otherClient) :
    pairingTranscript server client = pairingTranscript otherServer otherClient ↔
      server = otherServer ∧ client = otherClient := by
  constructor
  · intro same
    rw [faces.transcript_eq, otherFaces.transcript_eq, Outcome.ok.injEq,
      List.append_cancel_left_eq] at same
    obtain ⟨serverCertificates, same⟩ :=
      Framing.lengthPrefixed_inj faces.server.certificate otherFaces.server.certificate same
    obtain ⟨clientCertificates, same⟩ :=
      Framing.lengthPrefixed_inj faces.client.certificate otherFaces.client.certificate same
    obtain ⟨serverNonces, clientNonces⟩ :=
      List.append_inj same (faces.server.nonce.trans otherFaces.server.nonce.symm)
    rw [PairingMaterial.eq_iff, PairingMaterial.eq_iff]
    exact ⟨⟨faces.serverRole.trans otherFaces.serverRole.symm, serverCertificates, serverNonces⟩,
      faces.clientRole.trans otherFaces.clientRole.symm, clientCertificates, clientNonces⟩
  · rintro ⟨rfl, rfl⟩
    rfl

end PairingMaterial.Faces

/-! ## The two views of a handshake -/

/-- The role of the other side. -/
def PairingRole.other : PairingRole → PairingRole
  | .server => .client
  | .client => .server

/-- The nonce of a hello. -/
def PairingMessage.nonce : PairingMessage → Option (List UInt8)
  | .hello _ _ _ nonce _ => some nonce
  | _ => none

section Digest

variable (sha256 : List UInt8 → DeviceId)

/-- The digest that the request id and the code of a pairing are cut from. -/
def pairingDigest (first second : PairingMaterial) : Outcome String DeviceId := do
  let transcript ← pairingTranscript first second
  pure (sha256 transcript)

/-- One side of a handshake: its own material, the hello that it has read, the certificate of the
connection, and what it has made of the two. -/
structure PairingView where
  own : PairingMaterial
  hello : PairingMessage
  peerCertificate : Certificate
  peerName : String
  peer : PairingMaterial
  introduced :
    validatePairingHello sha256 hello own.role.other peerCertificate = .ok (peerName, peer)

end Digest

variable {sha256 : List UInt8 → DeviceId}

/-- The proof is cut from the digest. -/
theorem pairingProof_eq :
    pairingProof sha256 first second = (do
      let digest ← pairingDigest sha256 first second
      pure
        { requestId := ⟨Framing.ofBigEndian (digest.bytes.take 8)⟩
          code := ⟨Framing.ofBigEndian (digest.bytes.take 4) % 1000000⟩ }) := by
  unfold pairingProof pairingDigest
  cases pairingTranscript first second <;> rfl

theorem pairingProof_comm :
    pairingProof sha256 first second = pairingProof sha256 second first := by
  rw [pairingProof_eq, pairingProof_eq, pairingDigest, pairingDigest, pairingTranscript_comm]

theorem pairingProof_refuses (same : first.role = second.role) :
    pairingProof sha256 first second =
      .err "pairing transcript requires one server and one client" := by
  rw [pairingProof_eq, pairingDigest, pairingTranscript_refuses same]
  rfl

theorem validatePairingHello_sees {message : PairingMessage} {role : PairingRole}
    {certificate : Certificate} {name : String} {material : PairingMaterial}
    (valid : validatePairingHello sha256 message role certificate = .ok (name, material)) :
    material.role = role ∧ material.certificate = certificate ∧
      message.nonce = some material.nonce := by
  unfold validatePairingHello at valid
  split at valid
  · split_ifs at valid with _ expected
    obtain ⟨_, rfl⟩ := Prod.mk.inj (Outcome.ok.inj valid)
    exact ⟨not_not.mp expected, rfl, rfl⟩
  · cases valid

namespace PairingView

/-- The digest that this side obtains. -/
def digest (view : PairingView sha256) : Outcome String DeviceId :=
  pairingDigest sha256 view.own view.peer

/-- This side has seen the certificate and the nonce of the other. -/
def Saw (view other : PairingView sha256) : Prop :=
  view.peerCertificate = other.own.certificate ∧ view.hello.nonce = some other.own.nonce

variable {host guest : PairingView sha256}

theorem saw_iff (role : guest.own.role = host.own.role.other) :
    host.Saw guest ↔ host.peer = guest.own := by
  obtain ⟨peerRole, certificate, nonce⟩ := validatePairingHello_sees host.introduced
  rw [Saw, PairingMaterial.eq_iff, nonce, certificate, peerRole, role, Option.some.injEq]
  exact (and_iff_right rfl).symm

end PairingView

/-- The transcript identifies the handshake, and is made for opposite roles only: the digests of the
two sides agree exactly when each has seen the certificate and the nonce of the other. -/
theorem pairing_transcript_identifies {host guest : PairingView sha256}
    (hostRole : host.own.role = .server) (guestRole : guest.own.role = .client)
    (hostSized : host.own.Sized ∧ host.peer.Sized)
    (guestSized : guest.own.Sized ∧ guest.peer.Sized)
    (collisionFree : ∀ hosts guests, pairingTranscript host.own host.peer = .ok hosts →
      pairingTranscript guest.own guest.peer = .ok guests → sha256 hosts = sha256 guests →
        hosts = guests) :
    (∀ first second, pairingTranscript first second = pairingTranscript second first ∧
        pairingProof sha256 first second = pairingProof sha256 second first) ∧
      (∀ first second, first.role = second.role → pairingProof sha256 first second =
        .err "pairing transcript requires one server and one client") ∧
      (∀ server client otherServer otherClient : PairingMaterial,
        server.Faces client → otherServer.Faces otherClient →
          (pairingTranscript server client).IsOk ∧
            (pairingTranscript server client = pairingTranscript otherServer otherClient ↔
              server = otherServer ∧ client = otherClient)) ∧
      (host.digest.IsOk ∧ guest.digest.IsOk) ∧
      (host.digest = guest.digest ↔ host.Saw guest ∧ guest.Saw host) := by
  have hostFaces : host.own.Faces host.peer :=
    ⟨hostRole, by rw [(validatePairingHello_sees host.introduced).1, hostRole]; rfl,
      hostSized.1, hostSized.2⟩
  have guestFaces : guest.peer.Faces guest.own :=
    ⟨by rw [(validatePairingHello_sees guest.introduced).1, guestRole]; rfl, guestRole,
      guestSized.2, guestSized.1⟩
  have agree : host.digest = guest.digest ↔
      pairingTranscript host.own host.peer = pairingTranscript guest.peer guest.own := by
    rw [PairingView.digest, PairingView.digest, pairingDigest, pairingDigest,
      @pairingTranscript_comm guest.own]
    rw [@pairingTranscript_comm guest.own] at collisionFree
    rw [hostFaces.transcript_eq, guestFaces.transcript_eq] at collisionFree ⊢
    constructor
    · intro same
      exact congrArg Outcome.ok (collisionFree _ _ rfl rfl (Outcome.ok.inj same))
    · intro same
      rw [same]
  refine ⟨fun _ _ => ⟨pairingTranscript_comm, pairingProof_comm⟩, fun _ _ => pairingProof_refuses,
    fun _ _ _ _ faces otherFaces => ⟨⟨_, faces.transcript_eq⟩, faces.transcript_inj otherFaces⟩,
    ⟨?_, ?_⟩, ?_⟩
  · exact ⟨_, by rw [PairingView.digest, pairingDigest, hostFaces.transcript_eq]; rfl⟩
  · exact ⟨_, by
      rw [PairingView.digest, pairingDigest, pairingTranscript_comm, guestFaces.transcript_eq]
      rfl⟩
  · rw [agree, hostFaces.transcript_inj guestFaces,
      PairingView.saw_iff (by rw [guestRole, hostRole]; rfl),
      PairingView.saw_iff (by rw [guestRole, hostRole]; rfl), @eq_comm _ host.own]
    exact and_comm

/-! ## Two sides that pair -/

def sampleServerMaterial : PairingMaterial where
  role := .server
  certificate := [1]
  nonce := List.replicate 32 0x11

def sampleClientMaterial : PairingMaterial where
  role := .client
  certificate := [2]
  nonce := List.replicate 32 0x22

/-- SHA-256 of the two certificates and of the transcript of the two sides. -/
def sampleSha256 (bytes : List UInt8) : DeviceId :=
  if bytes = [1] then
    ⟨[75, 245, 18, 47, 52, 69, 84, 197, 59, 222, 46, 187, 140, 210, 183, 227, 209, 96, 10, 214, 49,
      195, 133, 165, 215, 204, 226, 60, 119, 133, 69, 154], rfl⟩
  else if bytes = [2] then
    ⟨[219, 193, 180, 201, 0, 255, 228, 141, 87, 91, 93, 165, 198, 56, 4, 1, 37, 246, 93, 176, 254,
      62, 36, 73, 75, 118, 234, 152, 100, 87, 217, 134], rfl⟩
  else if pairingTranscript sampleServerMaterial sampleClientMaterial = .ok bytes then
    ⟨[48, 112, 169, 45, 147, 178, 164, 75, 249, 157, 55, 237, 51, 151, 209, 184, 126, 76, 207,
      173, 158, 47, 188, 244, 237, 119, 157, 90, 252, 16, 109, 150], rfl⟩
  else
    ⟨List.replicate 32 0, rfl⟩

def sampleHostView : PairingView sampleSha256 where
  own := sampleServerMaterial
  hello := sampleClientMaterial.hello sampleSha256 "laptop"
  peerCertificate := [2]
  peerName := "laptop"
  peer := sampleClientMaterial
  introduced := by decide

def sampleGuestView : PairingView sampleSha256 where
  own := sampleClientMaterial
  hello := sampleServerMaterial.hello sampleSha256 "desk"
  peerCertificate := [1]
  peerName := "desk"
  peer := sampleServerMaterial
  introduced := by decide

theorem pairing_transcript_identifies_sample :
    sampleHostView.digest = sampleGuestView.digest :=
  (@pairing_transcript_identifies _ sampleHostView sampleGuestView rfl rfl
    ⟨⟨by decide, rfl⟩, by decide, rfl⟩ ⟨⟨by decide, rfl⟩, by decide, rfl⟩
    (fun _ _ hosts guests _ =>
      Outcome.ok.inj (hosts.symm.trans (pairingTranscript_comm.trans guests)))).2.2.2.2.mpr
    ⟨⟨rfl, rfl⟩, rfl, rfl⟩

end Rflow
