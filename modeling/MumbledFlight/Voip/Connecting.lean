/-
How a client connects (`MumbleVoipClient::connect`, `ServerTrust::load` and `verify`): the TLS handshake accepts any
certificate, then the server's is verified against the trust anchors, if there are any, and then the client logs in.

openssl's chain verification is a parameter, with every anchor allowed to end the chain. What the network and the system
answer are inputs.

Results, for all answers:
- `parse_ne_nil`, `load_anchors`: an anchor holds a certificate; the source's complaint about a file without one cannot
  occur.
- `mem_connect_authenticate`: the password leaves the client only for a server that was verified against the anchors.
-/
import MumbledFlight.Voip.Certificates
import MumbledFlight.Voip.Stack

namespace MumbledFlight

/-- openssl's verification of a leaf against trust anchors: the reason, if it fails -/
structure TlsLib (X509 : Type) extends CertLib X509 where
  verifyCert : List X509 → X509 → Option String

structure AuthenticateMsg where
  username : String
  password : Option String
  opus : Bool
deriving DecidableEq

inductive LoginPacket where
  | version (version : UInt32) (release : String)
  | authenticate (m : AuthenticateMsg)
deriving DecidableEq

/-- what the network and the system answer -/
structure Handshake where
  tcp : Except String Unit
  /-- the client certificate, or a temporary one -/
  identity : Except String Unit
  tls : Except String Unit
  /-- the certificate the server presents, and its DER form -/
  peer : Except String (Option (Except String ByteArray))
  versionSent : Except String Unit
  authenticateSent : Except String Unit

section

variable {X509 : Type} (lib : TlsLib X509)

/-- `ServerTrust::load`, with what reading the file returns -/
def ServerTrust.load (path : String) (read : Except String ByteArray) : Except String ServerTrust :=
  match read with
  | .error e => .error ("reading server CA/cert '" ++ path ++ "': " ++ e)
  | .ok anchors =>
    match ServerTrust.parse lib.toCertLib anchors with
    | .error e => .error e
    | .ok [] => .error ("no certificates found in '" ++ path ++ "'")
    | .ok _ => .ok ⟨anchors⟩

def ServerTrust.verify (trust : ServerTrust) (peerDer : ByteArray) : Except String Unit :=
  match lib.fromDer peerDer with
  | .error e => .error ("parsing server certificate: " ++ e)
  | .ok leaf =>
    match ServerTrust.parse lib.toCertLib trust.anchors with
    | .error e => .error e
    | .ok anchors =>
      match lib.verifyCert anchors leaf with
      | none => .ok ()
      | some reason => .error ("server certificate not trusted by the provided CA/cert: " ++ reason)

/-- the check between the handshake and the login -/
def checkServer (serverTrust : Option ServerTrust) (peer : Except String (Option (Except String ByteArray))) :
    Except String Unit :=
  match serverTrust with
  | none => .ok ()
  | some trust =>
    match peer with
    | .error e => .error ("reading server certificate: " ++ e)
    | .ok none => .error "server presented no certificate"
    | .ok (some (.error e)) => .error ("encoding server certificate: " ++ e)
    | .ok (some (.ok der)) => trust.verify lib der

def SpawnedClient.authenticate (k : SpawnedClient) : AuthenticateMsg :=
  ⟨k.username, if k.password.isEmpty then none else some k.password, true⟩

/-- the packets handed to the stream, and the outcome -/
def SpawnedClient.connect (k : SpawnedClient) (io : Handshake) : List LoginPacket × Except String Unit :=
  match io.tcp with
  | .error e => ([], .error e)
  | .ok _ =>
    match io.identity with
    | .error e => ([], .error e)
    | .ok _ =>
      match io.tls with
      | .error e => ([], .error e)
      | .ok _ =>
        match checkServer lib k.serverTrust io.peer with
        | .error e => ([], .error e)
        | .ok _ =>
          let version := LoginPacket.version 0x00010400 "MumbledFlight"
          match io.versionSent with
          | .error e => ([version], .error e)
          | .ok _ => ([version, .authenticate k.authenticate], io.authenticateSent)

/-! ## What a login proves -/

/-- the server presented a certificate that verifies against the certificates in the anchors, of which there is one -/
def VerifiedBy (anchors : ByteArray) (peer : Except String (Option (Except String ByteArray))) : Prop :=
  ∃ der leaf certs, peer = .ok (some (.ok der)) ∧ lib.fromDer der = .ok leaf ∧
    ServerTrust.parse lib.toCertLib anchors = .ok certs ∧ certs ≠ [] ∧ lib.verifyCert certs leaf = none

variable {lib}

theorem parse_ne_nil {X509 : Type} {lib : CertLib X509} {bytes : ByteArray} {certs : List X509}
    (h : ServerTrust.parse lib bytes = .ok certs) : certs ≠ [] := by
  unfold ServerTrust.parse at h
  split at h
  · cases h
    exact List.cons_ne_nil _ _
  · split at h
    · cases h
      exact List.cons_ne_nil _ _
    · cases h

/-- a loaded anchor is the file -/
theorem load_anchors {path : String} {read : Except String ByteArray} {trust : ServerTrust}
    (h : ServerTrust.load lib path read = .ok trust) :
    read = .ok trust.anchors ∧ ∃ certs, ServerTrust.parse lib.toCertLib trust.anchors = .ok certs ∧ certs ≠ [] := by
  unfold ServerTrust.load at h
  split at h
  · cases h
  · split at h
    · cases h
    · cases h
    · next hparse =>
      cases h
      exact ⟨rfl, _, hparse, parse_ne_nil hparse⟩

theorem verify_ok {trust : ServerTrust} {der : ByteArray} (h : trust.verify lib der = .ok ()) :
    ∃ leaf certs, lib.fromDer der = .ok leaf ∧ ServerTrust.parse lib.toCertLib trust.anchors = .ok certs ∧
      lib.verifyCert certs leaf = none := by
  unfold ServerTrust.verify at h
  split at h
  · cases h
  · next leaf hleaf =>
    split at h
    · cases h
    · next certs hcerts =>
      split at h
      · next hverified => exact ⟨leaf, certs, hleaf, hcerts, hverified⟩
      · cases h

theorem checkServer_ok {trust : ServerTrust} {peer : Except String (Option (Except String ByteArray))}
    (h : checkServer lib (some trust) peer = .ok ()) : VerifiedBy lib trust.anchors peer := by
  unfold checkServer at h
  split at h
  · next hnone => cases hnone
  · next trust' htrust =>
    cases htrust
    split at h
    · cases h
    · cases h
    · cases h
    · next der =>
      obtain ⟨leaf, certs, hleaf, hcerts, hverified⟩ := verify_ok h
      exact ⟨der, leaf, certs, rfl, hleaf, hcerts, parse_ne_nil hcerts, hverified⟩

theorem mem_connect_authenticate {k : SpawnedClient} {io : Handshake} {m : AuthenticateMsg}
    (h : .authenticate m ∈ (k.connect lib io).1) : m = k.authenticate ∧
      ∀ trust, k.serverTrust = some trust → VerifiedBy lib trust.anchors io.peer := by
  unfold SpawnedClient.connect at h
  split at h
  · cases h
  · split at h
    · cases h
    · split at h
      · cases h
      · split at h
        · cases h
        · next hchecked =>
          have hverified : ∀ trust, k.serverTrust = some trust → VerifiedBy lib trust.anchors io.peer := by
            intro trust htrust
            rw [htrust] at hchecked
            exact checkServer_ok hchecked
          split at h
          · simp at h
          · simp only [List.mem_cons, reduceCtorEq, LoginPacket.authenticate.injEq, List.not_mem_nil, or_false,
              false_or] at h
            exact ⟨h, hverified⟩

end

end MumbledFlight
