/-
Server certificates: the fingerprint shown to the user, and the trust anchor a connection is pinned to.

openssl is not part of the repository. `CertLib` is what the code uses of it; the code around it is here as the
repository has it.
-/
import Mathlib

namespace MumbledFlight

/-- openssl's certificate parser and digest, and the text of a UTF-8 error -/
structure CertLib (X509 : Type) where
  stackFromPem : ByteArray → Option (List X509)
  fromDer : ByteArray → Except String X509
  sha256 : X509 → Except String (List UInt8)
  utf8Error : ByteArray → String

/-- what a probe of a server's certificate brings back -/
structure ProbedCert where
  pem : ByteArray
  sha256 : String
deriving DecidableEq

structure ServerTrust where
  anchors : ByteArray
deriving DecidableEq

section

variable {X509 : Type} (lib : CertLib X509)

/-- a PEM bundle, or a single DER certificate -/
def ServerTrust.parse (bytes : ByteArray) : Except String (List X509) :=
  match lib.stackFromPem bytes with
  | some (cert :: stack) => .ok (cert :: stack)
  | _ =>
    match lib.fromDer bytes with
    | .ok der => .ok [der]
    | .error e => .error ("not a PEM or DER certificate: " ++ e)

def ServerTrust.fromPem (pem : ByteArray) : Except String ServerTrust :=
  match ServerTrust.parse lib pem with
  | .error e => .error e
  | .ok [] => .error "no certificates found in pinned certificate"
  | .ok _ => .ok ⟨pem⟩

/-- a byte as two upper-case hex digits -/
def hexByte (b : UInt8) : String :=
  String.ofList [(Nat.digitChar (b.toNat / 16)).toUpper, (Nat.digitChar (b.toNat % 16)).toUpper]

def fingerprintHex (x509 : X509) : Except String String :=
  match lib.sha256 x509 with
  | .error e => .error e
  | .ok digest => .ok (String.intercalate ":" (digest.map hexByte))

def certFingerprint (cert : ByteArray) : Except String String :=
  match ServerTrust.parse lib cert with
  | .error e => .error e
  | .ok [] => .error "no certificate to fingerprint"
  | .ok (x509 :: _) => fingerprintHex lib x509

end

/-- an anchor is the certificate it was made from -/
theorem fromPem_anchors {X509 : Type} {lib : CertLib X509} {pem : ByteArray} {trust : ServerTrust}
    (h : ServerTrust.fromPem lib pem = .ok trust) : trust.anchors = pem := by
  unfold ServerTrust.fromPem at h
  split at h
  · cases h
  · cases h
  · cases h; rfl

end MumbledFlight
