import Deckhand.Wasm.Admission

namespace Deckhand
open Lib

abbrev PathParts := List String

inductive FileKind where
  | symlink | directory | regular | socket | other
  deriving DecidableEq

structure Metadata where
  kind : FileKind
  uid : Nat
  mode : Nat
  size : Nat

namespace Metadata

def symlink (m : Metadata) : Bool := m.kind = .symlink

def directory (m : Metadata) : Bool := m.kind = .directory

def regular (m : Metadata) : Bool := m.kind = .regular

def socket (m : Metadata) : Bool := m.kind = .socket

end Metadata

/-- The file system at the time of a load; what is missing raises. -/
structure Files where
  resolve : PathParts → Option PathParts
  lstat : PathParts → Option Metadata
  read : PathParts → Option (List UInt8)

inductive PemKey where
  | ed25519 (key : List UInt8)
  | other

structure Cryptography where
  sha256 : List UInt8 → String
  loadPemPublicKey : List UInt8 → Option PemKey
  b64decode : List UInt8 → Option (List UInt8)
  verify : (key signature : List UInt8) → (message : String) → Bool

structure WasmHostConnection where
  socketPath : PathParts
  socketRoot : PathParts
  expectedUid : Nat
  artifactPath : PathParts
  signaturePath : PathParts
  publicKeyPath : PathParts
  trustRoot : PathParts
  trustOwnerUid : Nat
  artifactOwnerUid : Nat
  maxArtifactBytes : Nat

inductive HostFault where
  | protocol (error : HostProtocolError)
  | osError
  | valueError

def violation (message : String) : HostFault := .protocol ⟨message⟩

/-- Whether its group or everyone can write it. -/
def Metadata.sharedWrite (m : Metadata) : Bool := m.mode &&& 0o022 ≠ 0

def isBlank (b : UInt8) : Bool := b = 0x20 || (0x09 ≤ b && b ≤ 0x0d)

/-- `bytes.strip` -/
def stripBytes (bytes : List UInt8) : List UInt8 :=
  ((bytes.dropWhile isBlank).reverse.dropWhile isBlank).reverse

section
variable (files : Files) (crypto : Cryptography) (connection : WasmHostConnection)

def artifactDigest (path : PathParts) (maxBytes : Nat) : Except HostFault String := do
  let metadata ← demand (files.lstat path) .osError
  refuse (metadata.symlink = true ∨ metadata.regular = false)
    (violation "host artifact must be a regular non-symlink file")
  refuse (maxBytes < metadata.size) (violation "host artifact exceeds the configured size limit")
  let artifact ← demand (files.read path) .osError
  return "sha256:" ++ crypto.sha256 artifact

def validateTrusted (path : PathParts) : Except HostFault Unit := do
  let metadata ← demand (files.lstat path) .osError
  refuse (metadata.symlink = true) (violation "host trust paths cannot be symlinks")
  refuse (metadata.uid ≠ connection.trustOwnerUid)
    (violation "host trust paths have an unexpected owner")
  refuse (metadata.sharedWrite = true) (violation "host trust paths cannot be group/world writable")

def validateTrustPath : Except HostFault Unit := do
  let trustRoot ← demand (files.resolve connection.trustRoot) .osError
  let keyPath ← demand (files.resolve connection.publicKeyPath) .osError
  refuse (trustRoot ≠ connection.trustRoot ∨ keyPath ≠ connection.publicKeyPath)
    (violation "host trust paths cannot contain symlinks")
  refuse (¬ trustRoot <+: keyPath)
    (violation "host public key is outside the configured trust root")
  validateTrusted files connection trustRoot
  validateTrusted files connection keyPath
  let root ← demand (files.lstat trustRoot) .osError
  refuse (root.directory = false) (violation "host trust root must be a directory")
  let key ← demand (files.lstat keyPath) .osError
  refuse (key.regular = false) (violation "host trust key must be a regular file")

def PemKey.ed25519? : PemKey → Option (List UInt8)
  | .ed25519 key => some key
  | .other => none

def signatureFailed : HostFault := violation "host artifact signature verification failed"

def verifySignedArtifact (expectedDigest : String) : Except HostFault Unit := do
  let artifactPath ← demand (files.resolve connection.artifactPath) .osError
  refuse (artifactPath ≠ connection.artifactPath)
    (violation "host artifact path cannot contain symlinks")
  let metadata ← demand (files.lstat artifactPath) .osError
  refuse (metadata.uid ≠ connection.artifactOwnerUid)
    (violation "host artifact has an unexpected owner")
  refuse (metadata.sharedWrite = true) (violation "host artifact cannot be group/world writable")
  let actualDigest ← artifactDigest files crypto artifactPath connection.maxArtifactBytes
  refuse (actualDigest ≠ expectedDigest)
    (violation "host artifact digest does not match the plugin lock")
  validateTrustPath files connection
  let pem ← demand (files.read connection.publicKeyPath) .osError
  let publicKey ← demand (crypto.loadPemPublicKey pem) .valueError
  let key ← demand publicKey.ed25519? (violation "host trust key must be an Ed25519 public key")
  let text ← demand (files.read connection.signaturePath) .osError
  let signature ← demand (crypto.b64decode (stripBytes text)) signatureFailed
  refuse (crypto.verify key signature expectedDigest = false) signatureFailed

/-- `WasmHostClient(...).handshake()`: `answer` is what the host's response to a handshake was
validated to, if there was one. -/
def handshakeWith (py : Builtins) (answer : String → WasmHostConnection → Option HostHandshake)
    (pluginId expectedDigest : String) : Except HostFault HostHandshake := do
  verifySignedArtifact files crypto connection expectedDigest
  let handshake ← demand (answer pluginId connection) .osError
  (validateHandshake py pluginId expectedDigest handshake).mapError .protocol
  return handshake

end

section Verified
variable {files : Files} {crypto : Cryptography} {connection : WasmHostConnection}

theorem verified_digest {expected : String}
    (verified : verifySignedArtifact files crypto connection expected = .ok ()) :
    artifactDigest files crypto connection.artifactPath connection.maxArtifactBytes =
    .ok expected := by
  simp only [verifySignedArtifact, bind_ok, refuse_ok, demand_ok] at verified
  obtain ⟨path, -, _, same, _, -, _, -, _, -, digest, read, _, expects, -⟩ := verified
  rw [Decidable.not_not.mp same, Decidable.not_not.mp expects] at read
  exact read

theorem handshake_digest {py : Builtins}
    {answer : String → WasmHostConnection → Option HostHandshake} {pluginId expected : String}
    {handshake : HostHandshake}
    (shaken : handshakeWith files crypto connection py answer pluginId expected = .ok handshake) :
    artifactDigest files crypto connection.artifactPath connection.maxArtifactBytes = .ok expected ∧
      handshake.artifactDigest = expected ∧ handshake.manifest.id = pluginId := by
  simp only [handshakeWith, bind_ok] at shaken
  obtain ⟨_, verified, given, -, _, valid, same⟩ := shaken
  cases pure_ok.mp same
  refine ⟨verified_digest verified, ?_⟩
  cases checked : validateHandshake py pluginId expected handshake with
  | error x =>
    rw [checked] at valid
    cases valid
  | ok _ =>
    simp only [validateHandshake, refuse_bind] at checked
    obtain ⟨-, ids, digest, -⟩ := checked
    exact ⟨Decidable.not_not.mp digest, Decidable.not_not.mp fun other => ids (.inr other)⟩

end Verified

end Deckhand
