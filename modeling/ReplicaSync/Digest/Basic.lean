import ReplicaSync.Digest.Sha256

/-!
# Digests

A digest is a string of 32 bytes. The digest of a content is its SHA-256 hash, and two
blocks are taken to hold the same content when their digests agree.
-/

set_option autoImplicit false

namespace ReplicaSync

/-- Thirty-two bytes that stand for a content. -/
structure Digest where
  bytes : Bytes
  length_eq : bytes.length = 32
  deriving DecidableEq

namespace Digest

instance : Hashable Digest := ⟨fun digest => hash digest.bytes⟩

/-- The digest with the given bytes, if there are 32 of them. -/
def ofBytes? (bytes : Bytes) : Option Digest :=
  if enough : bytes.length = 32 then some ⟨bytes, enough⟩ else none

/-- The digest of a content. -/
def ofContent (content : Bytes) : Digest :=
  ⟨Sha256.hash content, Sha256.length_hash content⟩

/-- The digest of the content that has gone through a hasher. -/
def ofHasher (hasher : Sha256.Hasher) : Digest :=
  ⟨hasher.finish, hasher.length_finish⟩

/-- A digest is found again from its bytes. -/
@[simp] theorem ofBytes?_bytes (digest : Digest) : ofBytes? digest.bytes = some digest := by
  simp [ofBytes?, digest.length_eq]

end Digest

end ReplicaSync
