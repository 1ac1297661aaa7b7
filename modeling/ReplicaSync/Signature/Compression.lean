import ReplicaSync.Frame.Basic

/-!
# Compression

Signatures are stored compressed. What the library needs of a compression is that it loses
nothing; how small the result is does not matter to it. So everything that stores signatures is
given a compression, and the law that decompressing undoes compressing is part of it.

The stored frame is the compression that writes a frame with the payload as it is.
-/

set_option autoImplicit false

namespace ReplicaSync

/-- A way to compress byte strings without loss. -/
structure Compression where
  compress : Bytes → Bytes
  decompress : Bytes → Except IoFault Bytes
  decompress_compress : ∀ payload, decompress (compress payload) = .ok payload

namespace Compression

/-- The compression that leaves a payload as it is, in one frame. -/
def storedFrame : Compression where
  compress := Frame.store
  decompress bytes := (Frame.readAll bytes).mapError .frame
  decompress_compress payload := by rw [Frame.readAll_store]; rfl

end Compression

end ReplicaSync
