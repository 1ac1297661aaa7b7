import ReplicaSync.Digest.Basic
import ReplicaSync.Fault

/-!
# Signatures

A signature describes one snapshot of a byte stream: its blocks in stream order, each with the
digest of its content, and the length of the stream. A well-formed signature tiles the stream:
its blocks have bytes, begin where the block before them ends, and end with the stream.

Signatures from elsewhere may be malformed. `Signature.check` names the first fault.
-/

set_option autoImplicit false

namespace ReplicaSync

/-- One block of a stream. -/
structure Block where
  /-- Where the first byte of the block stands. -/
  offset : UInt64
  /-- The number of bytes. -/
  length : UInt32
  /-- The digest of the content. -/
  checksum : Digest
  deriving DecidableEq

/-- Where the first byte after a block stands. -/
def Block.stop (block : Block) : UInt64 :=
  block.offset + block.length.toUInt64

/-- The blocks of a stream and its length. -/
structure Signature where
  blocks : List Block
  length : UInt64
  deriving DecidableEq

namespace Signature

/-- The signature of the stream without bytes. -/
def empty : Signature := ⟨[], 0⟩

instance : Inhabited Signature := ⟨empty⟩

/-- Follows the blocks from the given index and offset to the offset where they end. -/
def checkBlocks : (index : Nat) → (expected : UInt64) → List Block → Except InputFault UInt64
  | _, expected, [] => .ok expected
  | index, expected, block :: rest =>
      if block.length = 0 then .error (.emptyBlock index block.offset)
      else if block.offset ≠ expected then
        .error (.misplacedBlock index block.offset expected)
      else checkBlocks (index + 1) block.stop rest

/-- Accepts the signatures that tile their stream. -/
def check (signature : Signature) : Except InputFault Unit :=
  match checkBlocks 0 0 signature.blocks with
  | .error fault => .error fault
  | .ok covered =>
      if covered = signature.length then .ok ()
      else .error (.uncovered covered signature.length)

/-- The signature with the given blocks and length, if they tile the stream. -/
def ofBlocks (blocks : List Block) (length : UInt64) : Except Fault Signature :=
  match check ⟨blocks, length⟩ with
  | .error fault => .error (.input fault)
  | .ok () => .ok ⟨blocks, length⟩

end Signature

end ReplicaSync
