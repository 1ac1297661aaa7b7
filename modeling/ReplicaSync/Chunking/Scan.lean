import ReplicaSync.Chunking.Limits
import ReplicaSync.Chunking.RollingHash
import ReplicaSync.Signature.Basic

/-!
# Cutting a stream into blocks

A scan goes over a stream byte by byte. A block is closed after a byte when it has reached the
maximum, or when it has reached the minimum and the rolling hash of the stream so far has the
bits of the mask clear. The rolling hash runs on across cuts. The end of the stream closes
what is left.

`Chunker.signature` scans a byte string that is there as a whole. A scan keeps all bytes of the open
block. What is read through a buffer is cut alike without them.
-/

set_option autoImplicit false

namespace ReplicaSync

/-- A scan under way. -/
structure Scan where
  hash : RollingHash := .fresh
  /-- The bytes of the open block, newest first. -/
  pending : Bytes := []
  /-- The number of bytes in the open block. -/
  length : UInt32 := 0
  /-- Where the open block begins. -/
  start : UInt64 := 0
  /-- The closed blocks, newest first. -/
  closed : List Block := []

namespace Scan

/-- Closes the open block. -/
def close (scan : Scan) : Scan :=
  { scan with
    pending := []
    length := 0
    start := scan.start + scan.length.toUInt64
    closed := ⟨scan.start, scan.length, .ofContent scan.pending.reverse⟩ :: scan.closed }

/-- Goes on by one byte. -/
def step (limits : Limits) (scan : Scan) (byte : UInt8) : Scan :=
  let hash := scan.hash.roll byte
  let grown := { scan with hash, pending := byte :: scan.pending, length := scan.length + 1 }
  if limits.cuts hash.value grown.length then grown.close else grown

/-- Goes on by more bytes. -/
def feed (limits : Limits) (scan : Scan) (bytes : Bytes) : Scan :=
  bytes.foldl (step limits) scan

/-- Bytes can go through a scan in parts. -/
theorem feed_append (limits : Limits) (scan : Scan) (first second : Bytes) :
    scan.feed limits (first ++ second) = (scan.feed limits first).feed limits second :=
  List.foldl_append

/-- The signature of what has been scanned, when the stream ends here. -/
def finish (scan : Scan) : Signature :=
  let final := if 0 < scan.length then scan.close else scan
  ⟨final.closed.reverse, final.start⟩

end Scan

namespace Chunker

/-- The signature of a byte string. -/
def signature (chunker : Chunker) (content : Bytes) : Signature :=
  (Scan.feed chunker.limits {} content).finish

end Chunker

end ReplicaSync
