import ReplicaSync.Chunking.Reader
import ReplicaSync.Chunking.Scan

/-!
# Generating signatures from streams

A stream comes through a buffer. Every attempt to read overwrites its front, and a pass goes over
the bytes there one by one. The rolling hash, the hasher for the open block and the length of this
block are kept from one read to the next (`Draft`). The bytes themselves are not: the hasher gets
them a segment at a time. A segment begins at the front of the buffer or behind the last cut, and
ends with the next cut or with the bytes in the buffer (`Pass.step`, `Draft.read`). A `Scan` of the
same bytes has all of the open block at hand instead.

`Chunker.generate` reads a stream to its end and fails when an attempt to read does.
-/

set_option autoImplicit false

namespace ReplicaSync

/-! ## The buffer -/

/-- The buffer that a stream is read into. -/
abbrev Buffer := Vector UInt8 Reader.bufferSize

namespace Buffer

/-- A buffer that nothing has been read into. -/
def blank : Buffer := .replicate Reader.bufferSize 0

/-- Overwrites the buffer with some bytes from the given place on. -/
def fill (buffer : Buffer) (place : Nat) : Bytes → Buffer
  | [] => buffer
  | byte :: rest => fill (buffer.setIfInBounds place byte) (place + 1) rest

/-- The first bytes in the buffer. -/
def front (buffer : Buffer) (count : Nat) : Array UInt8 :=
  buffer.toArray.extract 0 count

end Buffer

/-! ## Passes over the buffer -/

/-- A signature in the making. -/
structure Draft where
  hash : RollingHash := .fresh
  /-- The hasher for the open block. -/
  hasher : Sha256.Hasher := .fresh
  /-- Where the open block begins. -/
  start : UInt64 := 0
  /-- The number of bytes in the open block. -/
  length : UInt32 := 0
  /-- The closed blocks, newest first. -/
  closed : List Block := []

/-- A pass over the bytes that a read has brought. -/
structure Pass extends Draft where
  /-- The number of bytes passed. -/
  index : Nat := 0
  /-- The number of bytes passed when the segment began which the hasher has not got yet. -/
  segment : Nat := 0

namespace Pass

/-- Passes the next byte. If a block ends with it, the hasher gets the segment up to this byte. -/
def step (limits : Limits) (data : Array UInt8) (pass : Pass) (byte : UInt8) : Pass :=
  let hash := pass.hash.roll byte
  let length := pass.length + 1
  if limits.cuts hash.value length then
    let hasher := pass.hasher.update (data.extract pass.segment (pass.index + 1)).toList
    { hash
      hasher := .fresh
      start := pass.start + length.toUInt64
      length := 0
      closed := ⟨pass.start, length, .ofHasher hasher⟩ :: pass.closed
      index := pass.index + 1
      segment := pass.index + 1 }
  else { pass with hash, length, index := pass.index + 1 }

/-- Passes some bytes. -/
def advance (limits : Limits) (data : Array UInt8) (pass : Pass) (bytes : Bytes) : Pass :=
  bytes.foldl (step limits data) pass

end Pass

namespace Draft

/-- Passes all bytes that a read has brought. At the end the hasher gets what remains of them. -/
def read (limits : Limits) (draft : Draft) (data : Array UInt8) : Draft :=
  let pass := Pass.advance limits data { draft with } data.toList
  { pass.toDraft with
    hasher := pass.hasher.update (data.extract pass.segment data.size).toList }

/-- Reads some bytes, as many at a time as the buffer holds. -/
def deliver (limits : Limits) (draft : Draft) (buffer : Buffer) (bytes : Bytes) :
    Draft × Buffer :=
  if _some_left : bytes = [] then (draft, buffer)
  else
    let brought := bytes.take Reader.bufferSize
    let filled := buffer.fill 0 brought
    deliver limits (draft.read limits (filled.front brought.length)) filled
      (bytes.drop Reader.bufferSize)
  termination_by bytes.length
  decreasing_by
    have some_bytes := List.length_pos_iff.mpr _some_left
    rw [List.length_drop, Reader.bufferSize]
    omega

/-- The signature, when the stream ends here. The end of the stream closes the open block. -/
def finish (draft : Draft) : Signature :=
  if 0 < draft.length then
    let last : Block := ⟨draft.start, draft.length, .ofHasher draft.hasher⟩
    ⟨(last :: draft.closed).reverse, draft.start + draft.length.toUInt64⟩
  else ⟨draft.closed.reverse, draft.start⟩

end Draft

/-! ## Generation -/

namespace Chunker

/-- Goes on with what the reads bring, up to the end of the stream. -/
def generateFrom (limits : Limits) : Draft → Buffer → List Read → Except Fault Signature
  | draft, _, [] => .ok draft.finish
  | draft, _, .bytes [] :: _ => .ok draft.finish
  | draft, buffer, .bytes (first :: rest) :: reads =>
      let (draft, buffer) := draft.deliver limits buffer (first :: rest)
      generateFrom limits draft buffer reads
  | draft, buffer, .interrupted :: reads => generateFrom limits draft buffer reads
  | _, _, .failed cause :: _ => .error (.io cause)

/-- The signature of the stream that a sequence of reads delivers. -/
def generate (chunker : Chunker) (reads : List Read) : Except Fault Signature :=
  generateFrom chunker.limits {} .blank reads

end Chunker

end ReplicaSync
