import ReplicaSync.Signature.Basic
import ReplicaSync.Signature.Compression

/-!
# Stored form of signatures

A stored signature is a header of eight bytes and a compressed payload. The header holds four
magic bytes and the length of the payload before compression, as a little-endian 32-bit number.
The payload holds the number of blocks, the blocks, and the length of the stream, all numbers
little-endian: an offset takes eight bytes, a length of a block four, a digest 32, and the other
two numbers eight each.

Encoding takes any signature. The header only has room for lengths below two to the power of
32, and a longer payload has the lowest 32 bits of its length there. Decoding checks the header,
the length and at last the signature, and it does not mind bytes after the payload's last field.
-/

set_option autoImplicit false

namespace ReplicaSync

namespace Block

/-- The fields of a block one after the other. -/
def encode (block : Block) : Bytes :=
  Bytes.littleEndian 8 block.offset.toNat ++ Bytes.littleEndian 4 block.length.toNat ++
    block.checksum.bytes

/-- Takes a block off a byte string. -/
def decode? (bytes : Bytes) : Option (Block × Bytes) := do
  let (offset, bytes) ← Bytes.takeNumber? 8 bytes
  let (length, bytes) ← Bytes.takeNumber? 4 bytes
  let (field, bytes) ← Bytes.takeField? 32 bytes
  let checksum ← Digest.ofBytes? field
  return (⟨.ofNat offset, .ofNat length, checksum⟩, bytes)

/-- Takes blocks off a byte string, as many as are asked for, and puts them after those taken
already, which come newest first. -/
def decodeMany? : (count : Nat) → List Block → Bytes → Option (List Block × Bytes)
  | 0, taken, bytes => some (taken.reverse, bytes)
  | count + 1, taken, bytes =>
      match decode? bytes with
      | none => none
      | some (block, rest) => decodeMany? count (block :: taken) rest

end Block

namespace Signature

/-- The bytes that a stored signature begins with. -/
def magic : Bytes := [0x52, 0x46, 0x53, 0x53]

/-! ## Payloads -/

/-- The payload of a signature. -/
def payload (signature : Signature) : Bytes :=
  Bytes.littleEndian 8 signature.blocks.length ++ signature.blocks.flatMap Block.encode ++
    Bytes.littleEndian 8 signature.length.toNat

/-- The signature that a byte string begins with. -/
def ofPayload? (bytes : Bytes) : Option Signature := do
  let (count, bytes) ← Bytes.takeNumber? 8 bytes
  let (blocks, bytes) ← Block.decodeMany? count [] bytes
  let (length, _) ← Bytes.takeNumber? 8 bytes
  return ⟨blocks, .ofNat length⟩

/-! ## Stored form -/

/-- The header of a payload of the given length. -/
def header (payloadLength : Nat) : Bytes :=
  magic ++ Bytes.littleEndian 4 payloadLength

/-- The stored form of a signature. -/
def encode (compression : Compression) (signature : Signature) : Bytes :=
  let payload := signature.payload
  header payload.length ++ compression.compress payload

/-- The signature of a payload whose length the header declares. -/
def ofDeclaredPayload (declared : Nat) (payload : Bytes) : Except Fault Signature :=
  if payload.length ≠ declared then
    .error (.encoding (.payloadLength payload.length declared))
  else
    match ofPayload? payload with
    | none => .error (.encoding .truncated)
    | some signature =>
        match signature.check with
        | .error fault => .error (.input fault)
        | .ok () => .ok signature

/-- The signature with the given stored form. -/
def decode (compression : Compression) (bytes : Bytes) : Except Fault Signature :=
  if (bytes.take 8).length < 8 then .error (.encoding .tooShort)
  else if bytes.take 4 ≠ magic then .error (.encoding .wrongMagic)
  else
    match compression.decompress (bytes.drop 8) with
    | .error fault => .error (.io fault)
    | .ok payload =>
        ofDeclaredPayload (Bytes.ofLittleEndian ((bytes.drop 4).take 4)) payload

end Signature

end ReplicaSync
