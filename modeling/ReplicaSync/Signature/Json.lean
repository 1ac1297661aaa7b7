import ReplicaSync.Digest.Json
import ReplicaSync.Signature.Basic

/-!
# Signatures in JSON

Blocks and signatures are records. Reading a signature does not check that its blocks tile the
stream.
-/

set_option autoImplicit false

namespace ReplicaSync

namespace Block

/-- The JSON form of a block. -/
def toJson (block : Block) : Json :=
  .record [("offset", .ofNat block.offset.toNat), ("length", .ofNat block.length.toNat),
    ("checksum", block.checksum.toJson)]

/-- The block with the given JSON form. -/
def ofJson? (value : Json) : Option Block :=
  match value.fields? ["offset", "length", "checksum"] with
  | some [some offset, some length, some checksum] => do
      return ⟨← offset.uint64?, ← length.uint32?, ← Digest.ofJson? checksum⟩
  | _ => none

end Block

namespace Signature

/-- The JSON form of a signature. -/
def toJson (signature : Signature) : Json :=
  .record [("blocks", .array (signature.blocks.map Block.toJson)),
    ("length", .ofNat signature.length.toNat)]

/-- The signature with the given JSON form. -/
def ofJson? (value : Json) : Option Signature :=
  match value.fields? ["blocks", "length"] with
  | some [some blocks, some length] => do
      return ⟨← blocks.list? Block.ofJson?, ← length.uint64?⟩
  | _ => none

end Signature

end ReplicaSync
