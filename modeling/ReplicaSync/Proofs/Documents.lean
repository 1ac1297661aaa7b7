import ReplicaSync.Config.Basic
import ReplicaSync.Plan.Json
import ReplicaSync.Proofs.Revision.Documents
import ReplicaSync.Signature.Json

/-!
# Documents

Everything that is written as a JSON document is read back as it was: revisions, properties and
what is said about conflicts, and here also digests, signatures, plans and configurations. A piece
of a plan is kept whole before it is read, so it must not nest too deep, and its numbers must be
within the range of doubles; what is written keeps to that.

`DocumentKind` lists the kinds of values that have documents. For every kind, the document of a
value is read as that value, and a document that has been read and printed again does not change
any more (`DocumentKind.parse?_print_and_normal_idem`).
-/

set_option autoImplicit false

namespace ReplicaSync

/-! ## Digests and signatures -/

namespace Digest

theorem faithful : Json.Faithful toJson ofJson? where
  integral digest := Json.integral_array_map (fun _ => Json.integral_ofNat _) digest.bytes
  read_write digest := by
    have bytes : (toJson digest).list? Json.uint8? = some digest.bytes :=
      Json.list?_array_map Json.uint8?_ofNat digest.bytes
    rw [ofJson?, bytes, Option.bind_some, ofBytes?_bytes]

end Digest

namespace Block

theorem faithful : Json.Faithful toJson ofJson? where
  integral block :=
    ⟨Json.integral_ofNat _, Json.integral_ofNat _, Digest.faithful.integral block.checksum, trivial⟩
  read_write block := by
    have fields : block.toJson.fields? ["offset", "length", "checksum"] =
        some [some (.ofNat block.offset.toNat), some (.ofNat block.length.toNat),
          some block.checksum.toJson] := by
      rfl
    rw [ofJson?, fields]
    dsimp only
    rw [Json.uint64?_ofNat, Json.uint32?_ofNat, Digest.faithful.read_write]
    rfl

end Block

namespace Signature

theorem faithful : Json.Faithful toJson ofJson? where
  integral signature :=
    ⟨Json.integral_array_map Block.faithful.integral signature.blocks, Json.integral_ofNat _,
      trivial⟩
  read_write signature := by
    have fields : signature.toJson.fields? ["blocks", "length"] =
        some [some (.array (signature.blocks.map Block.toJson)),
          some (.ofNat signature.length.toNat)] := by
      rfl
    rw [ofJson?, fields]
    dsimp only
    rw [Json.list?_array_map Block.faithful.read_write, Json.uint64?_ofNat]
    rfl

end Signature

/-! ## Plans -/

namespace Piece

theorem sideOfName?_name (side : Side) : sideOfName? (.ofText side.name) = some side := by
  cases side <;> rfl

/-- What is written of a piece can be kept. -/
theorem sound_toJson (piece : Piece) : piece.toJson.sound = true := by
  have offset := Json.Number.outOfRange_ofNat piece.offset.toNat_lt
  have length := Json.Number.outOfRange_ofNat
    (Nat.lt_trans piece.length.toNat_lt (by decide : UInt32.size < UInt64.size))
  have parts : piece.toJson.sound =
      (!(Json.Number.ofInt piece.offset.toNat).outOfRange &&
        (!(Json.Number.ofInt piece.length.toNat).outOfRange && true)) := rfl
  rw [parts, offset, length]
  rfl

/-- A piece is read back wherever it does not lie too deep. -/
theorem faithful {enclosing : Nat} (shallow : enclosing < nestingLimit) :
    Json.Faithful toJson (ofJson? enclosing) where
  integral _ := ⟨trivial, Json.integral_ofNat _, Json.integral_ofNat _, trivial⟩
  read_write piece := by
    have depth : piece.toJson.depth = 1 := rfl
    have kept : (piece.toJson.sound && enclosing + piece.toJson.depth ≤ nestingLimit) = true := by
      rw [sound_toJson, depth, Bool.true_and, decide_eq_true_iff]
      exact shallow
    have fields : piece.toJson.fields? ["kind", "offset", "length"] =
        some [some (.ofText piece.side.name), some (.ofNat piece.offset.toNat),
          some (.ofNat piece.length.toNat)] := by
      rfl
    rw [ofJson?, if_pos kept, fields]
    dsimp only
    rw [sideOfName?_name, Json.uint64?_ofNat, Json.uint32?_ofNat]
    rfl

end Piece

namespace Plan

theorem faithful : Json.Faithful toJson ofJson? where
  integral plan :=
    ⟨Json.integral_array_map (Piece.faithful (by decide : 2 < Piece.nestingLimit)).integral
      plan.pieces, Json.integral_ofNat _, trivial⟩
  read_write plan := by
    have fields : plan.toJson.fields? ["items", "source_length"] =
        some [some (.array (plan.pieces.map Piece.toJson)),
          some (.ofNat plan.sourceLength.toNat)] := by
      rfl
    have back := (Piece.faithful (by decide : 2 < Piece.nestingLimit)).read_write
    rw [ofJson?, fields]
    dsimp only
    rw [Json.list?_array_map back, Json.uint64?_ofNat]
    rfl

end Plan

/-! ## Configurations -/

namespace Limits

theorem faithful : Json.Faithful toJson ofJson? where
  integral _ :=
    ⟨Json.integral_ofNat _, Json.integral_ofNat _, Json.integral_ofNat _, trivial⟩
  read_write limits := by
    have fields :
        limits.toJson.fields? ["min_block_size", "avg_block_size", "max_block_size"] =
          some [some (.ofNat limits.minimum.toNat), some (.ofNat limits.average.toNat),
            some (.ofNat limits.maximum.toNat)] := by
      rfl
    rw [ofJson?, fields]
    dsimp only
    rw [Json.uint32?_ofNat, Json.uint32?_ofNat, Json.uint32?_ofNat]
    rfl

end Limits

namespace Config

theorem faithful : Json.Faithful toJson ofJson? where
  integral config :=
    ⟨Limits.faithful.integral config.limits, Retention.faithful.integral config.retention,
      Json.integral_ofNat _, trivial⟩
  read_write config := by
    have fields : config.toJson.fields? ["chunking", "history", "signature_cache_capacity"] =
        some [some config.limits.toJson, some config.retention.toJson,
          some (.ofNat config.cacheCapacity.toNat)] := by
      rfl
    rw [ofJson?, fields]
    dsimp only
    rw [Json.orDefault_some, Json.orDefault_some, Json.orDefault_some,
      Limits.faithful.read_write, Retention.faithful.read_write, Json.uint64?_ofNat]
    rfl

end Config

/-! ## All documents -/

/-- The kinds of values that are written as documents. -/
inductive DocumentKind where
  | revision
  | history
  | lineage
  | retention
  | properties
  | piece
  | plan
  | conflict
  | resolution
  | digest
  | block
  | signature
  | limits
  | config
  deriving DecidableEq

namespace DocumentKind

/-- The values of a kind. -/
def Value : DocumentKind → Type
  | .revision => Revision
  | .history => List Revision
  | .lineage => Lineage
  | .retention => Retention
  | .properties => Properties
  | .piece => Piece
  | .plan => Plan
  | .conflict => Conflict
  | .resolution => Resolution
  | .digest => Digest
  | .block => Block
  | .signature => Signature
  | .limits => Limits
  | .config => Config

/-- The JSON form of a value. -/
def toJson : (kind : DocumentKind) → kind.Value → Json
  | .revision => Revision.toJson
  | .history => Revision.listToJson
  | .lineage => Lineage.toJson
  | .retention => Retention.toJson
  | .properties => Properties.toJson
  | .piece => Piece.toJson
  | .plan => Plan.toJson
  | .conflict => Conflict.toJson
  | .resolution => Resolution.toJson
  | .digest => Digest.toJson
  | .block => Block.toJson
  | .signature => Signature.toJson
  | .limits => Limits.toJson
  | .config => Config.toJson

/-- The value with the given JSON form. A piece is taken to be a document of its own. -/
def ofJson? : (kind : DocumentKind) → Json → Option kind.Value
  | .revision => Revision.ofJson?
  | .history => Revision.listOfJson?
  | .lineage => Lineage.ofJson?
  | .retention => Retention.ofJson?
  | .properties => Properties.ofJson?
  | .piece => Piece.ofJson? 0
  | .plan => Plan.ofJson?
  | .conflict => Conflict.ofJson?
  | .resolution => Resolution.ofJson?
  | .digest => Digest.ofJson?
  | .block => Block.ofJson?
  | .signature => Signature.ofJson?
  | .limits => Limits.ofJson?
  | .config => Config.ofJson?

/-- The document of a value. -/
def print (kind : DocumentKind) (value : kind.Value) : String :=
  (kind.toJson value).compact

/-- The value of a document. -/
def parse? (kind : DocumentKind) (document : String) : Option kind.Value :=
  (Json.parse? document).bind kind.ofJson?

/-- The document of what a document is read as. -/
def normal? (kind : DocumentKind) (document : String) : Option String :=
  (kind.parse? document).map kind.print

/-- Every kind of value is read back from its JSON form. -/
theorem faithful (kind : DocumentKind) : Json.Faithful kind.toJson kind.ofJson? := by
  cases kind with
  | revision => exact Revision.faithful
  | history => exact Revision.faithful_list
  | lineage => exact Lineage.faithful
  | retention => exact Retention.faithful
  | properties => exact Properties.faithful
  | piece => exact Piece.faithful (by decide)
  | plan => exact Plan.faithful
  | conflict => exact Conflict.faithful
  | resolution => exact Resolution.faithful
  | digest => exact Digest.faithful
  | block => exact Block.faithful
  | signature => exact Signature.faithful
  | limits => exact Limits.faithful
  | config => exact Config.faithful

/-- **The document of a value is read as that value**, whatever its kind. So for every text that a
kind accepts, printing what was read gives a document that is read as the same value and printed
as itself. -/
theorem parse?_print_and_normal_idem (kind : DocumentKind) :
    (∀ value : kind.Value, kind.parse? (kind.print value) = some value) ∧
      ∀ document : String,
        (kind.parse? document).bind (fun value => kind.parse? (kind.print value)) =
            kind.parse? document ∧
          (kind.normal? document).bind kind.normal? = kind.normal? document := by
  have back (value : kind.Value) : kind.parse? (kind.print value) = some value :=
    kind.faithful.parse?_bind value
  refine ⟨back, fun document => ⟨?_, kind.faithful.normal?_bind document⟩⟩
  simp only [back, Option.bind_fun_some]

end DocumentKind

end ReplicaSync
