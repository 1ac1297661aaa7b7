import ReplicaSync.Plan.Basic
import Std.Data.HashMap

/-!
# Reconciling two signatures

The seed signature describes the bytes at hand, the source signature the bytes to end up with.
A source block whose digest the seed has is copied from the first seed block with that digest.
Every other source block is fetched.

`Signature.blockPlan` is that rule block by block, and `Signature.reconcile` joins the pieces
after both signatures have been checked. The seed blocks are looked up in a table of their first
offsets, and `getElem?_firstOffsets` says that the table answers like a search from the front.
-/

set_option autoImplicit false

namespace ReplicaSync

namespace Signature

/-- Where the first block with the given digest stands. -/
def find? (signature : Signature) (checksum : Digest) : Option UInt64 :=
  (signature.blocks.find? fun block => block.checksum = checksum).map Block.offset

/-- A digest that is found belongs to a block at the place found. -/
theorem exists_of_find?_eq_some {signature : Signature} {checksum : Digest} {offset : UInt64}
    (found : signature.find? checksum = some offset) :
    ∃ block ∈ signature.blocks, block.checksum = checksum ∧ block.offset = offset := by
  obtain ⟨block, first, rfl⟩ := Option.map_eq_some_iff.mp found
  exact ⟨block, List.mem_of_find?_eq_some first,
    by simpa using List.find?_some first, rfl⟩

/-- A digest is not found exactly if no block has it. -/
theorem find?_eq_none_iff {signature : Signature} {checksum : Digest} :
    signature.find? checksum = none ↔ checksum ∉ signature.blocks.map Block.checksum := by
  simp [find?, List.find?_eq_none]

/-- A table of where the first block with each digest stands. -/
def firstOffsets : List Block → Std.HashMap Digest UInt64
  | [] => ∅
  | block :: rest => (firstOffsets rest).insert block.checksum block.offset

/-- The table answers like a search from the front. -/
theorem getElem?_firstOffsets (blocks : List Block) (length : UInt64) (checksum : Digest) :
    (firstOffsets blocks)[checksum]? = find? ⟨blocks, length⟩ checksum := by
  induction blocks with
  | nil => simp [firstOffsets, find?]
  | cons block rest ih =>
      rw [firstOffsets, Std.HashMap.getElem?_insert, ih]
      by_cases same : block.checksum = checksum <;> simp [find?, same]

/-- Where the bytes of a source block come from, when the seed has its content at the given
place. -/
def pieceAt (place : Option UInt64) (block : Block) : Piece :=
  match place with
  | some offset => ⟨.seed, offset, block.length⟩
  | none => ⟨.source, block.offset, block.length⟩

/-- Where the bytes of one source block come from. -/
def pieceFor (seed : Signature) (block : Block) : Piece :=
  pieceAt (seed.find? block.checksum) block

/-- The plan block by block, before pieces are joined. -/
def blockPlan (seed source : Signature) : List Piece :=
  let offsets := firstOffsets seed.blocks
  source.blocks.map fun block => pieceAt offsets[block.checksum]? block

/-- The plan takes every source block by itself. -/
theorem blockPlan_eq_map (seed source : Signature) :
    seed.blockPlan source = source.blocks.map seed.pieceFor := by
  simp only [blockPlan, getElem?_firstOffsets seed.blocks seed.length]
  rfl

/-- Accepts a signature that tiles its stream, and names its side otherwise. -/
def checkSide (side : Side) (signature : Signature) : Except Fault Unit :=
  match signature.check with
  | .ok () => .ok ()
  | .error fault => .error (.input (.onSide side fault))

/-- The plan that turns the seed into the source. -/
def reconcile (seed source : Signature) : Except Fault Plan := do
  seed.checkSide .seed
  source.checkSide .source
  return ⟨Plan.coalesce (seed.blockPlan source), source.length⟩

/-- Signatures that tile their streams can be reconciled. -/
theorem reconcile_of_check {seed source : Signature} (seed_accepted : seed.check = .ok ())
    (source_accepted : source.check = .ok ()) :
    seed.reconcile source = .ok ⟨Plan.coalesce (seed.blockPlan source), source.length⟩ := by
  rw [reconcile, checkSide, checkSide, seed_accepted, source_accepted]
  rfl

end Signature

/-! ## Transfers -/

/-- A plan and how many of its bytes come from either side. -/
structure Transfer where
  plan : Plan
  seedBytes : UInt64
  sourceBytes : UInt64

namespace Transfer

/-- A plan with its counts. -/
def ofPlan (plan : Plan) : Transfer :=
  ⟨plan, plan.seedBytes, plan.sourceBytes⟩

/-- The transfer that turns the seed into the source. -/
def between (seed source : Signature) : Except Fault Transfer :=
  (seed.reconcile source).map ofPlan

/-- The share of the source that is at hand. A transfer without bytes counts as all at hand. -/
def reuseRatio (transfer : Transfer) : Float :=
  let total := transfer.seedBytes + transfer.sourceBytes
  if total = 0 then 1 else transfer.seedBytes.toFloat / total.toFloat

end Transfer

end ReplicaSync
