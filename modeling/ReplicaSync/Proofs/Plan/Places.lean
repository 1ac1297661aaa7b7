import Mathlib.Algebra.BigOperators.Group.List.Basic
import ReplicaSync.Plan.Reconcile
import ReplicaSync.Proofs.Plan.Assembly

/-!
# Where the bytes of a plan come from

Laid end to end, the pieces of a plan give every position of the source a place on one of the two
sides (`Piece.places`). Joining two pieces lays the same places down, as long as no piece reaches
beyond the words, so coalesced pieces give every position the place that the single pieces give
it (`Plan.places_coalesce`). Signatures of few enough blocks leave that room, whatever their
digests and lengths have to do with each other.

So the plan for two signatures sends a position in a source block to the first seed block with
the digest of that block, as far behind its start, or else to the source
(`Signature.places_reconcile`). How many bytes come from either side is then a matter of counting
places.
-/

set_option autoImplicit false

namespace ReplicaSync

namespace Piece

/-- Where the bytes of a piece come from, one after the other. -/
def places (piece : Piece) : List (Side × Nat) :=
  (List.range piece.length.toNat).map fun index => (piece.side, piece.offset.toNat + index)

/-- A piece that has room behind its offset for a length of 32 bits. -/
def Roomy (piece : Piece) : Prop :=
  piece.offset.toNat + UInt32.size ≤ UInt64.size

/-- A piece with room behind its offset ends within the words. -/
theorem Roomy.stop_lt {piece : Piece} (roomy : piece.Roomy) :
    piece.offset.toNat + piece.length.toNat < UInt64.size :=
  Nat.lt_of_lt_of_le (Nat.add_lt_add_left piece.length.toNat_lt _) roomy

/-- A joined piece has the room of the first one. -/
theorem Roomy.of_join? {piece next joined : Piece} (roomy : piece.Roomy)
    (joins : piece.join? next = some joined) : joined.Roomy := by
  obtain ⟨_, _, _, rfl⟩ := join?_eq_some_iff.mp joins
  exact roomy

@[simp] theorem length_places (piece : Piece) : piece.places.length = piece.length.toNat := by
  rw [places, List.length_map, List.length_range]

/-- A joined piece lays down the places of the one piece and then those of the other. -/
theorem places_of_join? {piece next joined : Piece} (roomy : piece.Roomy)
    (joins : piece.join? next = some joined) : joined.places = piece.places ++ next.places := by
  have offset := toNat_offset_of_join? joins roomy.stop_lt
  have length := toNat_length_of_join? joins
  obtain ⟨side, _, _, rfl⟩ := join?_eq_some_iff.mp joins
  simp only [places] at length ⊢
  rw [length, List.range_add, List.map_append, List.map_map, ← side, offset]
  congr 2
  funext index
  simp only [Function.comp_apply, Nat.add_assoc]

end Piece

namespace Plan

/-- Where the bytes that a plan puts together come from, in the order of the source. -/
def places (plan : Plan) : List (Side × Nat) :=
  plan.pieces.flatMap Piece.places

/-- **Coalesced pieces give every position the place that the single pieces give it.** -/
theorem places_coalesce {pieces : List Piece} (roomy : ∀ piece ∈ pieces, piece.Roomy) :
    (coalesce pieces).flatMap Piece.places = pieces.flatMap Piece.places := by
  refine (coalesce_flatMap (fun last piece joined last_roomy _ joins => ?_) pieces roomy).2
  exact ⟨last_roomy.of_join? joins, Piece.places_of_join? last_roomy joins⟩

/-- The lengths of pieces add up to the number of places they lay down. -/
theorem sum_length (pieces : List Piece) :
    (pieces.map fun piece => piece.length.toNat).sum = (pieces.flatMap Piece.places).length := by
  rw [List.length_flatMap]
  congr 1
  exact List.map_congr_left fun piece _ => piece.length_places.symm

/-- The lengths of the pieces on one side add up to the number of places on that side. -/
theorem sum_length_side (side : Side) (pieces : List Piece) :
    ((pieces.filter fun piece => piece.side == side).map fun piece => piece.length.toNat).sum =
      (pieces.flatMap Piece.places).countP fun place => place.1 == side := by
  induction pieces with
  | nil => rfl
  | cons piece rest ih =>
      rw [List.flatMap_cons, List.countP_append, ← ih, Piece.places, List.countP_map]
      cases on_side : piece.side == side <;> simp [on_side, Function.comp_def]

end Plan

namespace Signature

/-- Where the byte at a position of a source block comes from: as far behind the start of the
first seed block with the same digest, or else from the source. -/
def placeOf (seed : Signature) (block : Block) (position : Nat) : Side × Nat :=
  match seed.find? block.checksum with
  | some first => (.seed, first.toNat + (position - block.offset.toNat))
  | none => (.source, position)

/-- The piece for a block lays down the places of the positions in the block. -/
theorem getElem?_places_pieceFor (seed : Signature) (block : Block) {index : Nat}
    (inside : index < block.length.toNat) :
    (seed.pieceFor block).places[index]? =
      some (seed.placeOf block (block.offset.toNat + index)) := by
  rw [Piece.places, List.getElem?_map, pieceFor, placeOf]
  cases seed.find? block.checksum with
  | none =>
      rw [pieceAt, List.getElem?_range inside]
      rfl
  | some first =>
      rw [pieceAt, List.getElem?_range inside, Nat.add_sub_cancel_left]
      rfl

/-- A block is fetched if the seed lacks its digest. -/
theorem isSource_pieceFor (seed : Signature) (block : Block) :
    (seed.pieceFor block).isSource = decide (block.checksum ∉ seed.blocks.map Block.checksum) := by
  rw [pieceFor]
  cases found : seed.find? block.checksum with
  | none => exact (decide_eq_true (find?_eq_none_iff.mp found)).symm
  | some first =>
      have known : ¬ block.checksum ∉ seed.blocks.map Block.checksum := by
        intro lacks
        rw [find?_eq_none_iff.mpr lacks] at found
        cases found
      exact (decide_eq_false known).symm

theorem length_pieceFor (seed : Signature) (block : Block) :
    (seed.pieceFor block).length = block.length := by
  rw [pieceFor]
  cases seed.find? block.checksum <;> rfl

/-- The pieces of the plan are as long together as the blocks of the source. -/
theorem sum_length_coalesce_blockPlan (seed source : Signature) :
    ((Plan.coalesce (seed.blockPlan source)).map fun piece => piece.length.toNat).sum =
      (source.blocks.map fun block => block.length.toNat).sum := by
  rw [Plan.sum_length_coalesce, blockPlan_eq_map, List.map_map]
  simp only [Function.comp_def, length_pieceFor]

/-- The pieces of the plan are as long together as the source, where words can count its bytes. -/
theorem sum_length_of_check (seed : Signature) {source : Signature}
    (few : source.blocks.length < UInt32.size) (accepted : source.check = .ok ()) :
    ((Plan.coalesce (seed.blockPlan source)).map fun piece => piece.length.toNat).sum =
      source.length.toNat := by
  rw [sum_length_coalesce_blockPlan, ← (tiles_of_check few accepted).sum_length, Nat.zero_add]

/-- The plan brings as many bytes as the source has. -/
theorem totalLength_coalesce (seed : Signature) {source : Signature}
    (few : source.blocks.length < UInt32.size) (accepted : source.check = .ok ()) :
    Plan.totalLength ⟨Plan.coalesce (seed.blockPlan source), source.length⟩ = source.length := by
  have whole := sum_length_of_check seed few accepted
  apply UInt64.toNat_inj.mp
  rw [Plan.totalLength, Plan.toNat_lengthSum (whole ▸ source.length.toNat_lt), whole]

section Few

variable {seed source : Signature}
variable (seed_few : seed.blocks.length < UInt32.size)
variable (source_few : source.blocks.length < UInt32.size)
variable (seed_accepted : seed.check = .ok ()) (source_accepted : source.check = .ok ())
include seed_few source_few seed_accepted source_accepted

/-- The pieces for the single blocks have room behind their offsets. -/
theorem roomy_blockPlan {piece : Piece} (member : piece ∈ seed.blockPlan source) :
    piece.Roomy := by
  rw [blockPlan_eq_map] at member
  obtain ⟨block, listed, rfl⟩ := List.mem_map.mp member
  rw [pieceFor]
  cases found : seed.find? block.checksum with
  | none => exact room_of_check source_few source_accepted block listed
  | some first =>
      obtain ⟨origin, stored, -, rfl⟩ := exists_of_find?_eq_some found
      exact room_of_check seed_few seed_accepted origin stored

/-- The plan gives every position the place that its block gives it. -/
theorem places_coalesce_blockPlan :
    (Plan.coalesce (seed.blockPlan source)).flatMap Piece.places =
      source.blocks.flatMap fun block => (seed.pieceFor block).places := by
  have roomy : ∀ piece ∈ seed.blockPlan source, piece.Roomy := fun piece member =>
    roomy_blockPlan seed_few source_few seed_accepted source_accepted member
  rw [Plan.places_coalesce roomy, blockPlan_eq_map, List.flatMap_map]

end Few

/-- The places on the side of the source are as many as there are bytes in blocks whose digests
the seed lacks. -/
theorem countP_places_source (seed source : Signature) :
    ((source.blocks.flatMap fun block => (seed.pieceFor block).places).countP fun place =>
        place.1 == .source) =
      ((source.blocks.filter fun block =>
        block.checksum ∉ seed.blocks.map Block.checksum).map fun block =>
          block.length.toNat).sum := by
  rw [← List.flatMap_map, ← Plan.sum_length_side, List.filter_map, List.map_map]
  congr 1
  have same (block : Block) : (seed.pieceFor block).length.toNat = block.length.toNat := by
    rw [length_pieceFor]
  have lacks (block : Block) : ((seed.pieceFor block).side == .source) =
      decide (block.checksum ∉ seed.blocks.map Block.checksum) := isSource_pieceFor seed block
  simp only [Function.comp_def, same, lacks]

/-- **The plan sends every position where the plan block by block sends it.** -/
theorem places_reconcile {seed source : Signature}
    (seed_few : seed.blocks.length < UInt32.size) (source_few : source.blocks.length < UInt32.size)
    (seed_accepted : seed.check = .ok ()) (source_accepted : source.check = .ok ()) :
    ∃ plan, seed.reconcile source = .ok plan ∧
      plan.sourceLength = source.length ∧ plan.places.length = source.length.toNat ∧
      (∀ position < source.length.toNat, ∃ block ∈ source.blocks, block.Covers position) ∧
      (∀ block ∈ source.blocks, ∀ position, block.Covers position →
        plan.places[position]? = some (seed.placeOf block position)) ∧
      plan.totalLength = source.length ∧
      plan.seedBytes.toNat + plan.sourceBytes.toNat = source.length.toNat ∧
      plan.sourceBytes.toNat = ((source.blocks.filter fun block =>
        block.checksum ∉ seed.blocks.map Block.checksum).map fun block =>
          block.length.toNat).sum := by
  have tiles := tiles_of_check source_few source_accepted
  have places := places_coalesce_blockPlan seed_few source_few seed_accepted source_accepted
  have length_eq (block : Block) : (seed.pieceFor block).places.length = block.length.toNat := by
    rw [Piece.length_places, length_pieceFor]
  let plan : Plan := ⟨Plan.coalesce (seed.blockPlan source), source.length⟩
  have whole : plan.places.length = source.length.toNat := by
    rw [Plan.places, places, tiles.length_flatMap length_eq, Nat.sub_zero]
  have total : (plan.pieces.map fun piece => piece.length.toNat).sum = source.length.toNat :=
    (Plan.sum_length plan.pieces).trans whole
  have fits : (plan.pieces.map fun piece => piece.length.toNat).sum < UInt64.size :=
    total ▸ source.length.toNat_lt
  have from_seed : plan.seedBytes.toNat = plan.places.countP fun place => place.1 == .seed :=
    (Plan.toNat_lengthSum_filter _ fits).trans (Plan.sum_length_side .seed plan.pieces)
  have from_source : plan.sourceBytes.toNat = plan.places.countP fun place => place.1 == .source :=
    (Plan.toNat_lengthSum_filter _ fits).trans (Plan.sum_length_side .source plan.pieces)
  refine ⟨plan, reconcile_of_check seed_accepted source_accepted, rfl, whole,
    fun position inside => tiles.exists_covering (Nat.zero_le _) inside, ?_, ?_, ?_, ?_⟩
  · rintro block member position ⟨after, before⟩
    obtain ⟨index, rfl⟩ := Nat.exists_eq_add_of_le after
    have inside : index < block.length.toNat := Nat.lt_of_add_lt_add_left before
    have stands := tiles.getElem?_flatMap length_eq member inside
    rw [Nat.sub_zero] at stands
    rw [Plan.places, places, stands, getElem?_places_pieceFor seed block inside]
  · apply UInt64.toNat_inj.mp
    rw [Plan.totalLength, Plan.toNat_lengthSum fits, total]
  · rw [from_seed, from_source, ← whole, List.length_eq_countP_add_countP fun place =>
      place.1 == .seed]
    congr 2
    funext place
    cases place.1 <;> rfl
  · rw [from_source, Plan.places, places, countP_places_source]

/-- The digest that repeats one byte. -/
def repeated (byte : UInt8) : Digest := ⟨.replicate 32 byte, rfl⟩

/-- The seed repeats a digest, the source has blocks with digests of the seed in another order
and one of them with another length, and two neighbouring blocks that the seed lacks. Pieces are
joined on both sides. -/
theorem places_reconcile_of_repeats :
    ∃ (seed source : Signature) (plan : Plan),
      seed = ⟨[⟨0, 3, repeated 1⟩, ⟨3, 2, repeated 2⟩, ⟨5, 4, repeated 3⟩, ⟨9, 1, repeated 1⟩],
        10⟩ ∧
      source = ⟨[⟨0, 2, repeated 2⟩, ⟨2, 4, repeated 3⟩, ⟨6, 5, repeated 1⟩, ⟨11, 1, repeated 4⟩,
        ⟨12, 2, repeated 5⟩], 14⟩ ∧
      seed.check = .ok () ∧ source.check = .ok () ∧ seed.reconcile source = .ok plan ∧
      plan.pieces = [⟨.seed, 3, 6⟩, ⟨.seed, 0, 5⟩, ⟨.source, 11, 3⟩] ∧
      plan.places[4]? = some (.seed, 7) ∧ plan.places[10]? = some (.seed, 4) ∧
      plan.places[13]? = some (.source, 13) ∧ plan.sourceBytes.toNat = 3 := by
  let seed : Signature :=
    ⟨[⟨0, 3, repeated 1⟩, ⟨3, 2, repeated 2⟩, ⟨5, 4, repeated 3⟩, ⟨9, 1, repeated 1⟩], 10⟩
  let source : Signature :=
    ⟨[⟨0, 2, repeated 2⟩, ⟨2, 4, repeated 3⟩, ⟨6, 5, repeated 1⟩, ⟨11, 1, repeated 4⟩,
      ⟨12, 2, repeated 5⟩], 14⟩
  have seed_accepted : seed.check = .ok () := by decide
  have source_accepted : source.check = .ok () := by decide
  obtain ⟨plan, reconciled, -, -, -, places, -, -, fetched⟩ :=
    @places_reconcile seed source (by decide) (by decide) seed_accepted source_accepted
  have placed (block : Block) (position : Nat) (member : block ∈ source.blocks)
      (covers : block.Covers position) :
      plan.places[position]? = some (seed.placeOf block position) :=
    places block member position covers
  refine ⟨seed, source, plan, rfl, rfl, seed_accepted, source_accepted, reconciled, ?_, ?_, ?_, ?_,
    ?_⟩
  · rw [reconcile_of_check seed_accepted source_accepted, blockPlan_eq_map] at reconciled
    cases reconciled
    decide
  · exact placed ⟨2, 4, repeated 3⟩ 4 (by decide) ⟨by decide, by decide⟩
  · exact placed ⟨6, 5, repeated 1⟩ 10 (by decide) ⟨by decide, by decide⟩
  · exact placed ⟨12, 2, repeated 5⟩ 13 (by decide) ⟨by decide, by decide⟩
  · rw [fetched]
    decide

end Signature

end ReplicaSync
