import ReplicaSync.Plan.Reconcile
import ReplicaSync.Proofs.Chunking.Delivery
import ReplicaSync.Proofs.Plan.Assembly

/-!
# A plan rebuilds the source

A source block whose digest the seed has is copied from the first seed block with that digest.
If no two different contents among the blocks share a digest, that seed block has the content
of the source block, wherever either stands and however often it is repeated. So the pieces for
the single blocks stand for the blocks of the source, and so do the coalesced ones. Following
the plan therefore writes the source (`Signature.assemble_reconcile`).
-/

set_option autoImplicit false

namespace ReplicaSync

/-- No two different ones of some contents have the same digest. -/
def Digest.Separates (contents : List Bytes) : Prop :=
  ∀ left ∈ contents, ∀ right ∈ contents,
    Digest.ofContent left = Digest.ofContent right → left = right

instance (contents : List Bytes) : Decidable (Digest.Separates contents) :=
  inferInstanceAs (Decidable (∀ left ∈ contents, ∀ right ∈ contents, _ → _))

namespace Signature

section Describing

variable {held wanted : Signature} {seed source : Bytes}
variable (held_describes : held.Describes seed) (wanted_describes : wanted.Describes source)
variable (separates : Digest.Separates (held.contents seed ++ wanted.contents source))
include held_describes wanted_describes separates

/-- **The piece for a source block stands for the bytes of the block.** -/
theorem pieceFor_within_and_content {block : Block} (member : block ∈ wanted.blocks) :
    (held.pieceFor block).Within seed source ∧
      (held.pieceFor block).content seed source = block.content source := by
  rw [pieceFor]
  cases found : held.find? block.checksum with
  | none => exact ⟨wanted_describes.within block member, rfl⟩
  | some offset =>
      obtain ⟨origin, stored, same_checksum, rfl⟩ := exists_of_find?_eq_some found
      have same_content : origin.content seed = block.content source := by
        apply separates
        · exact List.mem_append_left _ (List.mem_map_of_mem stored)
        · exact List.mem_append_right _ (List.mem_map_of_mem member)
        · rw [← held_describes.checksum_eq origin stored, same_checksum,
            wanted_describes.checksum_eq block member]
      have same_length : origin.length.toNat = block.length.toNat := by
        rw [← held_describes.length_content stored, same_content,
          wanted_describes.length_content member]
      constructor
      · have within := held_describes.within origin stored
        rwa [same_length] at within
      · rw [← same_content, Block.content, same_length]
        rfl

/-- Every piece of the plan block by block lies within its side. -/
theorem within_blockPlan {piece : Piece} (member : piece ∈ held.blockPlan wanted) :
    piece.Within seed source := by
  rw [blockPlan_eq_map] at member
  obtain ⟨block, listed, rfl⟩ := List.mem_map.mp member
  exact (pieceFor_within_and_content held_describes wanted_describes separates listed).1

/-- The plan block by block stands for the source. -/
theorem flatMap_content_blockPlan :
    (held.blockPlan wanted).flatMap (Piece.content seed source) = source := by
  have same : (wanted.blocks.map held.pieceFor).map (Piece.content seed source) =
      wanted.blocks.map (Block.content source) := by
    rw [List.map_map]
    exact List.map_congr_left fun block member =>
      (pieceFor_within_and_content held_describes wanted_describes separates member).2
  rw [blockPlan_eq_map, List.flatMap_def, same, ← List.flatMap_def,
    wanted_describes.flatMap_content]

/-- The pieces of the reconciled plan lie within their sides and stand for the source. -/
theorem reconcile_within_and_content :
    ∃ plan, held.reconcile wanted = .ok plan ∧
      (∀ piece ∈ plan.pieces, piece.Within seed source) ∧
      plan.pieces.flatMap (Piece.content seed source) = source := by
  have coalesced := Plan.coalesce_within_and_content held_describes.length_lt
    wanted_describes.length_lt (held.blockPlan wanted)
    fun _ => within_blockPlan held_describes wanted_describes separates
  refine ⟨⟨Plan.coalesce (held.blockPlan wanted), wanted.length⟩,
    reconcile_of_check held_describes.accepted wanted_describes.accepted, coalesced.1, ?_⟩
  rw [coalesced.2]
  exact flatMap_content_blockPlan held_describes wanted_describes separates

end Describing

end Signature

namespace Plan

/-- The lengths asked for add up to the number of bytes fetched. -/
theorem sum_length_requests (plan : Plan)
    (fits : (plan.pieces.map fun piece => piece.length.toNat).sum < UInt64.size) :
    (plan.requests.map fun request => request.length.toNat).sum = plan.sourceBytes.toNat := by
  rw [sourceBytes, toNat_lengthSum_filter _ fits, requests, List.map_map]
  rfl

end Plan

namespace Signature

/-- **Following the plan writes the source.** Generated signatures describe what they were
generated from. Whenever two signatures describe the seed and the source, and no two different
contents among their blocks share a digest, the two can be reconciled. Following the plan with
a fetcher that answers from the source then succeeds with the length of the source, writes
exactly the source, and asks for the pieces on the side of the source, in their order and for
as many bytes as the plan counts. -/
theorem assemble_reconcile :
    (∀ (chunker : Chunker) (reads : List Read) (signature : Signature),
      chunker.generate reads = .ok signature →
        (Read.delivered reads).length < UInt64.size →
          signature.Describes (Read.delivered reads)) ∧
    ∀ (seed source : Bytes) (held wanted : Signature),
      held.Describes seed → wanted.Describes source →
        Digest.Separates (held.contents seed ++ wanted.contents source) →
          ∃ plan assembly, held.reconcile wanted = .ok plan ∧
            plan.assemble seed (.ofBytes source) {} = (.ok wanted.length, assembly) ∧
            wanted.length.toNat = source.length ∧
            assembly.output.contents = source ∧
            assembly.requests.reverse = plan.requests ∧
            (assembly.requests.map fun request => request.length.toNat).sum =
              plan.sourceBytes.toNat := by
  refine ⟨fun chunker reads signature made short => chunker.generate_describes made short, ?_⟩
  intro seed source held wanted held_describes wanted_describes separates
  obtain ⟨plan, reconciled, within, rebuilt⟩ :=
    reconcile_within_and_content held_describes wanted_describes separates
  obtain ⟨assembly, followed, contents, requests⟩ := plan.assemble_within within
  have total : (plan.pieces.map fun piece => piece.length.toNat).sum = source.length := by
    rw [Plan.sum_length_within within, rebuilt]
  have fits : (plan.pieces.map fun piece => piece.length.toNat).sum < UInt64.size :=
    total ▸ wanted_describes.length_lt
  have counted : plan.totalLength = wanted.length := by
    apply UInt64.toNat_inj.mp
    rw [Plan.totalLength, Plan.toNat_lengthSum fits, total, wanted_describes.length_eq]
  refine ⟨plan, assembly, reconciled, counted ▸ followed, wanted_describes.length_eq,
    contents.trans rebuilt, requests, ?_⟩
  rw [← plan.sum_length_requests fits, ← requests, List.map_reverse, List.sum_reverse]

/-- The seed is cut into pairs and the source into single bytes. Both repeat a block, and the
block that the source repeats is the last one of the seed. -/
theorem assemble_reconcile_of_generated :
    ∃ (pairs single : Chunker) (held wanted : Signature),
      pairs.limits = ⟨2, 2, 2⟩ ∧ single.limits = ⟨1, 1, 1⟩ ∧
      pairs.generate [.bytes [7, 8, 7, 8, 9]] = .ok held ∧
      single.generate [.interrupted, .bytes [9], .bytes [9, 7]] = .ok wanted ∧
      Digest.Separates (held.contents [7, 8, 7, 8, 9] ++ wanted.contents [9, 9, 7]) ∧
      ∃ plan assembly, held.reconcile wanted = .ok plan ∧
        plan.assemble [7, 8, 7, 8, 9] (.ofBytes [9, 9, 7]) {} = (.ok wanted.length, assembly) ∧
        assembly.output.contents = [9, 9, 7] ∧ assembly.requests.reverse = plan.requests := by
  let pairs : Chunker := ⟨⟨2, 2, 2⟩, rfl⟩
  let single : Chunker := ⟨⟨1, 1, 1⟩, rfl⟩
  have separates : Digest.Separates
      ((pairs.signature [7, 8, 7, 8, 9]).contents [7, 8, 7, 8, 9] ++
        (single.signature [9, 9, 7]).contents [9, 9, 7]) := by
    decide +kernel
  have held_made : pairs.generate [.bytes [7, 8, 7, 8, 9]] =
      .ok (pairs.signature [7, 8, 7, 8, 9]) :=
    pairs.generate_of_goesOn (by decide)
  have wanted_made : single.generate [.interrupted, .bytes [9], .bytes [9, 7]] =
      .ok (single.signature [9, 9, 7]) :=
    single.generate_of_goesOn (by decide)
  have held_describes := assemble_reconcile.1 pairs _ _ held_made (by decide)
  have wanted_describes := assemble_reconcile.1 single _ _ wanted_made (by decide)
  obtain ⟨plan, assembly, reconciled, followed, _, contents, requests, _⟩ :=
    assemble_reconcile.2 _ _ _ _ held_describes wanted_describes separates
  exact ⟨pairs, single, _, _, rfl, rfl, held_made, wanted_made, separates, plan, assembly,
    reconciled, followed, contents, requests⟩

end Signature

end ReplicaSync
