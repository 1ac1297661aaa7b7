import Mathlib.Data.List.Chain
import ReplicaSync.Proofs.Plan.Places

/-!
# The canonical form of a plan

A plan for two signatures has no piece without bytes, it fetches from the source only what is
wanted there, and two neighbouring pieces could not be one: if they lie next to each other on one
side, they are too long together (`Plan.Canonical`). A piece that could not be joined to the one
before it cannot be joined to it later either, since pieces only grow at their end
(`Piece.join?_eq_none_of_join?`).

Pieces are copied from where the first block with the digest begins, and are as long as the block in
the source. If blocks with the same digest have the same length on both sides, these ranges are
blocks of the seed, and what is joined of them lies within the seed as well.

All this is said of signatures that pass their check. If one does not, there is no plan, and the
fault names the seed if the seed is at fault, and else the source (`Signature.reconcile_canonical`).
-/

set_option autoImplicit false

namespace ReplicaSync

namespace Piece

/-- Two pieces that lie next to each other on one side. -/
def Meets (left right : Piece) : Prop :=
  left.side = right.side ∧ left.offset.toNat + left.length.toNat = right.offset.toNat

/-- Pieces that lie next to each other are joined, unless they are too long together. -/
theorem long_of_join?_eq_none {left right : Piece} (apart : left.join? right = none)
    (meets : left.Meets right) : UInt32.size ≤ left.length.toNat + right.length.toNat := by
  by_contra fits
  obtain ⟨side, next⟩ := meets
  have stop : left.stop = right.offset := by
    apply UInt64.toNat_inj.mp
    rw [Piece.stop, Words.toNat_add64]
    · exact next
    · rw [UInt32.toNat_toUInt64, next]
      exact right.offset.toNat_lt
  have joins := join?_eq_some_iff.mpr ⟨side, stop, Nat.not_le.mp fits, rfl⟩
  rw [apart] at joins
  cases joins

/-- A piece that could not be joined to the one before it cannot be joined to it when it has
grown. -/
theorem join?_eq_none_of_join? {before last piece joined : Piece} (apart : before.join? last = none)
    (joins : last.join? piece = some joined) : before.join? joined = none := by
  have longer := toNat_length_of_join? joins
  obtain ⟨_, _, _, rfl⟩ := join?_eq_some_iff.mp joins
  rw [Option.eq_none_iff_forall_ne_some]
  intro whole would
  obtain ⟨side, stop, fits, -⟩ := join?_eq_some_iff.mp would
  have together : before.length.toNat + last.length.toNat < UInt32.size := by
    dsimp only at longer fits
    omega
  have joined_before : before.join? last = some _ :=
    join?_eq_some_iff.mpr ⟨side, stop, together, rfl⟩
  rw [apart] at joined_before
  cases joined_before

end Piece

namespace Plan

/-- A plan in which every piece has bytes and is needed as it is. -/
structure Canonical (plan : Plan) : Prop where
  /-- No piece is empty, and none is longer than 32 bits can count. -/
  length_bounds : ∀ piece ∈ plan.pieces, 1 ≤ piece.length.toNat ∧ piece.length.toNat < UInt32.size
  /-- What is fetched stands in the source where it is wanted. -/
  offset_eq : ∀ (before after : List Piece) (piece : Piece),
    plan.pieces = before ++ piece :: after → piece.side = .source →
      piece.offset.toNat = (before.map fun earlier => earlier.length.toNat).sum
  /-- Neighbouring pieces are one piece, unless they are too long together. -/
  apart : plan.pieces.IsChain fun left right =>
    left.Meets right → UInt32.size ≤ left.length.toNat + right.length.toNat

/-- **No two neighbours among coalesced pieces can be joined.** -/
theorem isChain_coalesce (pieces : List Piece) :
    (coalesce pieces).IsChain fun left right => left.join? right = none := by
  have pushed := coalesce_induction
    (motive := fun _ newest => newest.IsChain fun later earlier => earlier.join? later = none)
    .nil ?_ pieces
  · exact List.isChain_reverse.mp pushed
  intro _ newest piece chain
  rcases push_cases newest piece with
    ⟨last, before, joined, rfl, joins, result⟩ | ⟨unjoined, result⟩
  · rw [result]
    obtain ⟨apart, others⟩ := List.isChain_cons.mp chain
    exact List.isChain_cons.mpr
      ⟨fun earlier first => Piece.join?_eq_none_of_join? (apart earlier first) joins, others⟩
  · rw [result]
    exact List.isChain_cons.mpr ⟨unjoined, chain⟩

/-- What a piece with bytes brings first comes to stand behind what the pieces before it bring. -/
theorem getElem?_places {pieces before after : List Piece} {piece : Piece}
    (split : pieces = before ++ piece :: after) (some_bytes : 1 ≤ piece.length.toNat) :
    (pieces.flatMap Piece.places)[(before.map fun earlier => earlier.length.toNat).sum]? =
      some (piece.side, piece.offset.toNat) := by
  have first : piece.places[0]? = some (piece.side, piece.offset.toNat) := by
    rw [Piece.places, List.getElem?_map, List.getElem?_range some_bytes]
    rfl
  rw [split, List.flatMap_append, List.flatMap_cons, sum_length,
    List.getElem?_append_right (Nat.le_refl _), Nat.sub_self,
    List.getElem?_append_left (by rwa [Piece.length_places]), first]

end Plan

namespace Signature

section Few

variable {seed source : Signature}
variable (seed_few : seed.blocks.length < UInt32.size)
variable (source_few : source.blocks.length < UInt32.size)
variable (seed_accepted : seed.check = .ok ()) (source_accepted : source.check = .ok ())

include source_few source_accepted in
/-- What the pieces for the single blocks bring from the source stands there where it is wanted. -/
theorem eq_of_source_place {position place : Nat}
    (stands : (source.blocks.flatMap fun block => (seed.pieceFor block).places)[position]? =
      some (.source, place)) : place = position := by
  have tiles := tiles_of_check source_few source_accepted
  have length_eq (block : Block) : (seed.pieceFor block).places.length = block.length.toNat := by
    rw [Piece.length_places, length_pieceFor]
  have inside : position < source.length.toNat := by
    obtain ⟨within, -⟩ := List.getElem?_eq_some_iff.mp stands
    rwa [tiles.length_flatMap length_eq, Nat.sub_zero] at within
  obtain ⟨block, member, after, before⟩ := tiles.exists_covering (Nat.zero_le _) inside
  obtain ⟨index, rfl⟩ := Nat.exists_eq_add_of_le after
  have within : index < block.length.toNat := Nat.lt_of_add_lt_add_left before
  have same := tiles.getElem?_flatMap length_eq member within
  rw [Nat.sub_zero, stands, getElem?_places_pieceFor seed block within, placeOf] at same
  cases found : seed.find? block.checksum with
  | none =>
      rw [found] at same
      cases same
      rfl
  | some first =>
      rw [found] at same
      cases same

include source_few source_accepted in
/-- The coalesced pieces have bytes, since every block of the source has. -/
theorem length_pos_of_mem_coalesce :
    ∀ piece ∈ Plan.coalesce (seed.blockPlan source), 1 ≤ piece.length.toNat := by
  refine Plan.coalesce_forall (fun last next joined last_kept _ joins => ?_)
    fun single listed => ?_
  · rw [Piece.toNat_length_of_join? joins]
    exact Nat.le_add_right_of_le last_kept
  · rw [blockPlan_eq_map] at listed
    obtain ⟨block, stored, rfl⟩ := List.mem_map.mp listed
    rw [length_pieceFor]
    exact (tiles_of_check source_few source_accepted).positive stored

include seed_few source_few seed_accepted source_accepted in
/-- **The plan for two signatures is canonical.** -/
theorem canonical_coalesce :
    Plan.Canonical ⟨Plan.coalesce (seed.blockPlan source), source.length⟩ where
  length_bounds piece member :=
    ⟨length_pos_of_mem_coalesce source_few source_accepted piece member, piece.length.toNat_lt⟩
  offset_eq before after piece split fetched := by
    dsimp only at split
    have member : piece ∈ Plan.coalesce (seed.blockPlan source) :=
      split ▸ List.mem_append_right _ List.mem_cons_self
    have stands := Plan.getElem?_places split
      (length_pos_of_mem_coalesce source_few source_accepted piece member)
    rw [places_coalesce_blockPlan seed_few source_few seed_accepted source_accepted,
      fetched] at stands
    exact eq_of_source_place source_few source_accepted stands
  apart := (Plan.isChain_coalesce _).imp fun _ _ unjoined meets =>
    Piece.long_of_join?_eq_none unjoined meets

include seed_few seed_accepted in
/-- What is copied lies within the seed, if blocks with the same digest have the same length. -/
theorem within_seed_of_mem_coalesce
    (same_length : ∀ held ∈ seed.blocks, ∀ block ∈ source.blocks,
      held.checksum = block.checksum → held.length = block.length) :
    ∀ piece ∈ Plan.coalesce (seed.blockPlan source), piece.side = .seed →
      piece.offset.toNat + piece.length.toNat ≤ seed.length.toNat := by
  refine Plan.coalesce_forall (fun last next joined last_within next_within joins copied => ?_)
    fun single listed => ?_
  · -- A joined piece ends where the second one does.
    have length := Piece.toNat_length_of_join? joins
    obtain ⟨side, _, _, rfl⟩ := Piece.join?_eq_some_iff.mp joins
    have short := seed.length.toNat_lt
    have offset := Piece.toNat_offset_of_join? joins
      (Nat.lt_of_le_of_lt (last_within copied) short)
    have ends := next_within (side ▸ copied)
    dsimp only at length ⊢
    omega
  · rw [blockPlan_eq_map] at listed
    obtain ⟨block, stored, rfl⟩ := List.mem_map.mp listed
    rw [pieceFor]
    cases found : seed.find? block.checksum with
    | none => rintro ⟨⟩
    | some first =>
        obtain ⟨held, kept, same, rfl⟩ := exists_of_find?_eq_some found
        intro _
        rw [pieceAt, ← same_length held kept block stored same]
        exact ((tiles_of_check seed_few seed_accepted).within kept).2

end Few

/-- **A plan is canonical, and there is one for signatures that pass their check alone.**
Where blocks with the same digest have the same length in both signatures, what is copied lies
within the seed. Where a signature does not pass its check, the fault is what the check found, and
says on which side: on that of the seed, if that does not pass. -/
theorem reconcile_canonical (seed source : Signature) :
    (seed.blocks.length < UInt32.size → source.blocks.length < UInt32.size →
      seed.check = .ok () → source.check = .ok () →
        ∃ plan, seed.reconcile source = .ok plan ∧ plan.Canonical ∧
          ((∀ held ∈ seed.blocks, ∀ block ∈ source.blocks,
              held.checksum = block.checksum → held.length = block.length) →
            ∀ piece ∈ plan.pieces, piece.side = .seed →
              piece.offset.toNat + piece.length.toNat ≤ seed.length.toNat)) ∧
    (∀ cause, seed.check = .error cause →
      ∃ fault, seed.reconcile source = .error (.input fault) ∧ fault = .onSide .seed cause ∧
        fault.message = "seed signatures: " ++ cause.message) ∧
    ∀ cause, seed.check = .ok () → source.check = .error cause →
      ∃ fault, seed.reconcile source = .error (.input fault) ∧ fault = .onSide .source cause ∧
        fault.message = "source signatures: " ++ cause.message := by
  refine ⟨fun seed_few source_few seed_accepted source_accepted => ?_, fun cause refused => ?_,
    fun cause accepted refused => ?_⟩
  · refine ⟨_, reconcile_of_check seed_accepted source_accepted,
      canonical_coalesce seed_few source_few seed_accepted source_accepted, fun same_length => ?_⟩
    exact within_seed_of_mem_coalesce seed_few seed_accepted same_length
  · refine ⟨_, ?_, rfl, rfl⟩
    rw [reconcile, checkSide, refused]
    rfl
  · refine ⟨_, ?_, rfl, rfl⟩
    rw [reconcile, checkSide, checkSide, accepted, refused]
    rfl

/-- The first two blocks of the source lie next to each other and are too long together, so that the
second is joined to the third instead. The two blocks at the end are copied as one. With the sides
the other way round, a gap in the signature of the source comes to light. -/
theorem reconcile_canonical_of_long :
    ∃ (seed source broken : Signature) (plan : Plan),
      seed = ⟨[⟨0, 4, repeated 4⟩, ⟨4, 6, repeated 5⟩], 10⟩ ∧
      source = ⟨[⟨0, 4294967295, repeated 1⟩, ⟨4294967295, 2, repeated 2⟩,
        ⟨4294967297, 3, repeated 3⟩, ⟨4294967300, 4, repeated 4⟩, ⟨4294967304, 6, repeated 5⟩],
        4294967310⟩ ∧
      broken = ⟨[⟨0, 4, repeated 4⟩, ⟨5, 6, repeated 5⟩], 11⟩ ∧
      seed.check = .ok () ∧ source.check = .ok () ∧ broken.check = .error (.misplacedBlock 1 5 4) ∧
      seed.reconcile source = .ok plan ∧ plan.Canonical ∧
      plan.pieces =
        [⟨.source, 0, 4294967295⟩, ⟨.source, 4294967295, 5⟩, ⟨.seed, 0, 10⟩] ∧
      (∀ piece ∈ plan.pieces, piece.side = .seed →
        piece.offset.toNat + piece.length.toNat ≤ seed.length.toNat) ∧
      broken.reconcile source = .error (.input (.onSide .seed (.misplacedBlock 1 5 4))) ∧
      seed.reconcile broken = .error (.input (.onSide .source (.misplacedBlock 1 5 4))) := by
  let seed : Signature := ⟨[⟨0, 4, repeated 4⟩, ⟨4, 6, repeated 5⟩], 10⟩
  let source : Signature := ⟨[⟨0, 4294967295, repeated 1⟩, ⟨4294967295, 2, repeated 2⟩,
    ⟨4294967297, 3, repeated 3⟩, ⟨4294967300, 4, repeated 4⟩, ⟨4294967304, 6, repeated 5⟩],
    4294967310⟩
  let broken : Signature := ⟨[⟨0, 4, repeated 4⟩, ⟨5, 6, repeated 5⟩], 11⟩
  have seed_accepted : seed.check = .ok () := by decide
  have source_accepted : source.check = .ok () := by decide
  have refused : broken.check = .error (.misplacedBlock 1 5 4) := by decide
  obtain ⟨plan, reconciled, canonical, within⟩ := (reconcile_canonical seed source).1
    (by decide) (by decide) seed_accepted source_accepted
  obtain ⟨_, on_seed, rfl, -⟩ := (reconcile_canonical broken source).2.1 _ refused
  obtain ⟨_, on_source, rfl, -⟩ := (reconcile_canonical seed broken).2.2 _ seed_accepted refused
  refine ⟨seed, source, broken, plan, rfl, rfl, rfl, seed_accepted, source_accepted, refused,
    reconciled, canonical, ?_, within (by decide), on_seed, on_source⟩
  rw [reconcile_of_check seed_accepted source_accepted, blockPlan_eq_map] at reconciled
  rw [← Except.ok.inj reconciled]
  decide +kernel

end Signature

end ReplicaSync
