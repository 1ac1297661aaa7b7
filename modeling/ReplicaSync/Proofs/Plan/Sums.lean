import ReplicaSync.Proofs.Plan.Places

/-!
# Planning stays within the words

Planning adds words: the ends of blocks while the signatures are checked, the end of the newest
piece whenever another one comes, and lengths while the plan is counted. A piece to copy pairs a
place of the seed with lengths of the source and may grow at every step, so neither side bounds its
end. Yet it keeps its offset, and a signature of few enough blocks leaves room behind every offset
for any length of 32 bits (`Piece.Roomy`). Lengths on either side are part of the length of the
source. So no sum runs over (`Transfer.between_exact`), whatever digests and lengths have to do with
each other.
-/

set_option autoImplicit false

namespace ReplicaSync

namespace Plan

/-- What has been pushed so far has room behind its offsets if the single pieces have. -/
theorem roomy_of_mem_foldl {pieces : List Piece} (roomy : ∀ piece ∈ pieces, piece.Roomy) :
    ∀ piece ∈ pieces.foldl push [], piece.Roomy := by
  intro piece member
  refine coalesce_forall (fun _ _ _ last_roomy _ joins => last_roomy.of_join? joins) roomy piece ?_
  exact List.mem_reverse.mpr member

/-- Every piece is on one of the two sides. -/
theorem sum_length_sides (pieces : List Piece) :
    ((pieces.filter Piece.isSeed).map fun piece => piece.length.toNat).sum +
        ((pieces.filter Piece.isSource).map fun piece => piece.length.toNat).sum =
      (pieces.map fun piece => piece.length.toNat).sum := by
  induction pieces with
  | nil => rfl
  | cons piece rest ih =>
      rw [List.map_cons, List.sum_cons, ← ih]
      cases on_side : piece.side <;>
        simp [Piece.isSeed, Piece.isSource, on_side, Nat.add_assoc, Nat.add_left_comm]

/-- Some of the pieces are no longer together than all of them. -/
theorem sum_length_le_of_sublist {chosen pieces : List Piece} (part : chosen.Sublist pieces) :
    (chosen.map fun piece => piece.length.toNat).sum ≤
      (pieces.map fun piece => piece.length.toNat).sum :=
  (part.map _).sum_le_sum fun _ _ => Nat.zero_le _

end Plan

/-- Planning a transfer in which no sum runs over the words. -/
structure Transfer.Exact (seed source : Signature) (transfer : Transfer) : Prop where
  /-- The end of every block, taken while the signatures are checked. -/
  check_fits : ∀ block ∈ seed.blocks ++ source.blocks,
    block.offset.toNat + block.length.toNat < UInt64.size
  /-- The plan is what pushing one piece after the other comes to. -/
  pieces_eq : transfer.plan.pieces = ((seed.blockPlan source).foldl Plan.push []).reverse
  /-- The end of the newest piece, taken whenever another one comes. -/
  push_fits : ∀ before piece after, seed.blockPlan source = before ++ piece :: after →
    ∀ newest ∈ (before.foldl Plan.push []).head?,
      newest.offset.toNat + newest.length.toNat < UInt64.size
  /-- The length of the newest piece when it is joined with the one that comes. -/
  join_fits : ∀ before piece after, seed.blockPlan source = before ++ piece :: after →
    ∀ newest ∈ (before.foldl Plan.push []).head?, ∀ joined, newest.join? piece = some joined →
      newest.length.toNat + piece.length.toNat < UInt32.size ∧
        joined.length.toNat = newest.length.toNat + piece.length.toNat
  /-- The lengths of any pieces of the plan, so those added up on the way to one of the counts. -/
  sums_fit : ∀ chosen : List Piece, chosen.Sublist transfer.plan.pieces →
    (chosen.map fun piece => piece.length.toNat).sum < UInt64.size
  totalLength_eq : transfer.plan.totalLength.toNat =
    (transfer.plan.pieces.map fun piece => piece.length.toNat).sum
  seedBytes_eq : transfer.seedBytes.toNat =
    ((transfer.plan.pieces.filter Piece.isSeed).map fun piece => piece.length.toNat).sum
  sourceBytes_eq : transfer.sourceBytes.toNat =
    ((transfer.plan.pieces.filter Piece.isSource).map fun piece => piece.length.toNat).sum
  /-- The two counts together, taken for the share of the source that is at hand. -/
  counts_eq : transfer.seedBytes.toNat + transfer.sourceBytes.toNat = source.length.toNat

namespace Signature

/-- A signature of few enough blocks leaves room behind every block that passes the check. -/
theorem stop_lt_of_check {signature : Signature} (few : signature.blocks.length < UInt32.size)
    (accepted : signature.check = .ok ()) {block : Block} (member : block ∈ signature.blocks) :
    block.offset.toNat + block.length.toNat < UInt64.size :=
  Nat.lt_of_lt_of_le (Nat.add_lt_add_left block.length.toNat_lt _)
    (room_of_check few accepted block member)

end Signature

namespace Transfer

/-- **Planning stays within the words.** Two signatures that pass their check and have fewer blocks
than 32 bits can count have a transfer between them, and no sum on the way to it or of its counts
runs over. -/
theorem between_exact {seed source : Signature}
    (seed_few : seed.blocks.length < UInt32.size) (source_few : source.blocks.length < UInt32.size)
    (seed_accepted : seed.check = .ok ()) (source_accepted : source.check = .ok ()) :
    ∃ transfer, between seed source = .ok transfer ∧ transfer.Exact seed source := by
  let plan : Plan := ⟨Plan.coalesce (seed.blockPlan source), source.length⟩
  have planned : between seed source = .ok (ofPlan plan) := by
    rw [between, Signature.reconcile_of_check seed_accepted source_accepted]
    rfl
  have whole : (plan.pieces.map fun piece => piece.length.toNat).sum = source.length.toNat :=
    Signature.sum_length_of_check seed source_few source_accepted
  have fits : (plan.pieces.map fun piece => piece.length.toNat).sum < UInt64.size :=
    whole ▸ source.length.toNat_lt
  have from_seed : plan.seedBytes.toNat =
      ((plan.pieces.filter Piece.isSeed).map fun piece => piece.length.toNat).sum :=
    Plan.toNat_lengthSum_filter _ fits
  have from_source : plan.sourceBytes.toNat =
      ((plan.pieces.filter Piece.isSource).map fun piece => piece.length.toNat).sum :=
    Plan.toNat_lengthSum_filter _ fits
  have pushed_roomy : ∀ before piece after, seed.blockPlan source = before ++ piece :: after →
      ∀ newest ∈ (before.foldl Plan.push []).head?, newest.Roomy := by
    intro before piece after split newest head
    refine Plan.roomy_of_mem_foldl (fun earlier member => ?_) newest (List.mem_of_mem_head? head)
    refine Signature.roomy_blockPlan seed_few source_few seed_accepted source_accepted ?_
    exact split ▸ List.mem_append_left _ member
  refine ⟨ofPlan plan, planned, ?_⟩
  constructor
  case check_fits =>
    intro block member
    rcases List.mem_append.mp member with held | wanted
    · exact Signature.stop_lt_of_check seed_few seed_accepted held
    · exact Signature.stop_lt_of_check source_few source_accepted wanted
  case pieces_eq => rfl
  case push_fits =>
    intro before piece after split newest head
    exact (pushed_roomy before piece after split newest head).stop_lt
  case join_fits =>
    intro before piece after split newest head joined joins
    exact ⟨(Piece.join?_eq_some_iff.mp joins).2.2.1, Piece.toNat_length_of_join? joins⟩
  case sums_fit =>
    intro chosen part
    exact Nat.lt_of_le_of_lt (Plan.sum_length_le_of_sublist part) fits
  case totalLength_eq => exact Plan.toNat_lengthSum fits
  case seedBytes_eq => exact from_seed
  case sourceBytes_eq => exact from_source
  case counts_eq =>
    rw [← whole, ← Plan.sum_length_sides, ← from_seed, ← from_source]
    rfl

/-- A piece that grows until 32 bits just count it, and reaches beyond the seed: the source has a
longer block with the second digest than the seed. -/
theorem between_exact_of_longer :
    ∃ (seed source : Signature) (transfer : Transfer),
      seed = ⟨[⟨0, 4294967290, Signature.repeated 1⟩, ⟨4294967290, 1, Signature.repeated 2⟩],
        4294967291⟩ ∧
      source = ⟨[⟨0, 4294967290, Signature.repeated 1⟩, ⟨4294967290, 5, Signature.repeated 2⟩,
        ⟨4294967295, 3, Signature.repeated 3⟩], 4294967298⟩ ∧
      seed.check = .ok () ∧ source.check = .ok () ∧ between seed source = .ok transfer ∧
      transfer.Exact seed source ∧
      transfer.plan.pieces = [⟨.seed, 0, 4294967295⟩, ⟨.source, 4294967295, 3⟩] ∧
      transfer.seedBytes.toNat + transfer.sourceBytes.toNat = 4294967298 := by
  let seed : Signature :=
    ⟨[⟨0, 4294967290, Signature.repeated 1⟩, ⟨4294967290, 1, Signature.repeated 2⟩], 4294967291⟩
  let source : Signature :=
    ⟨[⟨0, 4294967290, Signature.repeated 1⟩, ⟨4294967290, 5, Signature.repeated 2⟩,
      ⟨4294967295, 3, Signature.repeated 3⟩], 4294967298⟩
  have seed_accepted : seed.check = .ok () := by decide
  have source_accepted : source.check = .ok () := by decide
  obtain ⟨transfer, planned, fitting⟩ :=
    @between_exact seed source (by decide) (by decide) seed_accepted source_accepted
  refine ⟨seed, source, transfer, rfl, rfl, seed_accepted, source_accepted, planned, fitting, ?_,
    fitting.counts_eq⟩
  rw [fitting.pieces_eq, Signature.blockPlan_eq_map]
  decide +kernel

end Transfer

end ReplicaSync
