import Mathlib.Data.List.Nodup
import ReplicaSync.Proofs.Plan.Canonical
import ReplicaSync.Proofs.Signature.FirstFault

/-!
# What the seed holds is not fetched

A source block is fetched only if the seed lacks its digest, so a seed with all digests of the
source leaves nothing to fetch, in whatever order it has them and whatever lies between them.

When every block comes from its own place, the pieces for the single blocks lie end to end on one
side (`Plan.Laid`): in the plan of a signature with itself if no digest repeats, since the first
block with a digest is then the block itself (`Signature.find?_of_distinct`), and in the plan for an
empty seed. Joining keeps them end to end (`Plan.Laid.coalesce`), and what still lies end to end can
only be more than one piece where 32 bits cannot count it (`Plan.Laid.eq_singleton`).
-/

set_option autoImplicit false

namespace ReplicaSync

/-- The piece that brings a block from its own place on a side. -/
def Block.pieceOn (side : Side) (block : Block) : Piece :=
  ⟨side, block.offset, block.length⟩

namespace Plan

/-! ## Pieces end to end -/

/-- Pieces that lie end to end on one side, from `start` to `stop`. The words give these places
modulo their size, which is no difference where `stop` is a word. -/
def Laid (side : Side) (stop : Nat) : (start : Nat) → List Piece → Prop
  | start, [] => start = stop
  | start, piece :: rest =>
      piece.side = side ∧ piece.offset = UInt64.ofNat start ∧
        Laid side stop (start + piece.length.toNat) rest

namespace Laid

variable {side : Side} {start stop : Nat}

theorem start_le {pieces : List Piece} (laid : Laid side stop start pieces) : start ≤ stop := by
  induction pieces generalizing start with
  | nil => exact Nat.le_of_eq laid
  | cons piece rest ih => exact Nat.le_of_add_right_le (ih laid.2.2)

/-- Pieces that lie end to end are some that do and some that go on where those end. -/
theorem append_iff {pieces more : List Piece} :
    Laid side stop start (pieces ++ more) ↔
      ∃ middle, Laid side middle start pieces ∧ Laid side stop middle more := by
  induction pieces generalizing start with
  | nil =>
      constructor
      · exact fun laid => ⟨start, rfl, laid⟩
      · rintro ⟨_, rfl, laid⟩
        exact laid
  | cons piece rest ih =>
      rw [List.cons_append, Laid, ih]
      constructor
      · rintro ⟨same, placed, middle, first, later⟩
        exact ⟨middle, ⟨same, placed, first⟩, later⟩
      · rintro ⟨middle, ⟨same, placed, first⟩, later⟩
        exact ⟨same, placed, middle, first, later⟩

/-- The lengths of pieces that lie end to end lead from the first place to the last. -/
theorem sum_length {pieces : List Piece} (laid : Laid side stop start pieces) :
    start + (pieces.map fun piece => piece.length.toNat).sum = stop := by
  induction pieces generalizing start with
  | nil => exact laid
  | cons piece rest ih =>
      rw [List.map_cons, List.sum_cons, ← Nat.add_assoc]
      exact ih laid.2.2

/-- The end of a piece, where the words give its place modulo their size. -/
theorem stop_eq (piece : Piece) (placed : piece.offset = UInt64.ofNat start) :
    piece.stop = UInt64.ofNat (start + piece.length.toNat) := by
  rw [Piece.stop, placed, UInt64.ofNat_add, UInt64.ofNat_uInt32ToNat]

/-- **Joining keeps pieces end to end.** -/
theorem coalesce {pieces : List Piece} (laid : Laid side stop start pieces) :
    Laid side stop start (Plan.coalesce pieces) := by
  have pushed := coalesce_induction
    (motive := fun pushed newest => ∀ stop,
      Laid side stop start pushed → Laid side stop start newest.reverse)
    (fun _ nothing => nothing) ?_ pieces
  · simpa using pushed stop laid
  intro pushed newest piece keeps stop laid
  obtain ⟨middle, before_laid, same, placed, ends⟩ := append_iff.mp laid
  have newest_laid := keeps middle before_laid
  rcases push_cases newest piece with ⟨last, before, joined, rfl, joins, result⟩ | ⟨-, result⟩
  · -- The joined piece begins where the last one did and ends where the new one does.
    rw [List.reverse_cons] at newest_laid
    obtain ⟨first, earlier, last_same, last_placed, last_ends⟩ := append_iff.mp newest_laid
    have longer := Piece.toNat_length_of_join? joins
    obtain ⟨_, _, _, rfl⟩ := Piece.join?_eq_some_iff.mp joins
    rw [result, List.reverse_cons, append_iff]
    refine ⟨first, earlier, last_same, last_placed, ?_⟩
    change first + last.length.toNat = middle at last_ends
    change middle + piece.length.toNat = stop at ends
    change first + (last.length + piece.length).toNat = stop
    dsimp only at longer
    omega
  · rw [result, List.reverse_cons, append_iff]
    exact ⟨middle, newest_laid, same, placed, ends⟩

/-- Pieces that lie end to end are one piece, if no two neighbours can be joined and 32 bits count
them all. -/
theorem eq_singleton {pieces : List Piece} (laid : Laid side stop 0 pieces)
    (unjoined : pieces.IsChain fun left right => left.join? right = none)
    (some_bytes : 0 < stop) (short : stop < UInt32.size) :
    pieces = [⟨side, 0, UInt32.ofNat stop⟩] := by
  match pieces with
  | [] => exact absurd laid (Nat.ne_of_lt some_bytes)
  | [piece] =>
      obtain ⟨same, placed, ends⟩ := laid
      have length : piece.length = UInt32.ofNat stop := by
        rw [← show 0 + piece.length.toNat = stop from ends, Nat.zero_add, UInt32.ofNat_toNat]
      rw [← same, ← length, ← show piece.offset = 0 from placed]
  | left :: right :: rest =>
      obtain ⟨left_same, left_placed, right_same, right_placed, later⟩ := laid
      have apart := (List.isChain_cons_cons.mp unjoined).1
      have reach := later.start_le
      have joins := Piece.join?_eq_some_iff.mpr ⟨left_same.trans right_same.symm,
        (stop_eq left left_placed).trans right_placed.symm, by omega, rfl⟩
      rw [apart] at joins
      cases joins

end Laid

/-! ## Plans without a fetch -/

section Held

variable {plan : Plan} (held : ∀ piece ∈ plan.pieces, piece.side = .seed)
include held

theorem sourceBytes_of_held : plan.sourceBytes = 0 := by
  have none_fetched : plan.pieces.filter Piece.isSource = [] := by
    refine List.filter_eq_nil_iff.mpr fun piece member => ?_
    rw [Piece.isSource, held piece member]
    decide
  rw [sourceBytes, none_fetched]
  rfl

theorem seedBytes_of_held : plan.seedBytes = plan.totalLength := by
  have all_copied : plan.pieces.filter Piece.isSeed = plan.pieces := by
    refine List.filter_eq_self.mpr fun piece member => ?_
    rw [Piece.isSeed, held piece member]
    rfl
  rw [seedBytes, all_copied, totalLength]

end Held

end Plan

namespace Signature

/-! ## Where the blocks come from -/

/-- If no digest repeats, a block is found by its digest where it stands. -/
theorem find?_of_distinct {signature : Signature}
    (distinct : (signature.blocks.map Block.checksum).Nodup) {block : Block}
    (member : block ∈ signature.blocks) :
    signature.find? block.checksum = some block.offset := by
  cases found : signature.find? block.checksum with
  | none => exact absurd (List.mem_map_of_mem member) (find?_eq_none_iff.mp found)
  | some first =>
      obtain ⟨origin, stored, same, rfl⟩ := exists_of_find?_eq_some found
      rw [List.inj_on_of_nodup_map distinct stored member same]

/-- In the plan of a signature with itself every block comes from its own place in the seed, if no
digest repeats. -/
theorem blockPlan_self {signature : Signature}
    (distinct : (signature.blocks.map Block.checksum).Nodup) :
    signature.blockPlan signature = signature.blocks.map (Block.pieceOn .seed) := by
  rw [blockPlan_eq_map]
  refine List.map_congr_left fun block member => ?_
  rw [pieceFor, find?_of_distinct distinct member]
  rfl

/-- In the plan for an empty seed every block comes from its own place in the source. -/
theorem blockPlan_empty (source : Signature) :
    empty.blockPlan source = source.blocks.map (Block.pieceOn .source) := by
  rw [blockPlan_eq_map]
  rfl

/-- Nothing is fetched when the seed has all digests of the source. -/
theorem side_of_mem_coalesce {seed source : Signature}
    (known : ∀ block ∈ source.blocks, block.checksum ∈ seed.blocks.map Block.checksum) :
    ∀ piece ∈ Plan.coalesce (seed.blockPlan source), piece.side = .seed := by
  refine Plan.coalesce_forall (fun last _ joined last_copied _ joins => ?_) fun piece listed => ?_
  · obtain ⟨_, _, _, rfl⟩ := Piece.join?_eq_some_iff.mp joins
    exact last_copied
  · rw [blockPlan_eq_map] at listed
    obtain ⟨block, member, rfl⟩ := List.mem_map.mp listed
    rw [pieceFor]
    cases found : seed.find? block.checksum with
    | none => exact absurd (known block member) (find?_eq_none_iff.mp found)
    | some first => rfl

/-- Blocks that pass the check lie end to end, and lead where the check ends. -/
theorem laid_of_checkBlocks (side : Side) {index start : Nat} {expected reached : UInt64}
    {blocks : List Block} (begins : expected = UInt64.ofNat start)
    (passed : checkBlocks index expected blocks = .ok reached) :
    ∃ stop, reached = UInt64.ofNat stop ∧
      Plan.Laid side stop start (blocks.map (Block.pieceOn side)) := by
  induction blocks generalizing index expected start with
  | nil =>
      cases passed
      exact ⟨start, begins, rfl⟩
  | cons block rest ih =>
      rw [checkBlocks] at passed
      split at passed
      · cases passed
      · split at passed
        · cases passed
        · next placed =>
          have here : block.offset = UInt64.ofNat start :=
            (Decidable.not_not.mp placed).trans begins
          have next : block.stop = UInt64.ofNat (start + block.length.toNat) :=
            Plan.Laid.stop_eq (block.pieceOn side) here
          obtain ⟨stop, ends, laid⟩ := ih next passed
          exact ⟨stop, ends, rfl, here, laid⟩

/-- The blocks of a signature that passes its check lie end to end from the beginning, and lead to
its length. -/
theorem laid_of_check (side : Side) {signature : Signature} (accepted : signature.check = .ok ()) :
    ∃ stop, signature.length = UInt64.ofNat stop ∧
      Plan.Laid side stop 0 (signature.blocks.map (Block.pieceOn side)) :=
  laid_of_checkBlocks side rfl (checkBlocks_of_check accepted)

section Few

variable {source : Signature} (few : source.blocks.length < UInt32.size)
variable (accepted : source.check = .ok ())
include few accepted

/-- Where words can count the bytes of a signature, its blocks lead to its length itself. -/
theorem stop_eq_length {side : Side} {stop : Nat}
    (laid : Plan.Laid side stop 0 (source.blocks.map (Block.pieceOn side))) :
    stop = source.length.toNat := by
  rw [← laid.sum_length, ← (tiles_of_check few accepted).sum_length, List.map_map]
  rfl

/-- A signature without bytes has no blocks. -/
theorem blocks_eq_nil (none : source.length = 0) : source.blocks = [] := by
  have tiles := tiles_of_check few accepted
  rw [none] at tiles
  cases listed : source.blocks with
  | nil => rfl
  | cons block rest =>
      rw [listed] at tiles
      have short := tiles.2.2.start_le
      have positive := tiles.2.1
      rw [UInt64.toNat_zero] at short
      omega

end Few

/-- **What the seed holds is not fetched.** The plan of a signature with itself copies all its
bytes. If no digest repeats, it copies them end to end from the beginning, in one piece where 32
bits can count them. Nothing is fetched either whenever the seed has all digests of the source. For
an empty seed all is fetched end to end. -/
theorem reconcile_of_held :
    (∀ signature : Signature, signature.blocks.length < UInt32.size → signature.check = .ok () →
      ∃ plan, signature.reconcile signature = .ok plan ∧
        (∀ piece ∈ plan.pieces, piece.side = .seed) ∧
        plan.seedBytes = signature.length ∧ plan.sourceBytes = 0 ∧
        ((signature.blocks.map Block.checksum).Nodup →
          Plan.Laid .seed signature.length.toNat 0 plan.pieces ∧
          (0 < signature.length.toNat → signature.length.toNat < UInt32.size →
            plan.pieces = [⟨.seed, 0, UInt32.ofNat signature.length.toNat⟩])) ∧
        (signature.length = 0 → plan.pieces = [])) ∧
    (∀ seed source : Signature, seed.check = .ok () → source.check = .ok () →
      (∀ block ∈ source.blocks, block.checksum ∈ seed.blocks.map Block.checksum) →
        ∃ plan, seed.reconcile source = .ok plan ∧
          (∀ piece ∈ plan.pieces, piece.side = .seed) ∧ plan.sourceBytes = 0) ∧
    ∀ source : Signature, source.check = .ok () →
      ∃ plan stop, empty.reconcile source = .ok plan ∧
        Plan.Laid .source stop 0 plan.pieces ∧ source.length = UInt64.ofNat stop ∧
        (source.blocks.length < UInt32.size → stop = source.length.toNat) ∧
        (0 < stop → stop < UInt32.size → plan.pieces = [⟨.source, 0, UInt32.ofNat stop⟩]) := by
  refine ⟨fun signature few accepted => ?_,
    fun seed source seed_accepted source_accepted known => ?_, fun source accepted => ?_⟩
  · have known : ∀ block ∈ signature.blocks,
        block.checksum ∈ signature.blocks.map Block.checksum := fun _ => List.mem_map_of_mem
    have held := side_of_mem_coalesce known
    refine ⟨_, reconcile_of_check accepted accepted, held, ?_, Plan.sourceBytes_of_held held,
      fun distinct => ?_, fun none => ?_⟩
    · exact (Plan.seedBytes_of_held held).trans (totalLength_coalesce signature few accepted)
    · obtain ⟨stop, -, laid⟩ := laid_of_check .seed accepted
      have placed := laid.coalesce
      rw [stop_eq_length few accepted laid, ← blockPlan_self distinct] at placed
      exact ⟨placed, placed.eq_singleton (Plan.isChain_coalesce _)⟩
    · rw [blockPlan_eq_map, blocks_eq_nil few accepted none]
      rfl
  · have held := side_of_mem_coalesce known
    exact ⟨_, reconcile_of_check seed_accepted source_accepted, held, Plan.sourceBytes_of_held held⟩
  · obtain ⟨stop, ends, laid⟩ := laid_of_check .source accepted
    have placed := laid.coalesce
    rw [← blockPlan_empty] at placed
    exact ⟨_, stop, reconcile_of_check rfl accepted, placed, ends,
      fun few => stop_eq_length few accepted laid, placed.eq_singleton (Plan.isChain_coalesce _)⟩

/-- A signature that repeats a digest is copied in two pieces, one that does not in one. The blocks
of a source are copied from a seed that has them in another order and among others. From an empty
seed two blocks are fetched that are too long together. -/
theorem reconcile_of_held_of_repeats :
    ∃ (repeating distinct mixed long : Signature) (again once copied fetched : Plan),
      repeating = ⟨[⟨0, 3, repeated 1⟩, ⟨3, 2, repeated 2⟩, ⟨5, 3, repeated 1⟩], 8⟩ ∧
      distinct = ⟨[⟨0, 3, repeated 1⟩, ⟨3, 2, repeated 2⟩, ⟨5, 4, repeated 3⟩], 9⟩ ∧
      mixed = ⟨[⟨0, 4, repeated 3⟩, ⟨4, 7, repeated 9⟩, ⟨11, 2, repeated 2⟩, ⟨13, 3, repeated 1⟩],
        16⟩ ∧
      long = ⟨[⟨0, 4294967295, repeated 1⟩, ⟨4294967295, 2, repeated 2⟩], 4294967297⟩ ∧
      repeating.reconcile repeating = .ok again ∧ again.pieces = [⟨.seed, 0, 5⟩, ⟨.seed, 0, 3⟩] ∧
      again.seedBytes = 8 ∧ again.sourceBytes = 0 ∧
      distinct.reconcile distinct = .ok once ∧ once.pieces = [⟨.seed, 0, 9⟩] ∧
      mixed.reconcile distinct = .ok copied ∧ copied.sourceBytes = 0 ∧
      empty.reconcile long = .ok fetched ∧ Plan.Laid .source 4294967297 0 fetched.pieces := by
  let repeating : Signature :=
    ⟨[⟨0, 3, repeated 1⟩, ⟨3, 2, repeated 2⟩, ⟨5, 3, repeated 1⟩], 8⟩
  let distinct : Signature :=
    ⟨[⟨0, 3, repeated 1⟩, ⟨3, 2, repeated 2⟩, ⟨5, 4, repeated 3⟩], 9⟩
  let mixed : Signature :=
    ⟨[⟨0, 4, repeated 3⟩, ⟨4, 7, repeated 9⟩, ⟨11, 2, repeated 2⟩, ⟨13, 3, repeated 1⟩], 16⟩
  let long : Signature :=
    ⟨[⟨0, 4294967295, repeated 1⟩, ⟨4294967295, 2, repeated 2⟩], 4294967297⟩
  have repeating_accepted : repeating.check = .ok () := by decide
  obtain ⟨itself, contained, alone⟩ := reconcile_of_held
  obtain ⟨again, again_made, -, again_bytes, again_none, -, -⟩ :=
    itself repeating (by decide) repeating_accepted
  obtain ⟨once, once_made, -, -, -, once_laid, -⟩ := itself distinct (by decide) (by decide)
  obtain ⟨copied, copied_made, -, copied_none⟩ :=
    contained mixed distinct (by decide) (by decide) (by decide)
  obtain ⟨fetched, stop, fetched_made, fetched_laid, -, whole, -⟩ := alone long (by decide)
  rw [whole (by decide)] at fetched_laid
  refine ⟨repeating, distinct, mixed, long, again, once, copied, fetched, rfl, rfl, rfl, rfl,
    again_made, ?_, again_bytes, again_none, once_made,
    (once_laid (by decide)).2 (by decide) (by decide), copied_made, copied_none, fetched_made,
    fetched_laid⟩
  rw [reconcile_of_check repeating_accepted repeating_accepted, blockPlan_eq_map] at again_made
  rw [← Except.ok.inj again_made]
  decide

end Signature

end ReplicaSync
