import ReplicaSync.Proofs.Chunking.Delivery

/-!
# Where blocks end

A block ends for one of two reasons: it has reached the maximum, or it has reached the minimum and
the hash of the last 48 bytes has the bits of the mask clear. A block that ends otherwise is the
last one, which the end of the stream cuts off. Nor does a block run over a place at which it could
have ended.

So the blocks of a signature tile the stream, have the digests of their ranges, and their ends are
exactly the places that content and limits ask for (`Signature.CutBy`). This holds for all limits
that are accepted and for every way in which the stream is delivered, and the count of bytes in the
open block never runs over, whatever the maximum (`Chunker.generate_cut_by`).
-/

set_option autoImplicit false

namespace ReplicaSync

/-! ## Boundaries -/

namespace Limits

/-- Whether the hash of the last bytes has the bits of the mask clear where a stream has gone as far
as this. -/
def Clear (limits : Limits) (seen : Bytes) : Prop :=
  windowHash (seen.rtake windowSize) &&& limits.mask = 0

/-- Whether a block ends where a stream has gone as far as this because of its length or its
content, and not because the stream ends. -/
def Closes (limits : Limits) (seen : Bytes) (block : Block) : Prop :=
  block.length = limits.maximum ∨ limits.minimum ≤ block.length ∧ limits.Clear seen

variable {limits : Limits}

theorem endsBlock_iff {seen : Bytes} {length : Nat} :
    limits.endsBlock seen length = true ↔
      limits.maximum.toNat ≤ length ∨ limits.minimum.toNat ≤ length ∧ limits.Clear seen := by
  simp only [endsBlock, Clear, mask, Bool.or_eq_true, Bool.and_eq_true, decide_eq_true_eq,
    beq_iff_eq]

/-- A block that does not go beyond the maximum ends for its length or its content where a block of
that length may end. -/
theorem closes_iff {seen : Bytes} {block : Block} (bounded : block.length ≤ limits.maximum) :
    limits.Closes seen block ↔ limits.endsBlock seen block.length.toNat = true := by
  rw [endsBlock_iff, ← UInt32.le_iff_toNat_le, ← UInt32.le_iff_toNat_le, Closes]
  refine or_congr_left ⟨UInt32.le_of_eq ∘ Eq.symm, UInt32.le_antisymm bounded⟩

end Limits

/-! ## The blocks of a signature -/

/-- A signature whose blocks are cut from a stream by its content, within limits. -/
structure Signature.CutBy (limits : Limits) (stream : Bytes) (signature : Signature) : Prop where
  /-- The blocks tile the stream and have the digests of their ranges. -/
  describes : signature.Describes stream
  /-- No block goes beyond the maximum. -/
  length_le : ∀ block ∈ signature.blocks, block.length ≤ limits.maximum
  /-- Every block but the last reaches the minimum. -/
  minimum_le : ∀ block ∈ signature.blocks.dropLast, limits.minimum ≤ block.length
  /-- Every block but the last ends at the maximum or where the bits are clear. -/
  ends : ∀ block ∈ signature.blocks.dropLast, block.length = limits.maximum ∨
    limits.Clear (stream.take (block.offset.toNat + block.length.toNat))
  /-- Within a block the bits are not clear, from the minimum on. -/
  uncut : ∀ block ∈ signature.blocks, ∀ distance, limits.minimum.toNat ≤ distance →
    distance < block.length.toNat → ¬ limits.Clear (stream.take (block.offset.toNat + distance))

namespace Limits

variable {limits : Limits}

/-- Where a block stands among those that are cut: it is the first one of what remains behind some
bytes, and more remains if it is not the last. -/
theorem exists_of_cut_eq_append (room : 0 < limits.maximum) {stream : Bytes}
    {earlier later : List Block} {block : Block}
    (split : limits.cut [] stream = earlier ++ block :: later) :
    ∃ passed remaining, stream = passed ++ remaining ∧ block.offset = .ofNat passed.length ∧
      block.length.toNat = limits.firstLength passed remaining ∧
      (later ≠ [] → limits.firstLength passed remaining < remaining.length) := by
  obtain ⟨passed, remaining, rfl, -, blocks⟩ := cut_of_append room split
  rw [List.nil_append] at blocks
  have some_left : remaining ≠ [] := by
    rintro rfl
    rw [cut_nil] at blocks
    cases blocks
  rw [cut, dif_pos some_left, List.cons.injEq] at blocks
  obtain ⟨rfl, rfl⟩ := blocks
  refine ⟨passed, remaining, rfl, rfl, toNat_length_first room passed remaining, fun more => ?_⟩
  refine Nat.lt_of_le_of_ne (limits.firstLength_le passed remaining) fun whole => more ?_
  rw [whole, List.drop_length, cut_nil]

end Limits

/-- An element that is not the last one has others behind it. -/
theorem exists_of_mem_dropLast {α : Type} {list : List α} {element : α}
    (member : element ∈ list.dropLast) :
    ∃ earlier later, list = earlier ++ element :: later ∧ later ≠ [] := by
  have some_left : list ≠ [] := by
    rintro rfl
    cases member
  obtain ⟨earlier, later, split⟩ := List.append_of_mem member
  refine ⟨earlier, later ++ [list.getLast some_left], ?_, List.concat_ne_nil _ _⟩
  rw [← List.cons_append, ← List.append_assoc, ← split, List.dropLast_concat_getLast]

namespace Chunker

section Short

variable (chunker : Chunker) {content : Bytes} (short : content.length < UInt64.size)
include short

/-- Where a block of a signature stands in the stream: it is the first block of what remains behind
some bytes, and more remains if it is not the last. -/
theorem exists_of_signature_eq_append {earlier later : List Block} {block : Block}
    (split : (chunker.signature content).blocks = earlier ++ block :: later) :
    ∃ passed remaining, content = passed ++ remaining ∧ block.offset.toNat = passed.length ∧
      block.length.toNat = chunker.limits.firstLength passed remaining ∧
      (later ≠ [] → chunker.limits.firstLength passed remaining < remaining.length) := by
  rw [signature_eq_onePass] at split
  obtain ⟨passed, remaining, rfl, offset, length, more⟩ :=
    Limits.exists_of_cut_eq_append (Limits.maximum_pos chunker.accepted) split
  refine ⟨passed, remaining, rfl, ?_, length, more⟩
  rw [List.length_append] at short
  rw [offset, UInt64.toNat_ofNat_of_lt' (Nat.lt_of_le_of_lt (Nat.le_add_right _ _) short)]

/-- No block goes beyond the maximum. -/
theorem length_le_maximum {block : Block} (member : block ∈ (chunker.signature content).blocks) :
    block.length ≤ chunker.limits.maximum := by
  obtain ⟨earlier, later, split⟩ := List.append_of_mem member
  obtain ⟨passed, remaining, -, -, length, -⟩ := chunker.exists_of_signature_eq_append short split
  rw [UInt32.le_iff_toNat_le, length]
  exact Limits.firstLength_le_maximum (Limits.maximum_pos chunker.accepted) passed remaining

/-- Every block but the last ends for its length or its content. -/
theorem closes_of_mem_dropLast {block : Block}
    (member : block ∈ (chunker.signature content).blocks.dropLast) :
    chunker.limits.Closes (content.take (block.offset.toNat + block.length.toNat)) block := by
  have bounded := chunker.length_le_maximum short (List.dropLast_subset _ member)
  obtain ⟨earlier, later, split, more⟩ := exists_of_mem_dropLast member
  obtain ⟨passed, remaining, rfl, offset, length, longer⟩ :=
    chunker.exists_of_signature_eq_append short split
  rw [Limits.closes_iff bounded, offset, length, List.take_length_add_append]
  exact Limits.endsBlock_firstLength (longer more)

/-- Within a block there is no place where it could have ended. -/
theorem not_clear_within {block : Block} (member : block ∈ (chunker.signature content).blocks)
    {distance : Nat} (reached : chunker.limits.minimum.toNat ≤ distance)
    (inside : distance < block.length.toNat) :
    ¬ chunker.limits.Clear (content.take (block.offset.toNat + distance)) := by
  have positive := UInt32.lt_iff_toNat_lt.mp (Limits.in_order_of_check chunker.accepted).1
  obtain ⟨earlier, later, split⟩ := List.append_of_mem member
  obtain ⟨passed, remaining, rfl, offset, length, -⟩ :=
    chunker.exists_of_signature_eq_append short split
  rw [offset, List.take_length_add_append]
  intro clear
  have ends := Limits.endsBlock_iff.mpr (.inr ⟨reached, clear⟩)
  rw [Limits.endsBlock_of_lt_firstLength (Nat.lt_of_lt_of_le positive reached)
    (length ▸ inside)] at ends
  cases ends

/-- The blocks of a signature are cut from the stream by its content. -/
theorem signature_cut_by : (chunker.signature content).CutBy chunker.limits content where
  describes := chunker.signature_describes content short
  length_le _ member := chunker.length_le_maximum short member
  minimum_le block member := by
    rcases chunker.closes_of_mem_dropLast short member with full | ⟨reached, -⟩
    · rw [full]
      exact Limits.minimum_le_maximum chunker.accepted
    · exact reached
  ends _ member := (chunker.closes_of_mem_dropLast short member).imp_right And.right
  uncut _ member _ reached inside := chunker.not_clear_within short member reached inside

end Short

end Chunker

/-! ## The counts of a scan -/

/-- A scan that counts right: its counts are the numbers of bytes in the open block and up to there,
and the count of the open block has room for one byte more. -/
structure Scan.Counts (scan : Scan) (seen : Bytes) : Prop where
  length_eq : scan.length.toNat = scan.pending.length
  room : scan.length.toNat + 1 < UInt32.size
  position_eq : scan.start.toNat + scan.length.toNat = seen.length

/-- A pass over the buffer that counts right. -/
structure Pass.Counts (pass : Pass) (seen : Bytes) : Prop where
  room : pass.length.toNat + 1 < UInt32.size
  position_eq : pass.start.toNat + pass.length.toNat = seen.length

/-- A pass counts right if the scan does that it goes along with. -/
theorem Pass.Follows.counts {data : Array UInt8} {pass : Pass} {scan : Scan} {seen : Bytes}
    (follows : pass.Follows data scan) (counts : scan.Counts seen) : pass.Counts seen where
  room := follows.draft.length_eq ▸ counts.room
  position_eq := by
    rw [follows.draft.start_eq, follows.draft.length_eq]
    exact counts.position_eq

namespace Chunker

/-- A scan has passed over some of what it has seen and has the rest open. -/
theorem exists_opens (chunker : Chunker) (seen : Bytes) :
    ∃ passed opened, seen = passed ++ opened ∧
      (Scan.feed chunker.limits {} seen).Opens chunker.limits passed opened :=
  (Scan.opens_nil (Limits.maximum_pos chunker.accepted)).exists_opens_feed seen

/-- A scan counts right, as long as the stream is shorter than the words can count. -/
theorem counts_feed (chunker : Chunker) {seen : Bytes} (short : seen.length < UInt64.size) :
    (Scan.feed chunker.limits {} seen).Counts seen := by
  obtain ⟨passed, opened, rfl, opens⟩ := chunker.exists_opens seen
  rw [List.length_append] at short
  refine ⟨?_, ?_, ?_⟩
  · have counted := congrArg List.length opens.pending_eq
    rw [List.length_reverse] at counted
    rw [opens.length_eq, counted]
  · rw [opens.length_eq]
    exact Nat.lt_of_le_of_lt opens.short chunker.limits.maximum.toNat_lt
  · rw [opens.length_eq, opens.start_eq, UInt64.toNat_ofNat_of_lt' (by omega), List.length_append]

/-- Wherever generation has come to in what a read has brought, it counts right. -/
theorem counts_advance (chunker : Chunker) {attempts : List Read}
    (goes_on : ∀ attempt ∈ attempts, attempt.GoesOn) {passed rest : Bytes}
    (short : (attempts.flatMap Read.brought ++ passed).length < UInt64.size) :
    ∃ draft buffer,
      (∀ later, chunker.generate (attempts ++ later) =
        generateFrom chunker.limits draft buffer later) ∧
      (Pass.advance chunker.limits (passed ++ rest).toArray { draft with } passed).Counts
        (attempts.flatMap Read.brought ++ passed) := by
  obtain ⟨draft, buffer, follows, generated⟩ := chunker.generate_append goes_on
  have counts := chunker.counts_feed short
  rw [Scan.feed_append] at counts
  have begins : (passed ++ rest).toArray.toList = [] ++ passed ++ rest := rfl
  obtain ⟨along, -⟩ := (follows.pass (passed ++ rest).toArray).advance chunker.limits begins rfl
  exact ⟨draft, buffer, generated, along.counts counts⟩

/-- **Generated blocks are cut where content and limits say so, and nowhere else.** However a stream
is delivered, its signature describes it, every block but the last ends at the maximum or at the
first place from the minimum on where the bits are clear, and the count of bytes in the open block
never runs over, wherever generation has come to in what a read has brought. -/
theorem generate_cut_by (chunker : Chunker) {reads : List Read} {stream : Bytes}
    (delivers : Read.Delivers reads stream) (short : stream.length < UInt64.size) :
    (∃ signature, chunker.generate reads = .ok signature ∧
      signature.CutBy chunker.limits stream) ∧
    (∀ seen, seen <+: stream → (Scan.feed chunker.limits {} seen).Counts seen) ∧
    ∀ attempts : List Read, (∀ attempt ∈ attempts, attempt.GoesOn) → ∀ passed rest : Bytes,
      attempts.flatMap Read.brought ++ passed <+: stream → ∃ draft buffer,
        (∀ later, chunker.generate (attempts ++ later) =
          generateFrom chunker.limits draft buffer later) ∧
        (Pass.advance chunker.limits (passed ++ rest).toArray { draft with } passed).Counts
          (attempts.flatMap Read.brought ++ passed) := by
  have shorter {seen : Bytes} (begins : seen <+: stream) : seen.length < UInt64.size :=
    Nat.lt_of_le_of_lt begins.length_le short
  refine ⟨⟨_, chunker.generate_of_delivers delivers, chunker.signature_cut_by short⟩,
    fun _ begins => chunker.counts_feed (shorter begins),
    fun _ goes_on _ _ begins => chunker.counts_advance goes_on (shorter begins)⟩

/-- With the greatest maximum there is, blocks end where their content says so alone, and the last
one with the stream. -/
theorem generate_cut_by_of_greatest :
    ∃ (chunker : Chunker) (reads : List Read) (stream : Bytes) (signature : Signature),
      chunker.limits = ⟨2, 8, 4294967295⟩ ∧
      reads = [.bytes [3, 1, 4, 1, 5, 9], .interrupted, .bytes [2, 6, 5, 3, 5, 8, 9, 7, 9, 3],
        .bytes []] ∧
      stream = [3, 1, 4, 1, 5, 9, 2, 6, 5, 3, 5, 8, 9, 7, 9, 3] ∧
      Read.Delivers reads stream ∧ stream.length < UInt64.size ∧
      chunker.generate reads = .ok signature ∧ signature.CutBy chunker.limits stream ∧
      signature.blocks.map Block.length = [5, 3, 7, 1] := by
  let chunker : Chunker := ⟨⟨2, 8, 4294967295⟩, rfl⟩
  let attempts : List Read :=
    [.bytes [3, 1, 4, 1, 5, 9], .interrupted, .bytes [2, 6, 5, 3, 5, 8, 9, 7, 9, 3]]
  let stream : Bytes := [3, 1, 4, 1, 5, 9, 2, 6, 5, 3, 5, 8, 9, 7, 9, 3]
  have delivers : Read.Delivers (attempts ++ [.bytes []]) stream :=
    ⟨attempts, [], rfl, by decide, rfl⟩
  have short : stream.length < UInt64.size := by decide
  obtain ⟨⟨signature, made, cut_by⟩, -⟩ := chunker.generate_cut_by delivers short
  refine ⟨chunker, _, stream, signature, rfl, rfl, rfl, delivers, short, made, cut_by, ?_⟩
  obtain rfl := Except.ok.inj (made.symm.trans (chunker.generate_of_delivers delivers))
  decide +kernel

end Chunker

end ReplicaSync
