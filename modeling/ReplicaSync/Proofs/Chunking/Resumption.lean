import Mathlib.Data.List.Forall2
import ReplicaSync.Plan.Reconcile
import ReplicaSync.Proofs.Chunking.Delivery

/-!
# Streams with a common tail

Two streams may begin differently and then go on alike. Their rolling hashes agree as soon as the
window lies in the common tail, so whether a block may end there does not depend on what came
before (`Limits.endsBlock_append`). When blocks of both streams end at the same place of the tail,
and the next block cannot end before the window has filled up, both are cut alike from there on:
what follows are the same blocks, moved by the difference of the two beginnings
(`Chunker.generate_of_common_tail`). So an edit changes blocks only up to such a place.
-/

set_option autoImplicit false

namespace ReplicaSync

namespace Block

/-- Two blocks that are alike and stand at the same place of a tail, which begins at `first` in the
stream of the one and at `second` in the stream of the other. -/
structure Moved (first second tail : Nat) (left right : Block) : Prop where
  length_eq : left.length = right.length
  checksum_eq : left.checksum = right.checksum
  place_eq : ∃ place < tail, left.offset = .ofNat (first + place) ∧
    right.offset = .ofNat (second + place)

/-- The offsets of blocks that are moved differ as the beginnings of the tails do, as long as the
words can count the streams. -/
theorem Moved.offset_sub {first second tail : Nat} {left right : Block}
    (moved : Moved first second tail left right) (first_short : first + tail < UInt64.size)
    (second_short : second + tail < UInt64.size) :
    (left.offset.toNat : Int) - right.offset.toNat = (first : Int) - second := by
  obtain ⟨place, inside, left_offset, right_offset⟩ := moved.place_eq
  rw [left_offset, right_offset, UInt64.toNat_ofNat_of_lt' (by omega),
    UInt64.toNat_ofNat_of_lt' (by omega)]
  omega

/-- Blocks that are moved have the same digests. -/
theorem map_checksum_of_moved {first second tail : Nat} {left right : List Block}
    (moved : List.Forall₂ (Moved first second tail) left right) :
    left.map checksum = right.map checksum := by
  induction moved with
  | nil => rfl
  | cons pair _ ih => rw [List.map_cons, List.map_cons, pair.checksum_eq, ih]

end Block

namespace Limits

variable {limits : Limits}

/-- Whether a block may end in a tail does not depend on what comes before, when no block may be so
short that the window reaches back behind the tail. -/
theorem endsBlock_append (first second : Bytes) {tail : Bytes} {length : Nat}
    (covered : limits.minimum.toNat ≤ length → windowSize ≤ tail.length) :
    limits.endsBlock (first ++ tail) length = limits.endsBlock (second ++ tail) length := by
  rw [endsBlock, endsBlock]
  by_cases reached : limits.minimum.toNat ≤ length
  · rw [rtake_append_of_le first (covered reached), rtake_append_of_le second (covered reached)]
  · rw [decide_eq_false reached, Bool.false_and, Bool.false_and]

/-- The first block of what remains of a tail does not depend on what comes before. -/
theorem firstLength_append (first second : Bytes) {passed : Bytes}
    (covered : windowSize ≤ passed.length + limits.minimum.toNat) (rest : Bytes) :
    limits.firstLength (first ++ passed) rest = limits.firstLength (second ++ passed) rest := by
  have same : ∀ length ∈ List.range' 1 rest.length,
      limits.endsBlock (first ++ passed ++ rest.take length) length =
        limits.endsBlock (second ++ passed ++ rest.take length) length := by
    intro length member
    have within := (List.mem_range'_1.mp member).2
    rw [List.append_assoc, List.append_assoc]
    refine endsBlock_append first second fun reached => ?_
    rw [List.length_append, List.length_take]
    omega
  rw [firstLength, firstLength, ← List.head?_filter, ← List.head?_filter, List.filter_congr same]

/-- **The blocks of what remains of a tail do not depend on what comes before.** They are only
moved. -/
theorem cut_append (limits : Limits) (first second passed rest : Bytes)
    (covered : windowSize ≤ passed.length + limits.minimum.toNat) :
    List.Forall₂ (Block.Moved first.length second.length (passed.length + rest.length))
      (limits.cut (first ++ passed) rest) (limits.cut (second ++ passed) rest) := by
  -- The bytes that have been cut off join those that were passed, so the tail stays the same.
  induction remaining : rest.length using Nat.strong_induction_on generalizing passed rest with
  | _ count ih =>
      by_cases some_left : rest ≠ []
      · have same := limits.firstLength_append first second covered rest
        have positive := limits.firstLength_pos (second ++ passed) some_left
        have within := limits.firstLength_le (second ++ passed) rest
        rw [cut, dif_pos some_left, cut, dif_pos some_left, same]
        generalize limits.firstLength (second ++ passed) rest = length at *
        have block_length : (rest.take length).length = length := by
          rw [List.length_take]
          omega
        refine .cons ⟨rfl, rfl, passed.length, by omega, ?_, ?_⟩ ?_
        · rw [List.length_append]
        · rw [List.length_append]
        · have later := ih (rest.drop length).length (by rw [List.length_drop]; omega)
            (passed ++ rest.take length) (rest.drop length)
            (by rw [List.length_append]; omega) rfl
          have whole : (passed ++ rest.take length).length + (rest.drop length).length =
              passed.length + count := by
            rw [List.length_append, List.length_drop]
            omega
          rw [whole] at later
          rw [List.append_assoc, List.append_assoc]
          exact later
      · rw [Decidable.not_not.mp some_left, cut_nil, cut_nil]
        exact .nil

end Limits

namespace Signature

/-- The blocks of a signature in two parts: up to a place of the stream where a block ends, and
from there on. A block ends where the lengths of the blocks up to it lead. -/
structure PartsAt (signature : Signature) (place : Nat) (earlier later : List Block) : Prop where
  blocks_eq : signature.blocks = earlier ++ later
  ends : earlier ≠ []
  place_eq : (earlier.map fun block => block.length.toNat).sum = place

/-- The digest of a block in the later part is found. -/
theorem PartsAt.isSome_find? {signature : Signature} {place : Nat} {earlier later : List Block}
    (parts : signature.PartsAt place earlier later) {checksum : Digest}
    (listed : checksum ∈ later.map Block.checksum) : (signature.find? checksum).isSome := by
  rw [Option.isSome_iff_ne_none]
  intro missing
  refine find?_eq_none_iff.mp missing ?_
  rw [parts.blocks_eq, List.map_append]
  exact List.mem_append_right _ listed

end Signature

namespace Chunker

/-- The blocks of a stream after a place where one of them ends are those of what remains there. -/
theorem later_of_partsAt {chunker : Chunker} {begun tail : Bytes} {place : Nat}
    {earlier later : List Block} (within : place ≤ tail.length)
    (parts : (chunker.signature (begun ++ tail)).PartsAt (begun.length + place) earlier later) :
    later = chunker.limits.cut (begun ++ tail.take place) (tail.drop place) := by
  have blocks := parts.blocks_eq
  rw [signature_eq_onePass] at blocks
  obtain ⟨passed, remaining, split, counted, rest⟩ :=
    Limits.cut_of_append (Limits.maximum_pos chunker.accepted) blocks
  have whole : begun ++ tail.take place ++ tail.drop place = passed ++ remaining := by
    rw [List.append_assoc, List.take_append_drop, split]
  have reached : (begun ++ tail.take place).length = passed.length := by
    rw [counted, parts.place_eq, List.length_append, List.length_take, Nat.min_eq_left within]
  obtain ⟨rfl, rfl⟩ := List.append_inj whole reached
  exact rest

/-- **Streams that meet are cut alike from there on.** Two streams go on with the same tail, and a
block of either ends at the same place of it. If no block that begins there can end before the
window lies in the tail, the later blocks of both have the same lengths and digests and are moved
by the difference of the two beginnings, and each of them is found in the signature of the other
stream. -/
theorem generate_of_common_tail {chunker : Chunker} {first second tail : Bytes}
    {left_reads right_reads : List Read} {left right : Signature} {place : Nat}
    {left_earlier left_later right_earlier right_later : List Block}
    (left_delivered : Read.delivered left_reads = first ++ tail)
    (right_delivered : Read.delivered right_reads = second ++ tail)
    (left_made : chunker.generate left_reads = .ok left)
    (right_made : chunker.generate right_reads = .ok right)
    (within : place ≤ tail.length)
    (covered : windowSize ≤ place + chunker.limits.minimum.toNat)
    (left_parts : left.PartsAt (first.length + place) left_earlier left_later)
    (right_parts : right.PartsAt (second.length + place) right_earlier right_later) :
    List.Forall₂ (Block.Moved first.length second.length tail.length) left_later right_later ∧
      ((first ++ tail).length < UInt64.size → (second ++ tail).length < UInt64.size →
        List.Forall₂ (fun left right => (left.offset.toNat : Int) - right.offset.toNat =
          (first.length : Int) - second.length) left_later right_later) ∧
      (∀ block ∈ left_later, (right.find? block.checksum).isSome) ∧
      ∀ block ∈ right_later, (left.find? block.checksum).isSome := by
  have left_eq := generate_eq_ok left_made
  have right_eq := generate_eq_ok right_made
  rw [left_delivered] at left_eq
  rw [right_delivered] at right_eq
  subst left_eq right_eq
  have passed : (tail.take place).length = place := by
    rw [List.length_take, Nat.min_eq_left within]
  have whole : (tail.take place).length + (tail.drop place).length = tail.length := by
    rw [← List.length_append, List.take_append_drop]
  have moved := chunker.limits.cut_append first second (tail.take place) (tail.drop place)
    (by rw [passed]; exact covered)
  rw [whole, ← later_of_partsAt within left_parts, ← later_of_partsAt within right_parts] at moved
  have same := Block.map_checksum_of_moved moved
  refine ⟨moved, fun first_short second_short => ?_, fun block member => ?_,
    fun block member => ?_⟩
  · rw [List.length_append] at first_short second_short
    exact moved.imp fun _ _ pair => pair.offset_sub first_short second_short
  · exact right_parts.isSome_find? (same ▸ List.mem_map_of_mem member)
  · exact left_parts.isSome_find? (same ▸ List.mem_map_of_mem member)

/-- One stream is the tail of the other, which begins with five bytes more. They are first cut at
different places. Where blocks of both end after 46 bytes of the tail, the window of the shortest
block that can follow lies just in the tail, and the last three blocks are the same. -/
theorem generate_of_common_tail_of_met :
    ∃ (chunker : Chunker) (tail : Bytes) (left right : Signature),
      chunker.limits = ⟨2, 4, 6⟩ ∧
      tail = (List.range 60).map (fun place => UInt8.ofNat (place * place * 7 % 251)) ∧
      chunker.generate [.bytes tail] = .ok left ∧
      chunker.generate [.bytes ([9, 8, 7, 1, 1] ++ tail)] = .ok right ∧
      46 ≤ tail.length ∧ windowSize ≤ 46 + chunker.limits.minimum.toNat ∧
      left.PartsAt 46 (left.blocks.take 11) (left.blocks.drop 11) ∧
      right.PartsAt (5 + 46) (right.blocks.take 13) (right.blocks.drop 13) ∧
      List.Forall₂ (Block.Moved 0 5 60) (left.blocks.drop 11) (right.blocks.drop 13) ∧
      (left.blocks.drop 11).map Block.length = [6, 5, 3] := by
  let chunker : Chunker := ⟨⟨2, 4, 6⟩, rfl⟩
  let tail : Bytes := (List.range 60).map fun place => UInt8.ofNat (place * place * 7 % 251)
  have left_parts : (chunker.signature tail).PartsAt 46
      ((chunker.signature tail).blocks.take 11) ((chunker.signature tail).blocks.drop 11) :=
    ⟨(List.take_append_drop _ _).symm, by decide +kernel, by decide +kernel⟩
  have right_parts : (chunker.signature ([9, 8, 7, 1, 1] ++ tail)).PartsAt (5 + 46)
      ((chunker.signature ([9, 8, 7, 1, 1] ++ tail)).blocks.take 13)
      ((chunker.signature ([9, 8, 7, 1, 1] ++ tail)).blocks.drop 13) :=
    ⟨(List.take_append_drop _ _).symm, by decide +kernel, by decide +kernel⟩
  have within : 46 ≤ tail.length := by decide
  have covered : windowSize ≤ 46 + chunker.limits.minimum.toNat := by decide
  have left_delivered : Read.delivered [.bytes tail] = [] ++ tail := rfl
  have right_delivered : Read.delivered [.bytes ([9, 8, 7, 1, 1] ++ tail)] =
    [9, 8, 7, 1, 1] ++ tail := rfl
  have left_made : chunker.generate [.bytes tail] = .ok (chunker.signature tail) :=
    chunker.generate_of_goesOn (by decide)
  have right_made : chunker.generate [.bytes ([9, 8, 7, 1, 1] ++ tail)] =
      .ok (chunker.signature ([9, 8, 7, 1, 1] ++ tail)) :=
    chunker.generate_of_goesOn (by decide)
  have met := generate_of_common_tail left_delivered right_delivered left_made right_made within
    covered left_parts right_parts
  exact ⟨chunker, tail, _, _, rfl, rfl, left_made, right_made, within, covered, left_parts,
    right_parts, met.1, by decide +kernel⟩

end Chunker

end ReplicaSync
