import Mathlib.Algebra.Order.Ring.Nat
import ReplicaSync.Signature.Basic

/-!
# Tilings

A signature that passes its check tiles its stream: the blocks have bytes, and each begins
where the one before it ends. `Signature.Tiles` says this in unbounded arithmetic, while the
check computes with words, so the two agree only as long as no block ends beyond the words
(`tiles_of_checkBlocks`). No block does if there are fewer of them than 32 bits can count
(`tiles_of_check`).

A signature describes a byte string when it passes its check, counts the bytes of the string,
and every block stands within the string and has the digest of the bytes there
(`Signature.Describes`). The contents of its blocks then make up the string
(`Describes.flatMap_content`).
-/

set_option autoImplicit false

namespace ReplicaSync

namespace Bytes

/-- Two ranges next to each other make up one range. -/
theorem range_append_range (bytes : Bytes) (offset first second : Nat) :
    bytes.range offset first ++ bytes.range (offset + first) second =
      bytes.range offset (first + second) := by
  simp only [range]
  rw [List.take_add, List.drop_drop]

/-- A range that lies in the first of two byte strings is a range of that one. -/
theorem range_append_of_le (left right : Bytes) (offset length : Nat)
    (within : offset + length ≤ left.length) :
    (left ++ right).range offset length = left.range offset length := by
  simp only [range]
  rw [List.drop_append_of_le_length (by omega), List.take_append_of_le_length]
  rw [List.length_drop]
  omega

end Bytes

namespace Block

/-- The bytes of a stream that a block stands for. -/
def content (stream : Bytes) (block : Block) : Bytes :=
  stream.range block.offset.toNat block.length.toNat

/-- Whether a position of the stream stands in a block. -/
def Covers (block : Block) (position : Nat) : Prop :=
  block.offset.toNat ≤ position ∧ position < block.offset.toNat + block.length.toNat

/-- Where a block ends, as long as that is within the words. -/
theorem toNat_stop (block : Block)
    (fits : block.offset.toNat + block.length.toNat < UInt64.size) :
    block.stop.toNat = block.offset.toNat + block.length.toNat := by
  rw [stop, UInt64.toNat_add, UInt32.toNat_toUInt64]
  exact Nat.mod_eq_of_lt fits

end Block

namespace Signature

/-- Blocks that have bytes and follow each other without a gap from one place to another. -/
def Tiles (stop : Nat) : Nat → List Block → Prop
  | start, [] => start = stop
  | start, block :: rest =>
      block.offset.toNat = start ∧ 0 < block.length.toNat ∧
        Tiles stop (start + block.length.toNat) rest

/-- A tiling goes forward. -/
theorem Tiles.start_le {stop start : Nat} {blocks : List Block} (tiles : Tiles stop start blocks) :
    start ≤ stop := by
  induction blocks generalizing start with
  | nil => exact Nat.le_of_eq tiles
  | cons block rest ih => exact Nat.le_of_add_right_le (ih tiles.2.2)

/-- Every block of a tiling stands between its two ends. -/
theorem Tiles.within {stop start : Nat} {blocks : List Block} (tiles : Tiles stop start blocks)
    {block : Block} (member : block ∈ blocks) :
    start ≤ block.offset.toNat ∧ block.offset.toNat + block.length.toNat ≤ stop := by
  induction blocks generalizing start with
  | nil => cases member
  | cons first rest ih =>
      obtain ⟨placed, _, next⟩ := tiles
      rcases List.mem_cons.mp member with rfl | later
      · exact ⟨Nat.le_of_eq placed.symm, placed ▸ next.start_le⟩
      · obtain ⟨after, before⟩ := ih next later
        exact ⟨Nat.le_of_add_right_le after, before⟩

/-- Every block of a tiling has bytes. -/
theorem Tiles.positive {stop start : Nat} {blocks : List Block} (tiles : Tiles stop start blocks)
    {block : Block} (member : block ∈ blocks) : 0 < block.length.toNat := by
  induction blocks generalizing start with
  | nil => cases member
  | cons first rest ih =>
      rcases List.mem_cons.mp member with rfl | later
      · exact tiles.2.1
      · exact ih tiles.2.2 later

/-- What follows some of the blocks of a tiling tiles the rest, from where their lengths lead. -/
theorem Tiles.of_append {stop start : Nat} {blocks more : List Block}
    (tiles : Tiles stop start (blocks ++ more)) :
    Tiles stop (start + (blocks.map fun block => block.length.toNat).sum) more := by
  induction blocks generalizing start with
  | nil => exact tiles
  | cons block rest ih =>
      rw [List.map_cons, List.sum_cons, ← Nat.add_assoc]
      exact ih tiles.2.2

/-- The lengths of the blocks of a tiling lead from its one end to the other. -/
theorem Tiles.sum_length {stop start : Nat} {blocks : List Block}
    (tiles : Tiles stop start blocks) :
    start + (blocks.map fun block => block.length.toNat).sum = stop := by
  have whole : Tiles stop start (blocks ++ []) := (List.append_nil blocks).symm ▸ tiles
  exact whole.of_append

/-- **The check accepts only tilings**, when no block ends beyond the words. -/
theorem tiles_of_checkBlocks {index : Nat} {expected covered : UInt64} {blocks : List Block}
    (fits : ∀ block ∈ blocks, block.offset.toNat + block.length.toNat < UInt64.size)
    (accepted : checkBlocks index expected blocks = .ok covered) :
    Tiles covered.toNat expected.toNat blocks := by
  induction blocks generalizing index expected with
  | nil =>
      cases accepted
      rfl
  | cons block rest ih =>
      rw [checkBlocks] at accepted
      split at accepted
      · cases accepted
      · next positive =>
        split at accepted
        · cases accepted
        · next placed =>
          have here : block.offset = expected := Decidable.not_not.mp placed
          have next := ih (fun other member => fits other (.tail block member)) accepted
          rw [block.toNat_stop (fits block List.mem_cons_self)] at next
          have some_bytes : 0 < block.length.toNat :=
            Nat.pos_of_ne_zero fun none => positive (UInt32.toNat_inj.mp none)
          exact ⟨congrArg UInt64.toNat here, some_bytes, here ▸ next⟩

/-- A signature that passes its check has blocks that lead to its length. -/
theorem checkBlocks_of_check {signature : Signature} (accepted : signature.check = .ok ()) :
    checkBlocks 0 0 signature.blocks = .ok signature.length := by
  rw [check] at accepted
  split at accepted
  · cases accepted
  · next covered followed =>
    split at accepted
    · next whole => exact whole ▸ followed
    · cases accepted

/-- Blocks that pass the check have room behind their offsets for a length of 32 bits, as long as
they are few. -/
theorem room_of_checkBlocks {index : Nat} {expected covered : UInt64} {blocks : List Block}
    (few : expected.toNat + blocks.length * UInt32.size ≤ UInt64.size)
    (accepted : checkBlocks index expected blocks = .ok covered) :
    ∀ block ∈ blocks, block.offset.toNat + UInt32.size ≤ UInt64.size := by
  induction blocks generalizing index expected with
  | nil => exact nofun
  | cons first rest ih =>
      rw [checkBlocks] at accepted
      split at accepted
      · cases accepted
      · split at accepted
        · cases accepted
        · next placed =>
          have here : first.offset = expected := Decidable.not_not.mp placed
          have short := first.length.toNat_lt
          rw [← here] at few
          simp only [List.length_cons, UInt32.size, UInt64.size] at few ⊢
          rintro block (_ | ⟨_, later⟩)
          · omega
          · refine ih ?_ accepted block later
            rw [first.toNat_stop (by simp only [UInt64.size]; omega)]
            simp only [UInt32.size, UInt64.size]
            omega

/-- Blocks that pass the check are a tiling, as long as they are few. -/
theorem tiles_of_few {index : Nat} {expected reached : UInt64} {blocks : List Block}
    (few : expected.toNat + blocks.length * UInt32.size ≤ UInt64.size)
    (accepted : checkBlocks index expected blocks = .ok reached) :
    Tiles reached.toNat expected.toNat blocks := by
  refine tiles_of_checkBlocks (fun block member => ?_) accepted
  have room := room_of_checkBlocks few accepted block member
  have short : block.length.toNat < UInt32.size := block.length.toNat_lt
  omega

/-- The place that the check reaches is the sum of the lengths up to there, as long as the blocks
are few: the words never run over. -/
theorem toNat_of_checkBlocks {index : Nat} {expected reached : UInt64} {blocks : List Block}
    (few : expected.toNat + blocks.length * UInt32.size ≤ UInt64.size)
    (accepted : checkBlocks index expected blocks = .ok reached) :
    reached.toNat = expected.toNat + (blocks.map fun block => block.length.toNat).sum :=
  (tiles_of_few few accepted).sum_length.symm

/-- Fewer blocks than 32 bits can count are few. -/
theorem few_of_length_lt {blocks : List Block} (few : blocks.length < UInt32.size) :
    (0 : UInt64).toNat + blocks.length * UInt32.size ≤ UInt64.size := by
  simp only [UInt64.toNat_zero, UInt32.size, UInt64.size] at few ⊢
  omega

/-- A signature that passes its check and has fewer blocks than 32 bits can count has room behind
the offsets of its blocks. -/
theorem room_of_check {signature : Signature} (few : signature.blocks.length < UInt32.size)
    (accepted : signature.check = .ok ()) :
    ∀ block ∈ signature.blocks, block.offset.toNat + UInt32.size ≤ UInt64.size :=
  room_of_checkBlocks (few_of_length_lt few) (checkBlocks_of_check accepted)

/-- **A signature that passes its check tiles its stream**, when it has fewer blocks than 32 bits
can count. -/
theorem tiles_of_check {signature : Signature} (few : signature.blocks.length < UInt32.size)
    (accepted : signature.check = .ok ()) :
    Tiles signature.length.toNat 0 signature.blocks :=
  tiles_of_few (few_of_length_lt few) (checkBlocks_of_check accepted)

/-- The check follows a tiling to its end. -/
theorem checkBlocks_of_tiles {index stop : Nat} {expected covered : UInt64}
    {blocks : List Block} (ends : covered.toNat = stop)
    (tiles : Tiles stop expected.toNat blocks) :
    checkBlocks index expected blocks = .ok covered := by
  induction blocks generalizing index expected with
  | nil =>
      have same : expected = covered := UInt64.toNat_inj.mp (tiles.trans ends.symm)
      rw [checkBlocks, same]
  | cons block rest ih =>
      obtain ⟨placed, positive, next⟩ := tiles
      have here : block.offset = expected := UInt64.toNat_inj.mp placed
      have some_bytes : block.length ≠ 0 := fun none => by simp [none] at positive
      have reach : Tiles stop block.stop.toNat rest := by
        rw [block.toNat_stop]
        · rwa [placed]
        · rw [placed]
          exact Nat.lt_of_le_of_lt next.start_le (ends ▸ covered.toNat_lt)
      rw [checkBlocks, if_neg some_bytes, if_neg (not_not_intro here)]
      exact ih reach

/-- A tiling may be followed by one that goes on where it ends. -/
theorem Tiles.append {stop middle start : Nat} {blocks more : List Block}
    (tiles : Tiles middle start blocks) (later : Tiles stop middle more) :
    Tiles stop start (blocks ++ more) := by
  induction blocks generalizing start with
  | nil => rwa [List.nil_append, show start = middle from tiles]
  | cons block rest ih => exact ⟨tiles.1, tiles.2.1, ih tiles.2.2⟩

/-- The contents of the blocks of a tiling are the stream from its one end to the other. -/
theorem Tiles.flatMap_content {stop start : Nat} {blocks : List Block} (stream : Bytes)
    (tiles : Tiles stop start blocks) :
    blocks.flatMap (Block.content stream) = stream.range start (stop - start) := by
  induction blocks generalizing start with
  | nil =>
      rw [List.flatMap_nil, tiles, Nat.sub_self]
      rfl
  | cons block rest ih =>
      obtain ⟨placed, _, next⟩ := tiles
      have ahead := next.start_le
      rw [List.flatMap_cons, ih next, Block.content, placed, Bytes.range_append_range]
      congr 1
      omega

/-- Every position between the two ends of a tiling stands in a block. -/
theorem Tiles.exists_covering {stop start position : Nat} {blocks : List Block}
    (tiles : Tiles stop start blocks) (after : start ≤ position) (before : position < stop) :
    ∃ block ∈ blocks, block.Covers position := by
  induction blocks generalizing start with
  | nil => exact absurd (tiles ▸ after) (Nat.not_le.mpr before)
  | cons block rest ih =>
      obtain ⟨placed, _, next⟩ := tiles
      by_cases here : position < start + block.length.toNat
      · exact ⟨block, List.mem_cons_self, placed ▸ after, placed ▸ here⟩
      · obtain ⟨other, later, covers⟩ := ih next (Nat.not_lt.mp here)
        exact ⟨other, .tail block later, covers⟩

/-- What is read for the blocks of a tiling, one entry for every position, has as many entries as
there are positions between its two ends. -/
theorem Tiles.length_flatMap {α : Type} {stop start : Nat} {blocks : List Block}
    {reading : Block → List α} (tiles : Tiles stop start blocks)
    (length_eq : ∀ block, (reading block).length = block.length.toNat) :
    (blocks.flatMap reading).length = stop - start := by
  induction blocks generalizing start with
  | nil => rw [List.flatMap_nil, tiles, Nat.sub_self, List.length_nil]
  | cons block rest ih =>
      obtain ⟨_, _, next⟩ := tiles
      have ahead := next.start_le
      rw [List.flatMap_cons, List.length_append, length_eq, ih next]
      omega

/-- What is read for the blocks of a tiling stands at the positions of the blocks. -/
theorem Tiles.getElem?_flatMap {α : Type} {stop start index : Nat} {blocks : List Block}
    {reading : Block → List α} (tiles : Tiles stop start blocks)
    (length_eq : ∀ block, (reading block).length = block.length.toNat) {block : Block}
    (member : block ∈ blocks) (inside : index < block.length.toNat) :
    (blocks.flatMap reading)[block.offset.toNat - start + index]? = (reading block)[index]? := by
  induction blocks generalizing start with
  | nil => cases member
  | cons first rest ih =>
      obtain ⟨placed, _, next⟩ := tiles
      rw [List.flatMap_cons]
      rcases List.mem_cons.mp member with rfl | later
      · rw [placed, Nat.sub_self, Nat.zero_add]
        exact List.getElem?_append_left (by rwa [length_eq])
      · have behind := (next.within later).1
        rw [List.getElem?_append_right (by rw [length_eq]; omega), length_eq, ← ih next later]
        congr 1
        omega

/-! ## Signatures of byte strings -/

/-- What a signature says is true of a byte string. -/
structure Describes (signature : Signature) (stream : Bytes) : Prop where
  accepted : signature.check = .ok ()
  length_eq : signature.length.toNat = stream.length
  within : ∀ block ∈ signature.blocks,
    block.offset.toNat + block.length.toNat ≤ stream.length
  checksum_eq : ∀ block ∈ signature.blocks,
    block.checksum = .ofContent (block.content stream)

/-- The contents that the blocks of a signature stand for. -/
def contents (stream : Bytes) (signature : Signature) : List Bytes :=
  signature.blocks.map (Block.content stream)

namespace Describes

variable {signature : Signature} {stream : Bytes} (describes : signature.Describes stream)
include describes

/-- The stream has fewer bytes than a word can count. -/
theorem length_lt : stream.length < UInt64.size :=
  describes.length_eq ▸ signature.length.toNat_lt

/-- The blocks tile the stream. -/
theorem tiles : Tiles stream.length 0 signature.blocks := by
  have fits : ∀ block ∈ signature.blocks,
      block.offset.toNat + block.length.toNat < UInt64.size := fun block member =>
    Nat.lt_of_le_of_lt (describes.within block member) describes.length_lt
  have tiles := tiles_of_checkBlocks fits (checkBlocks_of_check describes.accepted)
  rwa [describes.length_eq] at tiles

/-- The contents of the blocks make up the stream. -/
theorem flatMap_content : signature.blocks.flatMap (Block.content stream) = stream := by
  rw [describes.tiles.flatMap_content stream, Nat.sub_zero, Bytes.range_zero_length]

/-- The content of a block has as many bytes as the block says. -/
theorem length_content {block : Block} (member : block ∈ signature.blocks) :
    (block.content stream).length = block.length.toNat :=
  Bytes.length_range_of_le stream _ _ (describes.within block member)

end Describes

/-- A signature that tiles a byte string and has the digests of its ranges describes it. -/
theorem describes_of_tiles {signature : Signature} {stream : Bytes}
    (length_eq : signature.length.toNat = stream.length)
    (tiles : Tiles stream.length 0 signature.blocks)
    (checksum_eq : ∀ block ∈ signature.blocks,
      block.checksum = .ofContent (block.content stream)) :
    signature.Describes stream where
  accepted := by
    have followed : checkBlocks 0 0 signature.blocks = .ok signature.length :=
      checkBlocks_of_tiles length_eq tiles
    rw [check, followed]
    exact if_pos rfl
  length_eq := length_eq
  within block member := (tiles.within member).2
  checksum_eq := checksum_eq

end Signature

end ReplicaSync
