import ReplicaSync.Plan.Basic
import ReplicaSync.Proofs.Signature.Tiling
import ReplicaSync.Proofs.Words

/-!
# Joining pieces

A piece stands for the bytes of a range on its side. Joining two pieces is joining two ranges
that lie next to each other, so it keeps the bytes they stand for, and a piece that lies within
its side stays there. By induction over the pieces pushed (`Plan.coalesce_induction`), whatever
pieces are read as, coalesced pieces read as the single ones if joined pieces do
(`Plan.coalesce_flatMap`). So they stand for the same bytes (`Plan.coalesce_within_and_content`).
-/

set_option autoImplicit false

namespace ReplicaSync

/-- The byte string on one side of a transfer. -/
def Side.stream (seed source : Bytes) : Side → Bytes
  | .seed => seed
  | .source => source

namespace Piece

/-- The bytes that a piece stands for. -/
def content (seed source : Bytes) (piece : Piece) : Bytes :=
  (piece.side.stream seed source).range piece.offset.toNat piece.length.toNat

/-- A piece that lies within its side. -/
def Within (seed source : Bytes) (piece : Piece) : Prop :=
  piece.offset.toNat + piece.length.toNat ≤ (piece.side.stream seed source).length

/-- When two pieces are joined, and to what. -/
theorem join?_eq_some_iff {piece next joined : Piece} :
    piece.join? next = some joined ↔
      piece.side = next.side ∧ piece.stop = next.offset ∧
        piece.length.toNat + next.length.toNat < UInt32.size ∧
          joined = { piece with length := piece.length + next.length } := by
  simp only [join?, addLengths?]
  split
  · next beside =>
    split
    · next fits =>
      constructor
      · rintro ⟨⟩
        exact ⟨beside.1, beside.2, fits, rfl⟩
      · rintro ⟨_, _, _, rfl⟩
        rfl
    · next long =>
      constructor
      · rintro ⟨⟩
      · rintro ⟨_, _, fits, _⟩
        exact absurd fits long
  · next apart =>
    constructor
    · rintro ⟨⟩
    · rintro ⟨side, stop, _⟩
      exact absurd ⟨side, stop⟩ apart

/-- The length of a joined piece. -/
theorem toNat_length_of_join? {piece next joined : Piece} (joins : piece.join? next = some joined) :
    joined.length.toNat = piece.length.toNat + next.length.toNat := by
  obtain ⟨_, _, fits, rfl⟩ := join?_eq_some_iff.mp joins
  exact Words.toNat_add32 fits

/-- The second of two joined pieces begins where the first one ends, as long as that is within the
words. -/
theorem toNat_offset_of_join? {piece next joined : Piece} (joins : piece.join? next = some joined)
    (fits : piece.offset.toNat + piece.length.toNat < UInt64.size) :
    next.offset.toNat = piece.offset.toNat + piece.length.toNat := by
  obtain ⟨_, stop, _, _⟩ := join?_eq_some_iff.mp joins
  rw [← stop]
  exact Words.toNat_add64 fits

section Join

variable {seed source : Bytes} {piece next joined : Piece}
variable (joins : piece.join? next = some joined) (within : piece.Within seed source)
variable (short : (piece.side.stream seed source).length < UInt64.size)
include joins within short

/-- A joined piece stands for the bytes of both pieces. -/
theorem content_of_join? :
    joined.content seed source = piece.content seed source ++ next.content seed source := by
  have offset := toNat_offset_of_join? joins (Nat.lt_of_le_of_lt within short)
  have length := toNat_length_of_join? joins
  obtain ⟨side, _, _, rfl⟩ := join?_eq_some_iff.mp joins
  simp only [content] at length ⊢
  rw [← side, offset, length, Bytes.range_append_range]

/-- A joined piece lies within its side. -/
theorem within_of_join? (next_within : next.Within seed source) : joined.Within seed source := by
  have offset := toNat_offset_of_join? joins (Nat.lt_of_le_of_lt within short)
  have length := toNat_length_of_join? joins
  obtain ⟨side, _, _, rfl⟩ := join?_eq_some_iff.mp joins
  simp only [Within, ← side] at length next_within ⊢
  omega

end Join

end Piece

namespace Plan

/-- Pushing either joins the piece to the newest one, or keeps it by itself where they cannot be
joined. -/
theorem push_cases (newest : List Piece) (piece : Piece) :
    (∃ last before joined, newest = last :: before ∧ last.join? piece = some joined ∧
      push newest piece = joined :: before) ∨
    ((∀ last ∈ newest.head?, last.join? piece = none) ∧ push newest piece = piece :: newest) := by
  cases newest with
  | nil => exact .inr ⟨nofun, rfl⟩
  | cons last before =>
      rw [push]
      cases joins : last.join? piece with
      | none =>
          refine .inr ⟨fun other same => ?_, rfl⟩
          obtain rfl := Option.some.inj same
          exact joins
      | some joined => exact .inl ⟨last, before, joined, rfl, joins, rfl⟩

/-- What holds before the first push and is kept by every push holds of coalesced pieces. -/
theorem coalesce_induction {motive : List Piece → List Piece → Prop} (start : motive [] [])
    (keep : ∀ pushed newest piece, motive pushed newest →
      motive (pushed ++ [piece]) (push newest piece)) (pieces : List Piece) :
    motive pieces (coalesce pieces).reverse := by
  have fold : ∀ pushed newest, motive pushed newest →
      motive (pushed ++ pieces) (pieces.foldl push newest) := by
    induction pieces with
    | nil => simp
    | cons piece rest ih =>
        intro pushed newest holds
        simpa using ih _ _ (keep pushed newest piece holds)
  simpa [coalesce] using fold [] [] start

/-- Coalesced pieces have a property and read as the single ones do, whenever joining two pieces
keeps the property and reads as the one piece followed by the other. -/
theorem coalesce_flatMap {α : Type} {Kept : Piece → Prop} {reading : Piece → List α}
    (joining : ∀ last piece joined, Kept last → Kept piece → last.join? piece = some joined →
      Kept joined ∧ reading joined = reading last ++ reading piece)
    (pieces : List Piece) (kept : ∀ piece ∈ pieces, Kept piece) :
    (∀ piece ∈ coalesce pieces, Kept piece) ∧
      (coalesce pieces).flatMap reading = pieces.flatMap reading := by
  have pushed := coalesce_induction
    (motive := fun pushed newest => (∀ piece ∈ pushed, Kept piece) →
      (∀ piece ∈ newest, Kept piece) ∧ newest.reverse.flatMap reading = pushed.flatMap reading)
    (fun _ => ⟨nofun, rfl⟩) ?_ pieces kept
  · simpa using pushed
  intro pushed newest piece keeps all
  obtain ⟨held, same⟩ := keeps fun other member => all other (List.mem_append_left _ member)
  have piece_kept : Kept piece := all piece (by simp)
  rcases push_cases newest piece with ⟨last, before, joined, rfl, joins, result⟩ | ⟨-, result⟩
  · obtain ⟨joined_kept, reads⟩ := joining last piece joined (held last List.mem_cons_self)
      piece_kept joins
    rw [result]
    refine ⟨fun other member => ?_, ?_⟩
    · rcases List.mem_cons.mp member with rfl | earlier
      · exact joined_kept
      · exact held other (.tail _ earlier)
    · rw [List.flatMap_append, ← same]
      simp [reads]
  · rw [result]
    refine ⟨fun other member => ?_, ?_⟩
    · rcases List.mem_cons.mp member with rfl | earlier
      · exact piece_kept
      · exact held other earlier
    · rw [List.flatMap_append, ← same]
      simp

/-- Coalesced pieces have every property that joining two pieces keeps. -/
theorem coalesce_forall {Kept : Piece → Prop}
    (joining : ∀ last piece joined, Kept last → Kept piece → last.join? piece = some joined →
      Kept joined)
    {pieces : List Piece} (kept : ∀ piece ∈ pieces, Kept piece) :
    ∀ piece ∈ coalesce pieces, Kept piece := by
  have nothing_read : (∀ piece ∈ coalesce pieces, Kept piece) ∧
      (coalesce pieces).flatMap (fun _ => ([] : List Unit)) = pieces.flatMap fun _ => [] :=
    coalesce_flatMap (fun last piece joined last_kept piece_kept joins =>
      ⟨joining last piece joined last_kept piece_kept joins, rfl⟩) pieces kept
  exact nothing_read.1

/-- Coalesced pieces are as long together as the single ones, wherever they reach. -/
theorem sum_length_coalesce (pieces : List Piece) :
    ((coalesce pieces).map fun piece => piece.length.toNat).sum =
      (pieces.map fun piece => piece.length.toNat).sum := by
  have pushed := coalesce_induction
    (motive := fun pushed newest => (newest.map fun piece => piece.length.toNat).sum =
      (pushed.map fun piece => piece.length.toNat).sum) rfl ?_ pieces
  · rw [← pushed, List.map_reverse, List.sum_reverse]
  intro pushed newest piece same
  rw [List.map_append, List.sum_append, ← same]
  rcases push_cases newest piece with ⟨last, before, joined, rfl, joins, result⟩ | ⟨-, result⟩
  · rw [result]
    simp only [List.map_cons, List.sum_cons, List.map_nil, List.sum_nil,
      Piece.toNat_length_of_join? joins]
    omega
  · rw [result]
    simp only [List.map_cons, List.sum_cons, List.map_nil, List.sum_nil]
    omega

/-- Coalesced pieces lie within their sides and stand for the bytes of the single pieces. -/
theorem coalesce_within_and_content {seed source : Bytes} (seed_short : seed.length < UInt64.size)
    (source_short : source.length < UInt64.size) (pieces : List Piece)
    (within : ∀ piece ∈ pieces, piece.Within seed source) :
    (∀ piece ∈ coalesce pieces, piece.Within seed source) ∧
      (coalesce pieces).flatMap (Piece.content seed source) =
        pieces.flatMap (Piece.content seed source) := by
  have short : ∀ side : Side, (side.stream seed source).length < UInt64.size
    | .seed => seed_short
    | .source => source_short
  refine coalesce_flatMap (fun last piece joined last_within piece_within joins => ?_) pieces within
  exact ⟨Piece.within_of_join? joins last_within (short _) piece_within,
    Piece.content_of_join? joins last_within (short _)⟩

end Plan

end ReplicaSync
