import Mathlib.Algebra.Order.BigOperators.Group.List
import Mathlib.Algebra.Order.Ring.Nat
import ReplicaSync.Plan.Assemble
import ReplicaSync.Proofs.Plan.Coalescing

/-!
# Following a plan

When every piece of a plan lies within its side, the fetcher answers from the source, and the
output takes everything, each piece brings its content to the output, and a source piece makes
one request (`Assembly.bring_within`). So the assembly ends well, with the contents of the
pieces in the output and the requests of the source pieces in their order
(`Plan.assemble_within`).
-/

set_option autoImplicit false

namespace ReplicaSync

namespace Output

/-- Accepted bytes come after those accepted before. -/
@[simp] theorem contents_accept (output : Output) (bytes : Bytes) :
    (output.accept bytes).contents = output.contents ++ bytes := by
  simp [contents, accept]

/-- An output without a bound accepts everything. -/
theorem write_unbounded {output : Output} (unbounded : output.bound = none) (bytes : Bytes) :
    output.write bytes = (.ok (), output.accept bytes) := by
  rw [write, unbounded]

end Output

namespace Piece

/-- The request that a piece makes when it comes from the source. -/
def request (piece : Piece) : Request := ⟨piece.offset, piece.length⟩

/-- The content of a piece within its side has as many bytes as the piece says. -/
theorem Within.length_content {seed source : Bytes} {piece : Piece}
    (within : piece.Within seed source) :
    (piece.content seed source).length = piece.length.toNat :=
  Bytes.length_range_of_le _ _ _ within

end Piece

namespace Plan

/-- The requests that following a plan makes, in their order. -/
def requests (plan : Plan) : List Request :=
  (plan.pieces.filter Piece.isSource).map Piece.request

end Plan

namespace Assembly

section Within

variable {seed source : Bytes}

/-- An assembly after a piece whose bytes were all there. -/
def after (seed source : Bytes) (assembly : Assembly) (piece : Piece) : Assembly where
  output := assembly.output.accept (piece.content seed source)
  requests := if piece.isSource then piece.request :: assembly.requests else assembly.requests
  written := assembly.written

/-- **A piece within its side brings its content.** -/
theorem bring_within {assembly : Assembly} (unbounded : assembly.output.bound = none)
    {piece : Piece} (within : piece.Within seed source) :
    assembly.bring seed (.ofBytes source) piece = (.ok (), assembly.after seed source piece) := by
  have length := within.length_content
  obtain ⟨side, offset, length⟩ := piece
  cases side with
  | seed =>
      simp only [Piece.content, Side.stream] at length
      simp [bring, copySeed, Output.write_unbounded unbounded, length, after, Piece.content,
        Side.stream, Piece.isSource]
  | source =>
      simp only [Piece.content, Side.stream] at length
      simp [bring, fetchSource, Fetcher.ofBytes, Output.write_unbounded unbounded, length, after,
        Piece.content, Side.stream, Piece.isSource, Piece.request]

/-- Pieces within their sides bring their contents one after the other. -/
theorem bringAll_within (assembly : Assembly) (unbounded : assembly.output.bound = none)
    {pieces : List Piece} (within : ∀ piece ∈ pieces, piece.Within seed source) :
    ∃ final, bringAll seed (.ofBytes source) pieces assembly =
        (.ok (pieces.foldl (fun sum piece => sum + piece.length.toUInt64) assembly.written),
          final) ∧
      final.output.contents =
        assembly.output.contents ++ pieces.flatMap (Piece.content seed source) ∧
      final.requests =
        ((pieces.filter Piece.isSource).map Piece.request).reverse ++ assembly.requests := by
  induction pieces generalizing assembly with
  | nil => exact ⟨assembly, rfl, by simp, rfl⟩
  | cons piece rest ih =>
      have brought := bring_within unbounded (within piece List.mem_cons_self)
      obtain ⟨final, followed, contents, requests⟩ :=
        ih { assembly.after seed source piece with
              written := assembly.written + piece.length.toUInt64 }
          unbounded fun other member => within other (.tail piece member)
      refine ⟨final, ?_, ?_, ?_⟩
      · rw [bringAll, brought]
        exact followed
      · rw [contents]
        simp [after]
      · rw [requests]
        cases from_source : piece.isSource <;> simp [after, from_source]

end Within

end Assembly

namespace Plan

/-- The sum of lengths as a number, as long as it is a word. -/
theorem toNat_lengthSum {pieces : List Piece}
    (fits : (pieces.map fun piece => piece.length.toNat).sum < UInt64.size) :
    (lengthSum pieces).toNat = (pieces.map fun piece => piece.length.toNat).sum := by
  have fold : ∀ start : UInt64,
      start.toNat + (pieces.map fun piece => piece.length.toNat).sum < UInt64.size →
        (pieces.foldl (fun sum piece => sum + piece.length.toUInt64) start).toNat =
          start.toNat + (pieces.map fun piece => piece.length.toNat).sum := by
    clear fits
    induction pieces with
    | nil => simp
    | cons piece rest ih =>
        intro start fits
        simp only [List.map_cons, List.sum_cons] at fits ⊢
        have added : (start + piece.length.toUInt64).toNat =
            start.toNat + piece.length.toNat := by
          apply Words.toNat_add64
          rw [UInt32.toNat_toUInt64]
          omega
        rw [List.foldl_cons, ih _ (by omega), added]
        omega
  simpa [lengthSum] using fold 0 (by simpa using fits)

/-- The sum of the lengths of some of the pieces, as long as the sum of all is a word. -/
theorem toNat_lengthSum_filter {pieces : List Piece} (chosen : Piece → Bool)
    (fits : (pieces.map fun piece => piece.length.toNat).sum < UInt64.size) :
    (lengthSum (pieces.filter chosen)).toNat =
      ((pieces.filter chosen).map fun piece => piece.length.toNat).sum := by
  have fewer : ((pieces.filter chosen).map fun piece => piece.length.toNat).sum ≤
      (pieces.map fun piece => piece.length.toNat).sum :=
    ((List.filter_sublist).map _).sum_le_sum fun _ _ => Nat.zero_le _
  exact toNat_lengthSum (Nat.lt_of_le_of_lt fewer fits)

/-- The lengths of pieces within their sides add up to the number of bytes they stand for. -/
theorem sum_length_within {seed source : Bytes} {pieces : List Piece}
    (within : ∀ piece ∈ pieces, piece.Within seed source) :
    (pieces.map fun piece => piece.length.toNat).sum =
      (pieces.flatMap (Piece.content seed source)).length := by
  rw [List.length_flatMap]
  congr 1
  exact List.map_congr_left fun piece member => (within piece member).length_content.symm

/-- **A plan whose pieces lie within their sides is followed to its end.** -/
theorem assemble_within {seed source : Bytes} (plan : Plan)
    (within : ∀ piece ∈ plan.pieces, piece.Within seed source) :
    ∃ assembly, plan.assemble seed (.ofBytes source) {} = (.ok plan.totalLength, assembly) ∧
      assembly.output.contents = plan.pieces.flatMap (Piece.content seed source) ∧
      assembly.requests.reverse = plan.requests := by
  obtain ⟨final, followed, contents, requests⟩ :=
    Assembly.bringAll_within {} rfl within
  refine ⟨final, followed, ?_, ?_⟩
  · rw [contents]
    rfl
  · rw [requests, List.append_nil, List.reverse_reverse]
    rfl

end Plan

end ReplicaSync
