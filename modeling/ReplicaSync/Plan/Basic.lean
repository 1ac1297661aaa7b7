import ReplicaSync.Signature.Basic

/-!
# Plans

A plan says how to put a source stream together: it lists, in the order of the source, which
bytes are copied from the local seed and which are fetched from the source.

Neighbouring pieces are joined when they come from the same side, lie next to each other
there, and have together a length that fits 32 bits. `Plan.push` joins a new piece to the last
one, so that a plan that grows by pushing never holds two pieces that could be joined.
-/

set_option autoImplicit false

namespace ReplicaSync

/-- A range of bytes on one side of a transfer. -/
structure Piece where
  side : Side
  offset : UInt64
  length : UInt32
  deriving DecidableEq, Repr

namespace Piece

/-- Where the first byte after a piece stands on its side. -/
def stop (piece : Piece) : UInt64 :=
  piece.offset + piece.length.toUInt64

/-- Whether a piece is copied from the seed. -/
def isSeed (piece : Piece) : Bool := piece.side == .seed

/-- Whether a piece is fetched from the source. -/
def isSource (piece : Piece) : Bool := piece.side == .source

/-- The sum of two lengths, if it fits 32 bits. -/
def addLengths? (left right : UInt32) : Option UInt32 :=
  if left.toNat + right.toNat < UInt32.size then some (left + right) else none

/-- The piece that covers a piece and the one after it, if they lie next to each other on one
side and are not too long together. -/
def join? (piece next : Piece) : Option Piece :=
  if piece.side = next.side ∧ piece.stop = next.offset then
    (addLengths? piece.length next.length).map fun length => { piece with length }
  else none

end Piece

/-- How to put a source stream together. -/
structure Plan where
  /-- The pieces in the order of the source. -/
  pieces : List Piece
  /-- The length of the source stream. -/
  sourceLength : UInt64
  deriving DecidableEq

namespace Plan

/-- The plan for a source without bytes. -/
def empty : Plan := ⟨[], 0⟩

instance : Inhabited Plan := ⟨empty⟩

/-- Puts a piece in front of pieces that are kept newest first, joined to the newest one where
that is possible. -/
def push (newestFirst : List Piece) (piece : Piece) : List Piece :=
  match newestFirst with
  | [] => [piece]
  | last :: before =>
      match last.join? piece with
      | some joined => joined :: before
      | none => piece :: last :: before

/-- The pieces that come of pushing single pieces one after the other. -/
def coalesce (pieces : List Piece) : List Piece :=
  (pieces.foldl push []).reverse

/-- The sum of the lengths of pieces. -/
def lengthSum (pieces : List Piece) : UInt64 :=
  pieces.foldl (fun sum piece => sum + piece.length.toUInt64) 0

/-- The number of bytes that a plan puts together. -/
def totalLength (plan : Plan) : UInt64 :=
  lengthSum plan.pieces

/-- The number of bytes copied from the seed. -/
def seedBytes (plan : Plan) : UInt64 :=
  lengthSum (plan.pieces.filter Piece.isSeed)

/-- The number of bytes fetched from the source. -/
def sourceBytes (plan : Plan) : UInt64 :=
  lengthSum (plan.pieces.filter Piece.isSource)

end Plan

end ReplicaSync
