import ReplicaSync.Json.Record
import ReplicaSync.Plan.Basic

/-!
# Plans in JSON

A piece is a record whose first field names its side. Since the side decides how the rest is
to be read, the whole piece is kept until it is known: nothing in it may go beyond what can be
kept, that is a nesting of 127 arrays and objects counted from the document, strings that
denote texts, and numbers within the range of doubles. This holds also for members that are no
fields of a piece.
-/

set_option autoImplicit false

namespace ReplicaSync

namespace Piece

/-- The JSON form of a piece. -/
def toJson (piece : Piece) : Json :=
  .record [("kind", .ofText piece.side.name), ("offset", .ofNat piece.offset.toNat),
    ("length", .ofNat piece.length.toNat)]

/-- The greatest nesting of a piece that can be kept. -/
def nestingLimit : Nat := 127

/-- The side with the given name. -/
def sideOfName? (value : Json) : Option Side :=
  value.text?.bind fun name => [("seed", Side.seed), ("source", Side.source)].lookup name

/-- The piece with the given JSON form, which lies within so many arrays and objects. -/
def ofJson? (enclosing : Nat) (value : Json) : Option Piece :=
  if value.sound && enclosing + value.depth ≤ nestingLimit then
    match value.fields? ["kind", "offset", "length"] with
    | some [some kind, some offset, some length] => do
        return ⟨← sideOfName? kind, ← offset.uint64?, ← length.uint32?⟩
    | _ => none
  else none

end Piece

namespace Plan

/-- The JSON form of a plan. -/
def toJson (plan : Plan) : Json :=
  .record [("items", .array (plan.pieces.map Piece.toJson)),
    ("source_length", .ofNat plan.sourceLength.toNat)]

/-- The plan with the given JSON form. -/
def ofJson? (value : Json) : Option Plan :=
  match value.fields? ["items", "source_length"] with
  | some [some items, some sourceLength] => do
      return ⟨← items.list? (Piece.ofJson? 2), ← sourceLength.uint64?⟩
  | _ => none

end Plan

end ReplicaSync
