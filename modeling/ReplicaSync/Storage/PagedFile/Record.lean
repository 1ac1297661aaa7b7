import ReplicaSync.Storage.PagedFile.Tree
import ReplicaSync.Text.Units

/-!
# Records

An entry of a table is a record, a row of values. The head of a record says of each value what it
is and how many bytes it takes, and the bytes of the values follow in the same order.
-/

set_option autoImplicit false

namespace ReplicaSync.PagedFile

/-- A value of a record, as far as the reader tells values apart. -/
inductive Value where
  | number (value : Nat)
  | text (value : String)
  | other
  deriving DecidableEq, Repr

/-- How many bytes a value takes, by the number that stands for it in the head. -/
def valueWidth : Nat → Nat
  | 1 => 1
  | 2 => 2
  | 3 => 3
  | 4 => 4
  | 5 => 6
  | 6 | 7 => 8
  | kind => (kind - 12) / 2

/-- How a file has its texts. -/
inductive Encoding where
  | bytes
  /-- In units of two bytes, with the greater one in front or behind. -/
  | units (greaterFirst : Bool)
  deriving DecidableEq, Repr

/-- The encoding that a header states. -/
def encoding (content : Bytes) : Encoding :=
  match content.numberAt 59 1 % 4 with
  | 2 => .units false
  | 3 => .units true
  | _ => .bytes

/-- The units in a byte string, newest first, in front of others. -/
def unitsOf (greaterFirst : Bool) : List TextUnit → Bytes → List TextUnit
  | units, first :: second :: rest =>
      let code :=
        if greaterFirst then 256 * first.toNat + second.toNat
        else 256 * second.toNat + first.toNat
      unitsOf greaterFirst (.ofCode code :: units) rest
  | units, _ => units

/-- The text in a field. -/
def Encoding.toText? : Encoding → Bytes → Option String
  | .bytes, field => Bytes.toText? field
  | .units greaterFirst, field => joinUnits (unitsOf greaterFirst [] field)

/-- The value in a field. From 12 on the even kinds are byte strings and the odd ones texts. -/
def Value.ofField (encoding : Encoding) (kind : Nat) (field : Bytes) : Value :=
  if 12 ≤ kind ∧ kind % 2 = 1 then ((encoding.toText? field).map .text).getD .other
  else if 1 ≤ kind ∧ kind ≤ 6 then .number (Bytes.ofBigEndian field)
  else if kind = 8 ∨ kind = 9 then .number (kind - 8)
  else .other

/-- The numbers that a byte string is made of. -/
def counts? (bytes : Bytes) : Option (List Nat) :=
  match bytes with
  | [] => some []
  | first :: others =>
      match taken : takeCount (first :: others) with
      | none => none
      | some (count, rest) =>
          have := length_of_takeDigits taken
          (counts? rest).map (count :: ·)
termination_by bytes.length
decreasing_by assumption

/-- The values in a byte string, one for each number of the head. -/
def values? (encoding : Encoding) : List Nat → Bytes → Option (List Value)
  | [], _ => some []
  | kind :: kinds, bytes => do
      let (field, rest) ← Bytes.takeField? (valueWidth kind) bytes
      return Value.ofField encoding kind field :: (← values? encoding kinds rest)

/-- The values of a record. The head begins with its own size. -/
def record? (encoding : Encoding) (entry : Bytes) : Option (List Value) := do
  let (size, rest) ← takeCount entry
  let (head, body) ← Bytes.takeField? (size - (entry.length - rest.length)) rest
  values? encoding (← counts? head) body

/-- The records of the tree below a page. -/
def records? (content : Bytes) (order : Order) (root : Nat) : Option (List (List Value)) := do
  (← entries? content order (pageCount content) root).mapM (record? (encoding content))

end ReplicaSync.PagedFile
