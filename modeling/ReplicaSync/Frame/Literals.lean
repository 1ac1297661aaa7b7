import ReplicaSync.Fault
import ReplicaSync.Frame.PrefixCode

/-!
# Literals of a block

A coded block begins with its literals, the bytes that it does not repeat from somewhere before.
They stand there as they are, or as one byte that stands for all, or in a prefix code, which is
described in front of them or is the one of the block before. A long row of literals is cut into
quarters.
-/

set_option autoImplicit false

namespace ReplicaSync.Frame

/-- How literals are held. -/
inductive LiteralsForm where
  /-- As they are. -/
  | stored
  /-- As one byte, many times. -/
  | repeated
  /-- In a code that is described in front. -/
  | coded
  /-- In the code of the block before. -/
  | codedAgain
  deriving DecidableEq, Repr

/-- What the head of literals says. -/
structure LiteralsHead where
  form : LiteralsForm
  /-- The number of literals. -/
  count : Nat
  /-- The number of bytes of the literals and their code. -/
  size : Nat
  /-- Whether the literals are cut into quarters. -/
  inQuarters : Bool

namespace LiteralsHead

/-- The head of literals that are not coded. Its width depends on its third and fourth bit. -/
def readPlain? (form : LiteralsForm) (bytes : Bytes) : Option (LiteralsHead × Bytes) := do
  let first := (bytes.headD 0).toNat
  let (width, shift) :=
    match first / 4 % 4 with
    | 1 => (2, 4)
    | 3 => (3, 4)
    | _ => (1, 3)
  let (number, rest) ← Bytes.takeNumber? width bytes
  let count := number / Nat.pow 2 shift
  return (⟨form, count, if form = .stored then count else 1, false⟩, rest)

/-- The head of literals that are coded. It has two numbers of the same width, and there are five
bytes at least. -/
def readCoded? (form : LiteralsForm) (bytes : Bytes) : Option (LiteralsHead × Bytes) := do
  if bytes.length < 5 then none
  else
    let first := (bytes.headD 0).toNat
    let (width, digits) :=
      match first / 4 % 4 with
      | 2 => (4, 14)
      | 3 => (5, 18)
      | _ => (3, 10)
    let (number, rest) ← Bytes.takeNumber? width bytes
    let limit := Nat.pow 2 digits
    return (⟨form, number / 16 % limit, number / 16 / limit, first / 4 % 4 ≠ 0⟩, rest)

/-- Reads the head of literals. The first two bits tell the form. -/
def read? (bytes : Bytes) : Option (LiteralsHead × Bytes) :=
  match (bytes.headD 0).toNat % 4 with
  | 0 => readPlain? .stored bytes
  | 1 => readPlain? .repeated bytes
  | 2 => readCoded? .coded bytes
  | _ => readCoded? .codedAgain bytes

end LiteralsHead

/-- The least number of literals that can be cut into quarters. -/
def minQuartered : Nat := 6

/-- The literals in a code. -/
def LiteralsHead.decode (head : LiteralsHead) (code : PrefixCode) (field : Bytes) :
    Except FrameFault (Array UInt8) :=
  let literals :=
    if head.inQuarters then code.readQuarters? head.count field
    else code.readAll? head.count field #[]
  match literals with
  | none => .error .damaged
  | some literals => .ok literals

/-- The literals that a head announces, from the bytes that it counts, and the code for the blocks
to come. -/
def LiteralsHead.content (head : LiteralsHead) (previous : Option PrefixCode) (field : Bytes) :
    Except FrameFault (Array UInt8 × Option PrefixCode) :=
  match head.form, previous with
  | .stored, _ => .ok (field.toArray, previous)
  | .repeated, _ => .ok (Array.replicate head.count (field.headD 0), previous)
  | .coded, _ =>
      match PrefixCode.read? PrefixCode.readWeights? field with
      | none => .error .damaged
      | some (code, field) => (head.decode code field).map (·, some code)
  | .codedAgain, none => .error .noCode
  | .codedAgain, some code => (head.decode code field).map (·, some code)

/-- Reads the literals of a block that may stand for `limit` bytes and has room for `room`. The
block goes on behind its literals. -/
def readLiterals (limit room : Nat) (previous : Option PrefixCode) (bytes : Bytes) :
    Except FrameFault ((Array UInt8 × Option PrefixCode) × Bytes) :=
  if bytes.length < 2 then .error .damaged
  else if bytes.headD 0 % 4 = 3 ∧ previous.isNone then .error .noCode
  else
    match LiteralsHead.read? bytes with
    | none => .error .damaged
    | some (head, rest) =>
        if limit < head.count then .error .damaged
        else if head.inQuarters ∧ head.count < minQuartered then .error .literalsHeader
        else
          match Bytes.takeField? head.size rest with
          | none => .error .damaged
          | some (field, rest) =>
              if room < head.count then .error .noRoom
              else (head.content previous field).map (·, rest)

end ReplicaSync.Frame
