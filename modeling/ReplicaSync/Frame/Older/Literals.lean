import ReplicaSync.Fault
import ReplicaSync.Frame.Block
import ReplicaSync.Frame.Older.Header

/-!
# Literals in older formats

The literals of a coded block were held in the same ways as today, but the heads in front of them
were laid out differently: with the highest digits first, and before that in a layout of the
fourth format. Prefix codes had one more kind of description, for symbols that are all equally
long, and long rows of literals need not be in the code that was announced.
-/

set_option autoImplicit false

namespace ReplicaSync.Frame

/-! ## Codes -/

/-- Reads symbols with two states in turn, as in the first formats: it ends where all bits are used
up and both states are the first one. -/
def StateCode.takeTurnsToFirst (code : StateCode) :
    (room first second : Nat) → Bits → List Nat → Option (List Nat)
  | _, 0, second, [], taken => if second = 0 then some taken.reverse else none
  | room + 1, first, second, bits, taken =>
      match code.next? first bits with
      | none => none
      | some (next, bits) =>
          code.takeTurnsToFirst room second next bits ((code.cell first).symbol :: taken)
  | 0, _, _, _, _ => none

/-- Reads at most so many symbols from bytes with two states in turn, as in the first formats. -/
def StateCode.readTurnsToFirst? (code : StateCode) (room : Nat) (bytes : Bytes) :
    Option (List Nat) := do
  let bits ← Bits.backwards? bytes
  let (first, bits) ← code.start? bits
  let (second, bits) ← code.start? bits
  code.takeTurnsToFirst room first second bits []

/-- Reads a distribution that has at least four bytes. -/
def Distribution.readOlder? (maxLog symbols : Nat) (bytes : Bytes) :
    Option (Distribution × Bytes) :=
  if bytes.length < 4 then none else Distribution.read? maxLog symbols bytes

/-- Reads weights that are given by a code with states. -/
def OlderFormat.readWeights? (format : OlderFormat) (bytes : Bytes) : Option (List Nat) := do
  let (distribution, field) ← Distribution.readOlder? 12 256 bytes
  if format = .fourth ∨ format = .fifth then
    distribution.toCode.readTurnsToFirst? PrefixCode.maxWeights field
  else distribution.toCode.readTurns? PrefixCode.maxWeights field

/-- How many symbols there can be that are all equally long, but for the last one. -/
def evenSizes : List Nat := [1, 2, 3, 4, 7, 8, 15, 16, 31, 32, 63, 64, 127, 128]

/-- Reads a prefix code. -/
def OlderFormat.readPrefixCode? (format : OlderFormat) (bytes : Bytes) :
    Option (PrefixCode × Bytes) :=
  match bytes with
  | [] => none
  | first :: rest =>
      if 242 ≤ first.toNat then do
        let size ← evenSizes[first.toNat - 242]?
        return (← PrefixCode.ofWeights? (List.replicate size 1), rest)
      else PrefixCode.read? format.readWeights? bytes

/-! ## Heads -/

/-- The form that a number stands for. -/
def LiteralsForm.ofNumber : Nat → LiteralsForm
  | 0 => .coded
  | 1 => .codedAgain
  | 2 => .stored
  | _ => .repeated

namespace LiteralsHead

/-- Reads the head of literals in the fourth format. -/
def readFourth? (bytes : Bytes) : Option (LiteralsHead × Bytes) :=
  match (bytes.headD 0).toNat % 4 with
  | 0 =>
      (Bytes.takeNumber? 5 bytes).map fun (number, rest) =>
        (⟨.coded, number / 4 % 524288, number / 2097152, true⟩, rest)
  | 1 => (Bytes.takeNumber? 3 bytes).map fun (number, rest) =>
      (⟨.stored, number / 4, number / 4, false⟩, rest)
  | 2 => (Bytes.takeNumber? 3 bytes).map fun (number, rest) =>
      (⟨.repeated, number / 4, 1, false⟩, rest)
  | _ => none

/-- Reads the head of literals that are not coded. Its first four bits are the form and the kind of
the head. -/
def readOlderPlain? (form : LiteralsForm) (kind : Nat) (bytes : Bytes) :
    Option (LiteralsHead × Bytes) := do
  let (width, limit) :=
    match kind with
    | 2 => (2, 4096)
    | 3 => (3, 1048576)
    | _ => (1, 32)
  let (field, rest) ← Bytes.takeField? width bytes
  let count := Bytes.ofBigEndian field % limit
  return (⟨form, count, if form = .stored then count else 1, false⟩, rest)

/-- Reads the head of literals that are coded. -/
def readOlderCoded? (form : LiteralsForm) (kind : Nat) (bytes : Bytes) :
    Option (LiteralsHead × Bytes) := do
  let (width, limit) :=
    match kind with
    | 2 => (4, 16384)
    | 3 => (5, 262144)
    | _ => (3, 1024)
  let (field, rest) ← Bytes.takeField? width bytes
  let number := Bytes.ofBigEndian field
  return (⟨form, number / limit % limit, number % limit, kind ≠ 1⟩, rest)

/-- Reads the head of literals in an older format. Behind the head of a code there are five bytes at
least, and literals in the code of the block before are not cut into quarters. -/
def readOlder? (format : OlderFormat) (bytes : Bytes) : Option (LiteralsHead × Bytes) :=
  if format = .fourth then readFourth? bytes
  else
    let first := (bytes.headD 0).toNat
    let kind := first / 16 % 4
    match LiteralsForm.ofNumber (first / 64) with
    | .coded => if bytes.length < 5 then none else readOlderCoded? .coded kind bytes
    | .codedAgain => if kind = 1 then readOlderCoded? .codedAgain kind bytes else none
    | form => readOlderPlain? form kind bytes

end LiteralsHead

/-! ## Reading -/

/-- What reading in a code is expected to cost: once, and for every 256 symbols. -/
structure ReadingCost where
  once : Nat
  each : Nat

/-- The costs of reading one symbol at a time and of reading two, by how many sixteenths of their
room literals take in a code. -/
def readingCosts : List (ReadingCost × ReadingCost) :=
  [(⟨0, 0⟩, ⟨1, 1⟩), (⟨0, 0⟩, ⟨1, 1⟩), (⟨38, 130⟩, ⟨1313, 74⟩), (⟨448, 128⟩, ⟨1353, 74⟩),
    (⟨556, 128⟩, ⟨1353, 74⟩), (⟨714, 128⟩, ⟨1418, 74⟩), (⟨883, 128⟩, ⟨1437, 74⟩),
    (⟨897, 128⟩, ⟨1515, 75⟩), (⟨926, 128⟩, ⟨1613, 75⟩), (⟨947, 128⟩, ⟨1729, 77⟩),
    (⟨1107, 128⟩, ⟨2083, 81⟩), (⟨1177, 128⟩, ⟨2379, 87⟩), (⟨1242, 128⟩, ⟨2415, 93⟩),
    (⟨1349, 128⟩, ⟨2644, 106⟩), (⟨1455, 128⟩, ⟨2422, 124⟩), (⟨722, 128⟩, ⟨1891, 145⟩)]

/-- What so many symbols cost. -/
def ReadingCost.total (cost : ReadingCost) (count : Nat) : Nat :=
  cost.once + cost.each * (count / 256)

/-- Whether quarters of literals are read two symbols at a time: that has to be clearly cheaper. -/
def LiteralsHead.isReadInPairs (head : LiteralsHead) : Bool :=
  head.inQuarters &&
    readingCosts[head.size * 16 / head.count]?.any fun (one, two) =>
      two.total head.count + two.total head.count / 8 < one.total head.count

/-- The literals of a block, and what is left for the blocks to come. -/
structure OlderLiterals where
  literals : Array UInt8
  code : Option PrefixCode
  /-- Whether the code was read two symbols at a time. -/
  inPairs : Bool

/-- The literals in a code that is described in front, from the bytes that their head counts. -/
def LiteralsHead.decodeOlder? (head : LiteralsHead) (format : OlderFormat) (field : Bytes) :
    Option OlderLiterals := do
  let (code, field) ← format.readPrefixCode? field
  let literals ←
    if head.inQuarters then code.readQuarters? head.count field
    else code.readAll? head.count field #[]
  return ⟨literals, some code, head.isReadInPairs⟩

/-- Whether literals that were to be cut into quarters may be there as they are instead. -/
def OlderFormat.hasPlainQuarters : OlderFormat → Bool
  | .fourth => true
  | .sixth => true
  | _ => false

/-- The literals that are announced as coded. Where they were to be cut into quarters, bytes that
are no shorter than they are hold them as they are, if anything, and a single byte stands for all of
them, but not in the seventh format. -/
def LiteralsHead.contentOlder? (head : LiteralsHead) (format : OlderFormat) (field : Bytes) :
    Option OlderLiterals :=
  if ¬ head.inQuarters then head.decodeOlder? format field
  else if head.count ≤ field.length then
    if head.count = field.length ∧ head.count ≠ 0 ∧ format.hasPlainQuarters then
      some ⟨field.toArray, none, false⟩
    else none
  else
    match format, field with
    | .seventh, _ => head.decodeOlder? format field
    | _, [byte] => some ⟨Array.replicate head.count byte, none, false⟩
    | _, field => head.decodeOlder? format field

/-- The literals in the code of the block before. It can only be used again if it was read two
symbols at a time. -/
def LiteralsHead.decodeAgain? (head : LiteralsHead) (code : Option PrefixCode) (inPairs : Bool)
    (field : Bytes) : Option OlderLiterals := do
  if inPairs then
    let literals ← (← code).readAll? head.count field #[]
    return ⟨literals, code, inPairs⟩
  else none

/-- The least number of bytes of a coded block. -/
def OlderFormat.minCoded : OlderFormat → Nat
  | .fourth => 11
  | _ => 3

/-- The literals that are stored as they are behind a head in a block. In the fourth format those
that come near the end of the block are taken from the head on. -/
def OlderFormat.storedLiterals (format : OlderFormat) (block field : Bytes) : Array UInt8 :=
  if format = .fourth ∧ block.length < field.length + 11 then
    (block.take field.length).toArray
  else field.toArray

/-- Reads the literals of a block of an older format, with what the block before has left. -/
def readOlderLiterals (format : OlderFormat) (code : Option PrefixCode) (inPairs : Bool)
    (bytes : Bytes) : Except FrameFault (OlderLiterals × Bytes) :=
  if bytes.length < format.minCoded then .error .damaged
  else if format ≠ .fourth ∧ (bytes.headD 0).toNat / 16 = 5 ∧ code.isNone then .error .noCode
  else
    let read := do
      let (head, rest) ← LiteralsHead.readOlder? format bytes
      let (field, rest) ← Bytes.takeField? head.size rest
      if maxBlock < head.count then none
      else
        let literals ←
          match head.form with
          | .stored => some ⟨format.storedLiterals bytes field, code, inPairs⟩
          | .repeated => some ⟨Array.replicate head.count (field.headD 0), code, inPairs⟩
          | .coded => head.contentOlder? format field
          | .codedAgain => head.decodeAgain? code inPairs field
        return (literals, rest)
    match read with
    | none => .error .damaged
    | some result => .ok result

end ReplicaSync.Frame
