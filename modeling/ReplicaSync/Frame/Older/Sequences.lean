import ReplicaSync.Frame.Block
import ReplicaSync.Frame.Older.Literals

/-!
# Sequences in older formats

In the sixth and seventh format sequences were held as they are today, but for the numbers of the
modes and for what stands for the last offsets. In the formats before, a symbol was the number
itself, up to the greatest, which is continued in bytes of its own in front of the codes.

The bits need not all be used up. Each sequence is carried out as soon as it is read, so of two
things that are wrong the first one counts. Only the sequence behind one that needs more bits than
there are is missing.
-/

set_option autoImplicit false

namespace ReplicaSync.Frame

/-! ## Bits -/

namespace Bits

/-- The bits of the first eight bytes, read backwards. Shorter byte strings are filled up in
front. -/
def firstWord (bytes : Bytes) : Bits :=
  (ofBytes (bytes.take 8) ++ List.replicate (64 - 8 * bytes.length) false).reverse

/-- Takes a number off a row that is not empty, with its highest digit in front. Digits that are
missing at the end are zero, and so many bits are then missing in the row that comes next. -/
def takeOver (next : Bits) (width : Nat) (bits : Bits) : Nat × Bits :=
  let field := bits.take width
  let missing := width - field.length
  (toNat (field ++ List.replicate missing false).reverse,
    if missing = 0 then bits.drop width else next.drop missing)

/-- Takes a number off a row, which is followed by the row of the first word. -/
def takeAround (word : Bits) (width : Nat) (bits : Bits) : Nat × Bits :=
  if width = 0 then (0, bits) else takeOver word width (if bits.isEmpty then word else bits)

end Bits

/-- Takes the number of a symbol off a row, which is followed by the row of the first word. -/
def NumberRanges.takeAround (ranges : NumberRanges) (word : Bits) (symbol : Nat) (bits : Bits) :
    Nat × Bits :=
  let (number, bits) := Bits.takeAround word (ranges.width symbol) bits
  (ranges.base symbol + number, bits)

/-! ## Carrying out -/

/-- Reads so many sequences and carries out each of them, with the literals from an index on. -/
def carryOutEach {State : Type} (next? : State → Option (Sequence × State)) (limit : Nat)
    (literals : Array UInt8) :
    (count : Nat) → State → (index : Nat) → Array UInt8 →
      Except FrameFault (State × Nat × Array UInt8)
  | 0, state, index, content => .ok (state, index, content)
  | count + 1, state, index, content =>
      match next? state with
      | none => .error .damaged
      | some (sequence, state) =>
          match sequence.carryOut limit olderMargin literals index content with
          | .error fault => .error fault
          | .ok content =>
              carryOutEach next? limit literals count state (index + sequence.literals) content

/-! ## The sixth and seventh format -/

/-- The codes for offsets. There were fewer of them. -/
def olderOffsetAlphabet : Alphabet :=
  { offsetAlphabet with ranges := ⟨1, List.range 29⟩ }

/-- Reads the code of a number. The mode tells whether it is the standard one, one for a single
symbol, the one of the block before, or one that is described. -/
def Alphabet.readOlderCode? (alphabet : Alphabet) (mode : Nat) (previous : Option StateCode)
    (bytes : Bytes) : Option (StateCode × Bytes) :=
  match mode with
  | 2 => previous.map (·, bytes)
  | 3 => if bytes.length < 4 then none else alphabet.readCode? 2 none bytes
  | mode => alphabet.readCode? mode none bytes

/-- Reads the three codes. -/
def SequenceCodes.readOlder? (modes : Nat) (previous : Option SequenceCodes) (bytes : Bytes) :
    Option (SequenceCodes × Bytes) := do
  let (literals, bytes) ←
    literalsAlphabet.readOlderCode? (modes / 64) (previous.map (·.literals)) bytes
  let (offset, bytes) ←
    olderOffsetAlphabet.readOlderCode? (modes / 16 % 4) (previous.map (·.offset)) bytes
  let (length, bytes) ←
    lengthAlphabet.readOlderCode? (modes / 4 % 4) (previous.map (·.length)) bytes
  return (⟨literals, offset, length⟩, bytes)

/-- The offset that a number stands for, and the last offsets from then on. The first two change
places if no literals were put since. -/
def RecentOffsets.resolveOlder (recent : RecentOffsets) (number literals : Nat) :
    Nat × RecentOffsets :=
  match if literals = 0 ∧ number < 3 then 3 - number else number with
  | 1 => (recent.first, recent)
  | 2 => (recent.second, ⟨recent.second, recent.first, recent.third⟩)
  | 3 => (recent.third, ⟨recent.third, recent.first, recent.second⟩)
  | _ => (number - 3, ⟨number - 3, recent.first, recent.second⟩)

/-- How far the reading of sequences has come. -/
structure LaterReading where
  recent : RecentOffsets
  /-- The states and the bits behind them, unless the bits have run out. -/
  ahead : Option (SequenceStates × Bits)

/-- Reads a sequence. -/
def LaterReading.next? (codes : SequenceCodes) (word : Bits) (reading : LaterReading) :
    Option (Sequence × LaterReading) := do
  let (states, bits) ← reading.ahead
  let offset := (codes.offset.cell states.offset).symbol
  let length := (codes.length.cell states.length).symbol
  let literals := (codes.literals.cell states.literals).symbol
  let width :=
    offsetRanges.width offset + lengthRanges.width length + literalsRanges.width literals
  let (number, rest) := offsetRanges.takeAround word offset bits
  let (length, rest) := lengthRanges.takeAround word length rest
  let (literals, rest) := literalsRanges.takeAround word literals rest
  let (offset, recent) := reading.recent.resolveOlder number literals
  let ahead := if bits.length < width then none else codes.next? states rest
  return (⟨literals, offset, length⟩, ⟨recent, ahead⟩)

/-- Reads the sequences of a block of the sixth or seventh format and carries them out, and tells
the codes and last offsets for the blocks to come. A number of sequences that takes one byte may be
zero, and then nothing else is looked at. -/
def readLater (previous : Option SequenceCodes) (recent : RecentOffsets) (limit : Nat)
    (literals content : Array UInt8) (bytes : Bytes) :
    Except FrameFault (Array UInt8 × Option SequenceCodes × RecentOffsets) :=
  match bytes, takeSequenceCount? bytes with
  | 0 :: _, _ => (putRest limit literals 0 content).map (·, previous, recent)
  | _, none => .error .sizeWrong
  | _, some (_, []) => .error .sizeWrong
  | _, some (count, modes :: rest) =>
      if rest.length < 3 then .error .sizeWrong
      else
        match SequenceCodes.readOlder? modes.toNat previous rest with
        | none => .error .damaged
        | some (codes, rest) =>
            if count = 0 then
              (putRest limit literals 0 content).map (·, previous.map fun _ => codes, recent)
            else
              match Bits.backwards? rest >>= codes.start? with
              | none => .error .damaged
              | some ahead => do
                  let (reading, index, content) ←
                    carryOutEach (LaterReading.next? codes (Bits.firstWord rest)) limit literals
                      count ⟨recent, some ahead⟩ 0 content
                  return (← putRest limit literals index content, some codes, reading.recent)

/-! ## The fourth and fifth format -/

/-- The code that knows all symbols of so many bits, with one state each. -/
def StateCode.even (log : Nat) : StateCode :=
  ⟨log, (Array.range (Nat.pow 2 log)).map fun symbol => ⟨symbol, log, 0⟩⟩

/-- How a code is given. -/
inductive CodeForm where
  /-- All symbols are equally long. -/
  | even
  /-- There is one symbol. -/
  | single
  | described
  /-- The code is the one of a dictionary. -/
  | known
  deriving DecidableEq, Repr

/-- The form that a number stands for. -/
def CodeForm.ofNumber (format : OlderFormat) (number : Nat) : CodeForm :=
  match format, number with
  | .fourth, 1 => .even
  | .fourth, 2 => .single
  | .fourth, _ => .described
  | _, 0 => .even
  | _, 1 => .single
  | _, 2 => .known
  | _, _ => .described

/-- What the code of a number could be. -/
structure EarlyAlphabet where
  /-- The number of bits of a symbol. -/
  width : Nat
  /-- The greatest power of two for the states of a code. -/
  maxLog : Nat

/-- The codes for numbers of literals. -/
def earlyLiterals : EarlyAlphabet := ⟨6, 10⟩

/-- The codes for offsets. -/
def earlyOffsets : EarlyAlphabet := ⟨5, 9⟩

/-- The codes for lengths. -/
def earlyLengths : EarlyAlphabet := ⟨7, 10⟩

/-- The greatest power of two for the states of any code. -/
def maxStatesLog : Nat := 15

/-- Reads the code of a number. -/
def EarlyAlphabet.readCode (alphabet : EarlyAlphabet) (form : CodeForm) (bytes : Bytes) :
    Except FrameFault (StateCode × Bytes) :=
  match form, bytes with
  | .even, bytes => .ok (.even alphabet.width, bytes)
  | .single, symbol :: next :: rest => .ok (.single symbol.toNat, next :: rest)
  | .single, _ => .error .sizeWrong
  | .described, bytes =>
      match Distribution.readOlder? maxStatesLog (Nat.pow 2 alphabet.width) bytes with
      | none => .error .other
      | some (distribution, rest) =>
          if alphabet.maxLog < distribution.log then .error .damaged
          else .ok (distribution.toCode, rest)
  | .known, _ => .error .damaged

/-- Reads the three codes. -/
def SequenceCodes.readEarly (format : OlderFormat) (modes : Nat) (bytes : Bytes) :
    Except FrameFault (SequenceCodes × Bytes) := do
  let (literals, bytes) ← earlyLiterals.readCode (.ofNumber format (modes / 64)) bytes
  let (offset, bytes) ← earlyOffsets.readCode (.ofNumber format (modes / 16 % 4)) bytes
  let (length, bytes) ← earlyLengths.readCode (.ofNumber format (modes / 4 % 4)) bytes
  return (⟨literals, offset, length⟩, bytes)

/-- The bytes in which numbers are continued that are too great for their symbols. They are part of
a longer byte string. -/
structure Continuations where
  bytes : Array UInt8
  /-- Where the next one begins. -/
  place : Nat
  /-- Where they end. -/
  ending : Nat

namespace Continuations

/-- A number of so many bytes from a place on. -/
def number (continuations : Continuations) (place width : Nat) : Nat :=
  Bytes.ofLittleEndian (continuations.bytes.extract place (place + width)).toList

/-- The long number at a place, and the place behind it, if there is room for one. In the fifth
format its lowest bit tells whether it has a third byte. -/
def long? (continuations : Continuations) (format : OlderFormat) (place : Nat) :
    Option (Nat × Nat) :=
  if format = .fourth then
    if place + 3 ≤ continuations.ending then some (continuations.number place 3, place + 3)
    else none
  else if place + 2 ≤ continuations.ending then
    let short := continuations.number place 2
    if short % 2 = 1 ∧ place + 2 < continuations.ending then
      some (continuations.number place 3 / 2, place + 3)
    else some (short / 2, place + 2)
  else none

/-- The number of a symbol. Only the greatest is continued: a byte is added to it, or stands before
a long number. Where the bytes have come to their end, the last one is used again. -/
def extend (continuations : Continuations) (format : OlderFormat) (greatest symbol : Nat) :
    Nat × Continuations :=
  if symbol ≠ greatest then (symbol, continuations)
  else
    let inside := continuations.place < continuations.ending
    let more := if inside then continuations.number continuations.place 1 else 0
    let place := if inside then continuations.place + 1 else continuations.place
    let (number, place) :=
      if more < 255 then (greatest + more, place)
      else (continuations.long? format place).getD (greatest, place)
    (number, { continuations with place := min place (continuations.ending - 1) })

end Continuations

/-- How far the reading of sequences has come. -/
structure EarlyReading where
  /-- The last offset. -/
  offset : Nat
  /-- The offset that is used again when no literals were put since the last one. -/
  before : Nat
  continuations : Continuations
  /-- The states and the bits behind them, unless the bits have run out. -/
  ahead : Option (SequenceStates × Bits)

/-- The offset that can be used again in the first sequence of a block. -/
def OlderFormat.firstOffset : OlderFormat → Nat
  | .fourth => 4
  | _ => 1

/-- The least offset of a symbol. Those from one on stand for powers of two, but for the last ones,
which no offset needs. -/
def leastEarlyOffset (symbol : Nat) : Nat :=
  if 26 < symbol then 1 else Nat.pow 2 (symbol - 1)

/-- The least length of a stretch. -/
def minEarlyLength : Nat := 4

/-- Reads a sequence. In the fourth format the states of literals and offsets come before the bits
of the offset, and later they come behind them. -/
def EarlyReading.next? (format : OlderFormat) (codes : SequenceCodes) (word : Bits)
    (reading : EarlyReading) : Option (Sequence × EarlyReading) := do
  let (states, bits) ← reading.ahead
  let literals := codes.literals.cell states.literals
  let offset := codes.offset.cell states.offset
  let length := codes.length.cell states.length
  let (count, continuations) := reading.continuations.extend format 63 literals.symbol
  let (size, continuations) := continuations.extend format 127 length.symbol
  let symbol := offset.symbol % 32
  let (nextLiterals, nextOffset, number, rest) :=
    if format = .fourth then
      let (nextLiterals, rest) := Bits.takeAround word literals.width bits
      let (nextOffset, rest) := Bits.takeAround word offset.width rest
      let (number, rest) := Bits.takeAround word (symbol - 1) rest
      (nextLiterals, nextOffset, number, rest)
    else
      let (number, rest) := Bits.takeAround word (symbol - 1) bits
      let (nextOffset, rest) := Bits.takeAround word offset.width rest
      let (nextLiterals, rest) := Bits.takeAround word literals.width rest
      (nextLiterals, nextOffset, number, rest)
  let (nextLength, rest) := Bits.takeAround word length.width rest
  let width := symbol - 1 + offset.width + literals.width + length.width
  let ahead :=
    if bits.length < width then none
    else some (⟨literals.base + nextLiterals, offset.base + nextOffset,
      length.base + nextLength⟩, rest)
  let again := if count = 0 then reading.before else reading.offset
  let before := if symbol ≠ 0 ∨ count = 0 then reading.offset else reading.before
  let offset := if symbol = 0 then again else leastEarlyOffset symbol + number
  return (⟨count, offset, size + minEarlyLength⟩, ⟨offset, before, continuations, ahead⟩)

/-- Reads the number of sequences. -/
def takeEarlyCount? (format : OlderFormat) (bytes : Bytes) : Option (Nat × Bytes) :=
  if format = .fourth then Bytes.takeNumber? 2 bytes
  else
    match bytes with
    | [] => none
    | first :: rest =>
        if first < 128 then some (first.toNat, rest)
        else
          (Bytes.takeNumber? 1 rest).map fun (second, rest) =>
            (256 * (first.toNat - 128) + second, rest)

/-- Where the codes of sequences are, behind the modes and the continuations: where those begin, and
how many there are. -/
def continuationsPlace (bytes : Bytes) : Nat × Nat :=
  if (bytes.headD 0).toNat / 2 % 2 = 1 then (3, Bytes.ofBigEndian ((bytes.drop 1).take 2))
  else (2, Bytes.ofBigEndian (bytes.take 2) % 512)

/-- Reads the sequences of a block of the fourth or fifth format and carries them out. In the fourth
format the bits have to be used up. -/
def readEarly (format : OlderFormat) (limit : Nat) (literals content : Array UInt8)
    (bytes : Bytes) : Except FrameFault (Array UInt8) :=
  match format, bytes, takeEarlyCount? format bytes with
  | .fifth, 0 :: _, _ => putRest limit literals 0 content
  | _, _, none => .error .sizeWrong
  | format, _, some (count, rest) =>
      let (start, size) := continuationsPlace rest
      if rest.length < start + size + 3 then .error .sizeWrong
      else do
        let modes := (rest.headD 0).toNat
        let (codes, behind) ← SequenceCodes.readEarly format modes (rest.drop (start + size))
        if format = .fifth ∧ count = 0 then putRest limit literals 0 content
        else
          match Bits.backwards? behind >>= codes.start? with
          | none => .error .damaged
          | some ahead => do
              let (reading, index, content) ←
                carryOutEach (EarlyReading.next? format codes (Bits.firstWord behind)) limit
                  literals count ⟨format.firstOffset, format.firstOffset,
                    ⟨rest.toArray, start, start + size⟩, some ahead⟩ 0 content
              if format = .fourth ∧ ¬ reading.ahead.any (·.2.isEmpty) then throw .damaged
              putRest limit literals index content

end ReplicaSync.Frame
