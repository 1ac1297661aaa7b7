import ReplicaSync.Fault
import ReplicaSync.Frame.StateCode

/-!
# Sequences of a block

Behind its literals a coded block has sequences. A sequence puts some literals at the end of the
content and then repeats a stretch of the content, which begins at some offset back from the end.
What is left of the literals follows the last sequence.

The lengths and offsets are numbers of any size. A symbol tells a range of numbers, and bits tell
the number in it. The symbols of the three numbers have codes with states of their own, which the
blocks behind may use again, and the last offsets are remembered, since the next one is often one
of them.
-/

set_option autoImplicit false

namespace ReplicaSync.Frame

/-- A part of a block. -/
structure Sequence where
  /-- How many literals are put first. -/
  literals : Nat
  /-- How far back the stretch that is repeated begins. -/
  offset : Nat
  /-- How long that stretch is. -/
  length : Nat

/-! ## Numbers -/

/-- The numbers that symbols stand for: the least of all, and for each symbol how many bits
tell the number. The range of a symbol begins where that of the symbol before ends. -/
structure NumberRanges where
  least : Nat
  widths : List Nat

/-- The least number of a symbol. -/
def NumberRanges.base (ranges : NumberRanges) (symbol : Nat) : Nat :=
  (ranges.widths.take symbol).foldl (fun sum width => sum + Nat.pow 2 width) ranges.least

/-- How many bits tell the number of a symbol. -/
def NumberRanges.width (ranges : NumberRanges) (symbol : Nat) : Nat :=
  ranges.widths.getD symbol 0

/-- Takes the number of a symbol. -/
def NumberRanges.take? (ranges : NumberRanges) (symbol : Nat) (bits : Bits) : Option (Nat × Bits) :=
  (Bits.takeHighFirst? (ranges.width symbol) bits).map fun (number, bits) =>
    (ranges.base symbol + number, bits)

/-- The numbers of literals. -/
def literalsRanges : NumberRanges :=
  ⟨0, List.replicate 16 0 ++ [1, 1, 1, 1, 2, 2, 3, 3, 4, 6, 7, 8, 9, 10, 11, 12, 13, 14, 15, 16]⟩

/-- The lengths of stretches. -/
def lengthRanges : NumberRanges :=
  ⟨3, List.replicate 32 0 ++ [1, 1, 1, 1, 2, 2, 3, 3, 4, 4, 5, 7, 8, 9, 10, 11, 12, 13, 14, 15, 16]⟩

/-- What stands for offsets. -/
def offsetRanges : NumberRanges :=
  ⟨1, List.range 32⟩

/-! ## Codes -/

/-- What the code of one of the three numbers can be. -/
structure Alphabet where
  ranges : NumberRanges
  /-- The greatest power of two for the states of a code. -/
  maxLog : Nat
  /-- The distribution that need not be described. -/
  standard : Distribution

/-- So many symbols with one state, and then rare ones. -/
def onesAndRare (ones rare : Nat) : List (Option Nat) :=
  List.replicate ones (some 1) ++ List.replicate rare none

/-- The codes for numbers of literals. -/
def literalsAlphabet : Alphabet where
  ranges := literalsRanges
  maxLog := 9
  standard := ⟨6, [some 4, some 3] ++ List.replicate 11 (some 2) ++ onesAndRare 3 0 ++
    List.replicate 9 (some 2) ++ [some 3, some 2] ++ onesAndRare 5 4⟩

/-- The codes for offsets. -/
def offsetAlphabet : Alphabet where
  ranges := offsetRanges
  maxLog := 8
  standard := ⟨5, onesAndRare 6 0 ++ List.replicate 3 (some 2) ++ onesAndRare 15 5⟩

/-- The codes for lengths. -/
def lengthAlphabet : Alphabet where
  ranges := lengthRanges
  maxLog := 9
  standard := ⟨6, [some 1, some 4, some 3] ++ List.replicate 6 (some 2) ++ onesAndRare 37 7⟩

/-- Reads the code of a number. The mode tells whether it is the standard one, one for a single
symbol, one that is described, or the one of the block before. -/
def Alphabet.readCode? (alphabet : Alphabet) (mode : Nat) (previous : Option StateCode)
    (bytes : Bytes) : Option (StateCode × Bytes) :=
  match mode with
  | 0 => some (alphabet.standard.toCode, bytes)
  | 1 => do
      let (symbol, rest) ← Bytes.takeNumber? 1 bytes
      if symbol < alphabet.ranges.widths.length then some (.single symbol, rest) else none
  | 2 => do
      let (distribution, rest) ←
        Distribution.read? alphabet.maxLog alphabet.ranges.widths.length bytes
      return (distribution.toCode, rest)
  | _ => previous.map (·, bytes)

/-- The codes of the three numbers. -/
structure SequenceCodes where
  literals : StateCode
  offset : StateCode
  length : StateCode

/-- The states of the three codes. -/
structure SequenceStates where
  literals : Nat
  offset : Nat
  length : Nat

namespace SequenceCodes

/-- Reads the three codes. -/
def read? (modes : Nat) (previous : Option SequenceCodes) (bytes : Bytes) :
    Option (SequenceCodes × Bytes) := do
  let (literals, bytes) ←
    literalsAlphabet.readCode? (modes / 64) (previous.map (·.literals)) bytes
  let (offset, bytes) ← offsetAlphabet.readCode? (modes / 16 % 4) (previous.map (·.offset)) bytes
  let (length, bytes) ← lengthAlphabet.readCode? (modes / 4 % 4) (previous.map (·.length)) bytes
  return (⟨literals, offset, length⟩, bytes)

/-- Reads the first states. -/
def start? (codes : SequenceCodes) (bits : Bits) : Option (SequenceStates × Bits) := do
  let (literals, bits) ← codes.literals.start? bits
  let (offset, bits) ← codes.offset.start? bits
  let (length, bits) ← codes.length.start? bits
  return (⟨literals, offset, length⟩, bits)

/-- Goes on to the next states. -/
def next? (codes : SequenceCodes) (states : SequenceStates) (bits : Bits) :
    Option (SequenceStates × Bits) := do
  let (literals, bits) ← codes.literals.next? states.literals bits
  let (length, bits) ← codes.length.next? states.length bits
  let (offset, bits) ← codes.offset.next? states.offset bits
  return (⟨literals, offset, length⟩, bits)

end SequenceCodes

/-! ## Offsets -/

/-- The last three offsets, newest first. -/
structure RecentOffsets where
  first : Nat := 1
  second : Nat := 4
  third : Nat := 8

/-- The offset that a number stands for, and the last offsets from then on. From four on it is
three more than an offset. The others refer to the last offsets, and to those behind the first if
no literals were put since. -/
def RecentOffsets.resolve (recent : RecentOffsets) (number literals : Nat) :
    Nat × RecentOffsets :=
  if 3 < number then (number - 3, ⟨number - 3, recent.first, recent.second⟩)
  else
    match if literals = 0 then number + 1 else number with
    | 1 => (recent.first, recent)
    | 2 => (recent.second, ⟨recent.second, recent.first, recent.third⟩)
    | 3 => (recent.third, ⟨recent.third, recent.first, recent.second⟩)
    | _ => (recent.first - 1, ⟨recent.first - 1, recent.first, recent.second⟩)

/-! ## Reading sequences -/

/-- Reads so many sequences behind others, which come newest first. The bits have to be used up,
and no state follows the last sequence. -/
def takeSequences? (codes : SequenceCodes) : (count : Nat) → SequenceStates → RecentOffsets → Bits →
    List Sequence → Option (List Sequence × RecentOffsets)
  | 0, _, recent, bits, taken => if bits.isEmpty then some (taken.reverse, recent) else none
  | count + 1, states, recent, bits, taken => do
      let (number, bits) ← offsetRanges.take? (codes.offset.cell states.offset).symbol bits
      let (length, bits) ← lengthRanges.take? (codes.length.cell states.length).symbol bits
      let (literals, bits) ← literalsRanges.take? (codes.literals.cell states.literals).symbol bits
      let (offset, recent) := recent.resolve number literals
      let taken := ⟨literals, offset, length⟩ :: taken
      let (states, bits) ← if count = 0 then some (states, bits) else codes.next? states bits
      takeSequences? codes count states recent bits taken

/-- Reads the number of sequences. The first byte tells how many bytes it takes. -/
def takeSequenceCount? (bytes : Bytes) : Option (Nat × Bytes) := do
  let (first, rest) ← Bytes.takeNumber? 1 bytes
  if first < 128 then return (first, rest)
  else if first < 255 then
    let (second, rest) ← Bytes.takeNumber? 1 rest
    return (256 * (first - 128) + second, rest)
  else
    let (number, rest) ← Bytes.takeNumber? 2 rest
    return (number + 32512, rest)

/-- Reads the sequences of a block, with the codes and last offsets for the blocks to come. -/
def readSequences (previous : Option SequenceCodes) (recent : RecentOffsets) (bytes : Bytes) :
    Except FrameFault (List Sequence × Option SequenceCodes × RecentOffsets) :=
  match takeSequenceCount? bytes with
  | none => .error .sizeWrong
  | some (0, []) => .ok ([], previous, recent)
  | some (0, _ :: _) => .error .damaged
  | some (_ + 1, []) => .error .sizeWrong
  | some (count + 1, modes :: rest) =>
      if modes.toNat % 4 ≠ 0 then .error .damaged
      else
        let read := do
          let (codes, rest) ← SequenceCodes.read? modes.toNat previous rest
          let bits ← Bits.backwards? rest
          let (states, bits) ← codes.start? bits
          let (sequences, recent) ← takeSequences? codes (count + 1) states recent bits []
          return (sequences, some codes, recent)
        match read with
        | none => .error .damaged
        | some result => .ok result

/-! ## Carrying out sequences -/

/-- Repeats a stretch of so many bytes from a distance, byte by byte, so that it may run into
itself. -/
def repeatStretch (offset : Nat) : (length : Nat) → Array UInt8 → Array UInt8
  | 0, content => content
  | length + 1, content =>
      repeatStretch offset length (content.push (content.getD (content.size - offset) 0))

/-- Carries out one sequence behind some content, with the literals from an index on. The content
may not grow beyond a size, and behind the literals there has to be some room. -/
def Sequence.carryOut (limit margin : Nat) (literals : Array UInt8) (sequence : Sequence)
    (index : Nat) (content : Array UInt8) : Except FrameFault (Array UInt8) :=
  if limit < content.size + sequence.literals + max sequence.length margin then .error .noRoom
  else if literals.size < index + sequence.literals then .error .damaged
  else
    let content := content ++ literals.extract index (index + sequence.literals)
    if sequence.offset = 0 ∨ content.size < sequence.offset then .error .damaged
    else .ok (repeatStretch sequence.offset sequence.length content)

/-- Puts what is left of the literals, from an index on. -/
def putRest (limit : Nat) (literals : Array UInt8) (index : Nat) (content : Array UInt8) :
    Except FrameFault (Array UInt8) :=
  if limit < content.size + (literals.size - index) then .error .noRoom
  else .ok (content ++ literals.extract index literals.size)

/-- Carries out sequences one after the other, and puts what is left of the literals. -/
def carryOut (limit : Nat) (literals : Array UInt8) :
    List Sequence → (index : Nat) → Array UInt8 → Except FrameFault (Array UInt8)
  | [], index, content => putRest limit literals index content
  | sequence :: rest, index, content =>
      match sequence.carryOut limit 0 literals index content with
      | .error fault => .error fault
      | .ok content => carryOut limit literals rest (index + sequence.literals) content

end ReplicaSync.Frame
