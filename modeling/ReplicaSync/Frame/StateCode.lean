import ReplicaSync.Frame.Bits

/-!
# Codes with states

A code with states has a power of two of them, and each state stands for a symbol. Reading a
symbol off the state, one takes as many bits as the state says and comes to the next state. The
more states a symbol has, the fewer bits it takes.

Such a code is made from a distribution, which tells how many states each symbol has. A rare
symbol has one state and takes all the bits there are. Distributions are written down in few bits:
the less is left to distribute, the fewer bits the next number takes.
-/

set_option autoImplicit false

namespace ReplicaSync.Frame

/-- How many states the symbols of a code have. -/
structure Distribution where
  /-- The number of states is two to this power. -/
  log : Nat
  /-- The number of states of each symbol, or nothing where the symbol is rare. -/
  counts : List (Option Nat)

/-- What one state of a code says: a symbol, how many bits lead on, and the state that they are
added to. -/
structure StateCell where
  symbol : Nat
  width : Nat
  base : Nat
  deriving Inhabited

/-- A code with states. -/
structure StateCode where
  log : Nat
  cells : Array StateCell

namespace Distribution

/-! ## Reading -/

/-- Reads how many symbols have no states, after one that has none. Every two bits count up to
three of them, and go on when they count three. -/
def takeGap? : Bits → Option (Nat × Bits)
  | true :: true :: rest => (takeGap? rest).map fun (gap, rest) => (gap + 3, rest)
  | low :: high :: rest => some (low.toNat + 2 * high.toNat, rest)
  | _ => none

/-- Reads a number that is at most `greatest`. The small ones take a bit less. -/
def takeAtMost? (greatest : Nat) (bits : Bits) : Option (Nat × Bits) := do
  let width := greatest.log2
  let threshold := Nat.pow 2 width
  let short := 2 * threshold - 1 - greatest
  let (low, rest) ← Bits.takeLowFirst? width bits
  if low < short then return (low, rest)
  else
    let (top, rest) ← Bits.takeLowFirst? 1 rest
    return (if top = 0 then low else low + threshold - short, rest)

/-- Reads the counts of at most so many symbols, the first of which are in a gap, when one less
than `left` states are to be given away. -/
def readCounts : (symbols gap left : Nat) → Bits → Option (List (Option Nat) × Bits)
  | symbols + 1, gap + 1, left, bits => do
      let (counts, bits) ← readCounts symbols gap left bits
      return (some 0 :: counts, bits)
  | _, 0, 1, bits => some ([], bits)
  | symbols + 1, 0, left, bits => do
      let (number, bits) ← takeAtMost? left bits
      match number with
      | 0 =>
          let (counts, bits) ← readCounts symbols 0 (left - 1) bits
          return (none :: counts, bits)
      | 1 =>
          let (gap, bits) ← takeGap? bits
          let (counts, bits) ← readCounts symbols gap left bits
          return (some 0 :: counts, bits)
      | count + 1 =>
          let (counts, bits) ← readCounts symbols 0 (left - count) bits
          return (some count :: counts, bits)
  | 0, _, _, _ => none

/-- Reads a distribution over at most so many symbols, and leaves the bytes behind it. -/
def read? (maxLog symbols : Nat) (bytes : Bytes) : Option (Distribution × Bytes) := do
  let (number, bits) ← Bits.takeLowFirst? 4 (Bits.ofBytes bytes)
  let log := number + 5
  if maxLog < log then none
  else
    let (counts, rest) ← readCounts symbols 0 (Nat.pow 2 log + 1) bits
    return (⟨log, counts⟩, bytes.drop (bytes.length - rest.length / 8))

/-! ## Codes -/

/-- The symbols of the states. Rare symbols have the last states, the first of them the very last.
The states of the others are spread over the rest in even steps. -/
def symbols (distribution : Distribution) : Array Nat :=
  let size := Nat.pow 2 distribution.log
  let numbered := distribution.counts.zipIdx
  let rare := numbered.filterMap fun (count, symbol) => if count.isNone then some symbol else none
  let others := numbered.flatMap fun (count, symbol) => List.replicate (count.getD 0) symbol
  let places := (List.range size).map fun index => index * (size / 2 + size / 8 + 3) % size
  let free := places.filter (· < size - rare.length)
  let last := (List.range rare.length).map fun index => size - 1 - index
  (free.zip others ++ last.zip rare).foldl
    (fun symbols (place, symbol) => symbols.setIfInBounds place symbol) (Array.replicate size 0)

/-- The code of a distribution. The states of a symbol share all states among them as evenly as
powers of two allow, the first ones getting more. -/
def toCode (distribution : Distribution) : StateCode :=
  let size := Nat.pow 2 distribution.log
  let counts := (distribution.counts.map (·.getD 1)).toArray
  let step (made : Array StateCell × Array Nat) (symbol : Nat) : Array StateCell × Array Nat :=
    let share := made.2.getD symbol 1
    let width := distribution.log - share.log2
    (made.1.push ⟨symbol, width, share * Nat.pow 2 width - size⟩,
      made.2.setIfInBounds symbol (share + 1))
  ⟨distribution.log, (distribution.symbols.foldl step (#[], counts)).1⟩

end Distribution

namespace StateCode

/-- The code that knows one symbol only. -/
def single (symbol : Nat) : StateCode :=
  ⟨0, #[⟨symbol, 0, 0⟩]⟩

/-- What a state says. -/
def cell (code : StateCode) (state : Nat) : StateCell :=
  code.cells.getD state default

/-- Reads the first state. -/
def start? (code : StateCode) (bits : Bits) : Option (Nat × Bits) :=
  Bits.takeHighFirst? code.log bits

/-- Goes on from a state to the next. -/
def next? (code : StateCode) (state : Nat) (bits : Bits) : Option (Nat × Bits) := do
  let cell := code.cell state
  let (number, bits) ← Bits.takeHighFirst? cell.width bits
  return (cell.base + number, bits)

/-- Reads symbols with two states in turn, in front of which others were read, newest first, until
the bits run out. Then the state whose turn is next has the last symbol. -/
def takeTurns (code : StateCode) : (room first second : Nat) → Bits → List Nat → Option (List Nat)
  | room + 1, first, second, bits, taken =>
      let taken := (code.cell first).symbol :: taken
      match code.next? first bits with
      | none => some ((code.cell second).symbol :: taken).reverse
      | some (next, bits) => code.takeTurns room second next bits taken
  | 0, _, _, _, _ => none

/-- Reads at most so many symbols from bytes with two states in turn. -/
def readTurns? (code : StateCode) (room : Nat) (bytes : Bytes) : Option (List Nat) := do
  let bits ← Bits.backwards? bytes
  let (first, bits) ← code.start? bits
  let (second, bits) ← code.start? bits
  code.takeTurns (room - 1) first second bits []

end StateCode

end ReplicaSync.Frame
