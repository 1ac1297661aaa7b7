import ReplicaSync.Bytes

/-!
# The rolling hash

The rolling hash is a hash of the last 48 bytes of a stream, kept up to date byte by byte.
Every byte has a mark, a word drawn from a fixed pseudo-random sequence. The hash is the
exclusive or of the marks of the bytes in the window, each rotated left by its age. When a
byte enters a full window, all marks are rotated once more, the mark of the new byte is put
in, and the mark of the oldest byte, by now rotated 48 times, is taken out.

The window is a ring of 48 cells. The next byte goes into the cell after the newest one, which is
the cell of the oldest byte when all are in use. `Window.contents` reads the bytes off the ring.
-/

set_option autoImplicit false

namespace ReplicaSync

/-- Rotation of a word to the left. -/
@[inline] def rotateLeft (word amount : UInt32) : UInt32 :=
  (word <<< amount) ||| (word >>> (32 - amount))

/-! ## Marks -/

/-- The state of the sequence of marks before its first element. -/
def markSeed : UInt64 := 0x5246535349474E31

/-- The step from one state of the sequence of marks to the next. -/
def markStep : UInt64 := 0x9E3779B97F4A7C15

/-- Scatters a state of the sequence of marks. -/
def scatter (state : UInt64) : UInt64 :=
  let once := (state ^^^ (state >>> 30)) * 0xBF58476D1CE4E5B9
  let twice := (once ^^^ (once >>> 27)) * 0x94D049BB133111EB
  twice ^^^ (twice >>> 31)

/-- The mark of a byte: the low half of the scattered state at its place in the sequence. -/
def mark (byte : UInt8) : UInt32 :=
  (scatter (markSeed + (byte.toUInt64 + 1) * markStep)).toUInt32

/-! ## The window -/

/-- The number of bytes that the rolling hash covers. -/
def windowSize : Nat := 48

/-- How far the mark of a byte has been rotated when the byte leaves the window. A word has 32 bits,
so whole turns do not count. -/
def windowRotation : UInt32 := .ofNat (windowSize % 32)

/-- The last bytes of a stream, in a ring of cells. -/
structure Window where
  cells : Vector UInt8 windowSize := .replicate windowSize 0
  /-- The cell for the next byte. -/
  next : Fin windowSize := ⟨0, by decide⟩
  /-- The number of cells in use, which are those before the next one. -/
  filled : Nat := 0

namespace Window

/-- The byte in the cell for the next one. -/
def outgoing (window : Window) : UInt8 :=
  window.cells[window.next]

/-- Puts a byte into its cell and goes on to the one after it. -/
def put (window : Window) (byte : UInt8) : Window :=
  { window with
    cells := window.cells.set window.next byte
    next := ⟨(window.next + 1) % windowSize, Nat.mod_lt _ (by decide)⟩ }

/-- The bytes in all cells, from the cell for the next byte round to the one before it. -/
def ring (window : Window) : Bytes :=
  window.cells.toList.drop window.next ++ window.cells.toList.take window.next

/-- The bytes of a window, oldest first. -/
def contents (window : Window) : Bytes :=
  window.ring.drop (windowSize - window.filled)

end Window

/-! ## The hash -/

/-- A rolling hash and the window it covers. -/
structure RollingHash where
  value : UInt32 := 0
  window : Window := {}

namespace RollingHash

/-- The hash of no bytes. -/
def fresh : RollingHash := {}

/-- The hash after one more byte. -/
def roll (hash : RollingHash) (byte : UInt8) : RollingHash :=
  let outgoing := hash.window.outgoing
  let window := hash.window.put byte
  let entered := rotateLeft hash.value 1 ^^^ mark byte
  if window.filled = windowSize then
    ⟨entered ^^^ rotateLeft (mark outgoing) windowRotation, window⟩
  else ⟨entered, { window with filled := window.filled + 1 }⟩

/-- The hash after more bytes. -/
def feed (hash : RollingHash) (bytes : Bytes) : RollingHash :=
  bytes.foldl roll hash

/-- The hash after each of some more bytes that come `every` bytes apart, in the order of the
stream, and the hash after all of them. -/
def sample (every : Nat) (bytes : Bytes) : List UInt32 × RollingHash :=
  let final := bytes.foldl
    (fun (taken, index, hash) byte =>
      let next := roll hash byte
      (if (index + 1) % every = 0 then next.value :: taken else taken, index + 1, next))
    (([] : List UInt32), 0, fresh)
  (final.1.reverse, final.2.2)

end RollingHash

end ReplicaSync
