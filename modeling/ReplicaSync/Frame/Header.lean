import ReplicaSync.Frame.Block

/-!
# Headers of frames

The header of a frame says how much memory its blocks need and, if it likes, how many bytes they
stand for. It is refused when it asks for what nobody can give, or for a dictionary, since the
reader has none.
-/

set_option autoImplicit false

namespace ReplicaSync.Frame

/-- What the header of a frame says of its blocks. -/
structure Header where
  /-- Whether it asks for something that is not in use. -/
  isReserved : Bool
  /-- The exponent that it asks for a window with. -/
  windowLog : Nat
  /-- How far back a block may refer. -/
  window : Nat
  /-- The number of a dictionary, or zero. -/
  dictionary : Nat
  /-- The number of bytes that the blocks stand for, if the header tells. -/
  contentSize : Option Nat
  /-- Whether a checksum of four bytes follows the blocks. -/
  hasChecksum : Bool
  deriving DecidableEq, Repr

/-- The greatest exponent of a window. -/
def maxWindowLog : Nat := 31

/-- The greatest window that is taken. -/
def maxWindow : Nat := 134217729

/-- The width of a dictionary's number. -/
def dictionaryWidth : Nat → Nat
  | 0 => 0
  | 1 => 1
  | 2 => 2
  | _ => 4

/-- The width of the size of the content. A frame in a single segment always has one. -/
def sizeWidth (single : Bool) : Nat → Nat
  | 0 => if single then 1 else 0
  | 1 => 2
  | 2 => 4
  | _ => 8

/-- The size of the content, from a field of the given width. -/
def contentSize? (width field : Nat) : Option Nat :=
  match width with
  | 0 => none
  | 2 => some (field + 256)
  | _ => some field

/-- The size of a window: a power of two and some eighths of it. -/
def windowSize (field : Nat) : Nat :=
  let whole := Nat.pow 2 (field / 8 + 10)
  whole + whole / 8 * (field % 8)

/-- Reads the fields of a header: the window, unless the content is in a single segment, the
number of a dictionary, and the size of the content. -/
def readFields (descriptor : Nat) (single : Bool) (bytes : Bytes) :
    Option ((Nat × Nat × Option Nat) × Bytes) := do
  let (window, bytes) ← Bytes.takeNumber? (if single then 0 else 1) bytes
  let (dictionary, bytes) ← Bytes.takeNumber? (dictionaryWidth (descriptor % 4)) bytes
  let width := sizeWidth single (descriptor / 64)
  let (size, bytes) ← Bytes.takeNumber? width bytes
  return ((window, dictionary, contentSize? width size), bytes)

/-- Reads a header, if there is a whole one. Its first byte says which fields follow. -/
def readHeader? : Bytes → Option (Header × Bytes)
  | [] => none
  | first :: bytes => do
      let descriptor := first.toNat
      let single := descriptor / 32 % 2 == 1
      let ((field, dictionary, contentSize), rest) ← readFields descriptor single bytes
      let window := if single then contentSize.getD 0 else windowSize field
      return (⟨descriptor / 8 % 2 == 1, field / 8 + 10, window, dictionary, contentSize,
        descriptor / 4 % 2 == 1⟩, rest)

/-- Why a header is refused. -/
def Header.fault? (header : Header) : Option FrameFault :=
  if header.isReserved then some .unsupported
  else if maxWindowLog < header.windowLog then some .tooLarge
  else if header.dictionary ≠ 0 then some .dictionary
  else none

/-- Reading a header leaves less than there was. -/
theorem length_of_readHeader? {bytes rest : Bytes} {header : Header}
    (read : readHeader? bytes = some (header, rest)) : rest.length < bytes.length := by
  cases bytes with
  | nil => cases read
  | cons first bytes =>
      simp only [readHeader?, readFields, Option.bind_eq_bind, Option.pure_def,
        Option.bind_eq_some_iff, Prod.exists, Option.some.injEq, Prod.mk.injEq] at read
      obtain ⟨_, _, _, _, ⟨_, _, one, _, _, two, _, _, three, _, rfl⟩, _, rfl⟩ := read
      have := Bytes.length_of_takeNumber? one
      have := Bytes.length_of_takeNumber? two
      have := Bytes.length_of_takeNumber? three
      simp only [List.length_cons]
      omega

/-- The header of a stored frame: no sizes, and a window of two mebibytes. -/
def storedHeader : Header := ⟨false, 21, 2097152, 0, none, false⟩

/-- The window of a stored frame. -/
theorem windowSize_stored : windowSize 88 = storedHeader.window := by decide

/-- The fields of a stored frame: a window, and nothing else. -/
theorem readFields_stored (bytes : Bytes) :
    readFields 0 false (0x58 :: bytes) = some ((88, 0, none), bytes) := by
  simp [readFields, Bytes.takeNumber?, Bytes.takeField?, Bytes.ofLittleEndian, dictionaryWidth,
    sizeWidth, contentSize?]

/-- The header of a stored frame is read back. -/
theorem readHeader?_stored (bytes : Bytes) :
    readHeader? (0x00 :: 0x58 :: bytes) = some (storedHeader, bytes) := by
  have single : ((0x00 : UInt8).toNat / 32 % 2 == 1) = false := by decide
  simp only [readHeader?, single]
  rw [show (0x00 : UInt8).toNat = 0 from rfl, readFields_stored]
  simp only [Option.bind_eq_bind, Option.bind_some, Option.pure_def, windowSize_stored]
  rfl

end ReplicaSync.Frame
