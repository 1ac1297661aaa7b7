import ReplicaSync.Frame.Header

/-!
# Headers of older frames

Four older formats of frames are still known. The seventh has the header of today, though it may
ask for less. In the sixth a byte tells the window and the width of a size behind it, and in the
two before it a byte with the window is the whole header.
-/

set_option autoImplicit false

namespace ReplicaSync.Frame

/-- The older formats that are still known. -/
inductive OlderFormat where
  | fourth
  | fifth
  | sixth
  | seventh
  deriving DecidableEq, Repr

/-- What the header of an older frame says. -/
structure OlderHeader where
  format : OlderFormat
  /-- The greatest number of bytes of a block that is waited for. -/
  block : Nat
  /-- The size of the buffer for the content. -/
  buffer : Nat
  hasChecksum : Bool

/-- The room that there has to be behind the literals of a sequence. -/
def olderMargin : Nat := 8

/-- The header of a frame with the given window. -/
def OlderHeader.ofWindow (format : OlderFormat) (window : Nat) (hasChecksum : Bool) :
    OlderHeader :=
  let block := min window maxBlock
  ⟨format, block, window + block + 2 * olderMargin, hasChecksum⟩

/-- The bounds of the blocks of a frame of an older format. -/
def OlderHeader.bounds (header : OlderHeader) : Bounds :=
  ⟨header.block, header.buffer, true, false⟩

/-- The width of the size of the content in the sixth format. -/
def sixthSizeWidth : Nat → Nat
  | 0 => 0
  | 1 => 1
  | 2 => 2
  | _ => 8

/-- The window of a header of the seventh format, of which 32 bits are used. -/
def Header.olderWindow (header : Header) : Nat :=
  header.window % UInt32.size

/-- The greatest exponent of a window in the seventh format. -/
def maxOlderWindowLog : Nat := 27

/-- Why a header of the seventh format is refused. -/
def Header.olderFault? (header : Header) : Option FrameFault :=
  if header.isReserved then some .unsupported
  else if maxOlderWindowLog < header.windowLog ∨ maxWindow ≤ header.olderWindow then
    some .unsupported
  else if header.dictionary ≠ 0 then some .dictionary
  else none

/-- The least window of the seventh format. -/
def minOlderWindow : Nat := 1024

/-- Reads the header of a frame of an older format. -/
def readOlderHeader (format : OlderFormat) (bytes : Bytes) :
    Except FrameFault (OlderHeader × Bytes) :=
  match format, bytes with
  | _, [] => .error .incomplete
  | .seventh, bytes =>
      match readHeader? bytes with
      | none => .error .incomplete
      | some (header, rest) =>
          match header.olderFault? with
          | some fault => .error fault
          | none =>
              .ok (.ofWindow .seventh (max minOlderWindow header.olderWindow) header.hasChecksum,
                rest)
  | .sixth, first :: rest =>
      match Bytes.takeField? (sixthSizeWidth (first.toNat / 64)) rest with
      | none => .error .incomplete
      | some (_, rest) =>
          if first.toNat / 32 % 2 = 1 then .error .unsupported
          else .ok (.ofWindow .sixth (Nat.pow 2 (first.toNat % 16 + 12)) false, rest)
  | format, first :: rest =>
      if 16 ≤ first.toNat then .error .unsupported
      else .ok (⟨format, maxBlock, Nat.pow 2 (first.toNat + 11), false⟩, rest)

/-- Reading a header of an older format leaves less than there was. -/
theorem length_of_readOlderHeader {format : OlderFormat} {header : OlderHeader} {bytes rest : Bytes}
    (read : readOlderHeader format bytes = .ok (header, rest)) : rest.length < bytes.length := by
  unfold readOlderHeader at read
  split at read
  · cases read
  · split at read
    · cases read
    · rename_i found
      split at read
      · cases read
      · obtain ⟨_, rfl⟩ := Prod.mk.inj (Except.ok.inj read)
        exact length_of_readHeader? found
  · split at read
    · cases read
    · rename_i taken
      split at read
      · cases read
      · obtain ⟨_, rfl⟩ := Prod.mk.inj (Except.ok.inj read)
        have := Bytes.length_of_takeField? taken
        simp only [List.length_cons]
        omega
  · split at read
    · cases read
    · obtain ⟨_, rfl⟩ := Prod.mk.inj (Except.ok.inj read)
      exact Nat.lt_succ_self _

end ReplicaSync.Frame
