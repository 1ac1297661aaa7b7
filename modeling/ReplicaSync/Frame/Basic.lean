import ReplicaSync.Frame.Older.Basic

/-!
# Frames of compressed bytes

A compressed byte string is one frame or several in a row. A frame begins with a mark of four
bytes and a header, blocks follow, and a checksum may end it. Between frames there may be
skippable ones, which hold nothing for the reader.

`store` writes a frame that holds all bytes as they are, and `readAll_store` says that they are
read back.
-/

set_option autoImplicit false

namespace ReplicaSync.Frame

/-- The bytes that a frame begins with. -/
def mark : Bytes := [0x28, 0xb5, 0x2f, 0xfd]

/-- What a frame is, by the bytes that it begins with. -/
inductive Opening where
  | blocks
  | skippable
  /-- A frame of an older format that is still known. -/
  | older (format : OlderFormat)
  /-- A frame of an older format that is not read any more. -/
  | retired
  | unknown

/-- What a frame is, by its first four bytes. -/
def Opening.ofMark : Bytes → Opening
  | [0x28, 0xb5, 0x2f, 0xfd] => .blocks
  | [first, 0x2a, 0x4d, 0x18] => if first.toNat / 16 = 5 then .skippable else .unknown
  | [0x27, 0xb5, 0x2f, 0xfd] => .older .seventh
  | [0x26, 0xb5, 0x2f, 0xfd] => .older .sixth
  | [0x25, 0xb5, 0x2f, 0xfd] => .older .fifth
  | [0x24, 0xb5, 0x2f, 0xfd] => .older .fourth
  | [0x23, 0xb5, 0x2f, 0xfd] => .retired
  | [0x22, 0xb5, 0x2f, 0xfd] => .retired
  | [0xfd, 0x2f, 0xb5, 0x1e] => .retired
  | _ => .unknown

/-- Whether a frame or a skippable one may begin so. -/
def mayOpen (bytes : Bytes) : Bool :=
  bytes.isPrefixOf mark ||
    match bytes with
    | [] => true
    | first :: rest => first.toNat / 16 == 5 && rest.isPrefixOf [0x2a, 0x4d, 0x18]

/-- The greatest number of bytes that a short frame stands for. -/
def maxShort : Nat := 8192

/-- Whether a frame is short and all of it is at hand behind the header. -/
def Header.isAtHand (header : Header) (bytes : Bytes) : Bool :=
  header.contentSize.any (· ≤ maxShort) &&
    ((passBlocks? bytes).bind (Bytes.takeField? (if header.hasChecksum then 4 else 0))).isSome

/-- The bounds of the blocks behind a header. A frame that is read at once goes where a short
content has room. Otherwise the buffer has room for the window and two blocks, and some spare
bytes, or for the whole content if that takes less. -/
def Header.bounds (header : Header) (atOnce : Bool) : Bounds :=
  let block := min header.window maxBlock
  let enough := header.window + 2 * block + 64
  if atOnce then ⟨block, maxShort, false, true⟩
  else
    match header.contentSize with
    | none => ⟨block, enough, true, false⟩
    | some size => ⟨block, min size enough, enough < size, false⟩

/-- Reads the checksum of a content, if there is one. -/
def readChecksum (present : Bool) (content bytes : Bytes) : Except FrameFault (Bytes × Bytes) :=
  if present then
    match Bytes.takeNumber? 4 bytes with
    | none => .error .incomplete
    | some (number, rest) =>
        if number = Checksum.lowerHalf content then .ok (content, rest) else .error .checksum
  else .ok (content, bytes)

/-- Reads the frame behind a mark: a header, blocks, and a checksum. The size of the content is
looked at behind a block, so a frame that is not read at once and ends with an empty block may
have stated another. -/
def readBody (bytes : Bytes) : Except FrameFault (Bytes × Bytes) :=
  match readHeader? bytes with
  | none => .error .incomplete
  | some (header, rest) =>
      let atOnce := header.isAtHand rest
      match header.fault? with
      | some fault => .error fault
      | none =>
          if !atOnce && maxWindow < header.window then .error .tooLarge
          else
            match readBlocks (header.bounds atOnce) {} rest with
            | .error fault => .error fault
            | .ok (progress, rest) =>
                let misstated := header.contentSize.any (· != progress.content.size)
                if misstated && (atOnce || !progress.paused) then .error .damaged
                else readChecksum header.hasChecksum progress.content.toList rest

/-- Reads the frame behind a skippable mark: a size, and so many bytes. -/
def skipBody (bytes : Bytes) : Except FrameFault (Bytes × Bytes) :=
  match Bytes.takeNumber? 4 bytes with
  | none => .error .incomplete
  | some (size, rest) =>
      match Bytes.takeField? size rest with
      | none => .error .incomplete
      | some (_, rest) => .ok ([], rest)

/-- Reads the frame that a byte string begins with. Before there are five bytes the older
formats are not considered. -/
def readFrame (bytes : Bytes) : Except FrameFault (Bytes × Bytes) :=
  if bytes.length < 5 then
    if mayOpen (bytes.take 4) then .error .incomplete else .error .unknown
  else
    match Opening.ofMark (bytes.take 4) with
    | .blocks => readBody (bytes.drop 4)
    | .skippable => skipBody (bytes.drop 4)
    | .older format => readOlder format (bytes.drop 4)
    | .retired => .error .retired
    | .unknown => .error .unknown

theorem length_of_readChecksum {present : Bool} {content bytes read rest : Bytes}
    (found : readChecksum present content bytes = .ok (read, rest)) :
    rest.length ≤ bytes.length := by
  unfold readChecksum at found
  split at found
  · split at found
    · cases found
    · rename_i taken
      split at found
      · cases found
        have := Bytes.length_of_takeNumber? taken
        omega
      · cases found
  · cases found
    exact Nat.le_refl _

theorem length_of_readBody {bytes content rest : Bytes}
    (read : readBody bytes = .ok (content, rest)) : rest.length ≤ bytes.length := by
  unfold readBody at read
  split at read
  · cases read
  · rename_i header
    simp only at read
    split at read
    · cases read
    · split at read
      · cases read
      · split at read
        · cases read
        · rename_i blocks
          split at read
          · cases read
          · have := length_of_readHeader? header
            have := length_of_readBlocks blocks
            have := length_of_readChecksum read
            omega

theorem length_of_skipBody {bytes content rest : Bytes}
    (read : skipBody bytes = .ok (content, rest)) : rest.length ≤ bytes.length := by
  unfold skipBody at read
  split at read
  · cases read
  · rename_i size
    split at read
    · cases read
    · rename_i skipped
      cases read
      have := Bytes.length_of_takeNumber? size
      have := Bytes.length_of_takeField? skipped
      omega

/-- Reading a frame leaves less than there was. -/
theorem length_of_readFrame {bytes content rest : Bytes}
    (read : readFrame bytes = .ok (content, rest)) : rest.length < bytes.length := by
  unfold readFrame at read
  split at read
  · split at read <;> cases read
  · have dropped : (bytes.drop 4).length < bytes.length := by
      rw [List.length_drop]
      omega
    split at read
    · exact Nat.lt_of_le_of_lt (length_of_readBody read) dropped
    · exact Nat.lt_of_le_of_lt (length_of_skipBody read) dropped
    · exact Nat.lt_of_le_of_lt (length_of_readOlder read) dropped
    all_goals cases read

/-- Reads frames to the end, one at least. -/
def readAll (bytes : Bytes) : Except FrameFault Bytes :=
  match read : readFrame bytes with
  | .error fault => .error fault
  | .ok (content, []) => .ok content
  | .ok (content, next :: rest) =>
      have := length_of_readFrame read
      match readAll (next :: rest) with
      | .error fault => .error fault
      | .ok more => .ok (content ++ more)
termination_by bytes.length

/-! ## Storing -/

/-- A frame that holds a payload as it is: the mark, a header without any sizes but a window of
two mebibytes, and blocks. -/
def store (payload : Bytes) : Bytes :=
  mark ++ (0x00 :: 0x58 :: storeBlocks payload)

/-- A frame that holds a payload as it is is read back. -/
theorem readFrame_store (payload rest : Bytes) :
    readFrame (store payload ++ rest) = .ok (payload, rest) := by
  have long : ¬ (store payload ++ rest).length < 5 := by
    simp only [store, mark, List.cons_append, List.nil_append, List.length_cons]
    omega
  rw [readFrame, if_neg long]
  show readBody (0x00 :: 0x58 :: (storeBlocks payload ++ rest)) = _
  have bounds : storedHeader.bounds false = ⟨maxBlock, 2359360, true, false⟩ := rfl
  obtain ⟨after, read, content⟩ := readBlocks_storeBlocks
    ⟨maxBlock, 2359360, true, false⟩ rfl rfl {} payload rest (by decide)
  have sound : storedHeader.fault? = none := by decide
  have open_ended : storedHeader.isAtHand (storeBlocks payload ++ rest) = false := rfl
  have small : ¬ maxWindow < storedHeader.window := by decide
  simp only [readBody, readHeader?_stored, open_ended, sound, Bool.not_false, Bool.true_and, small,
    decide_false, Bool.false_eq_true, if_false, bounds, read]
  simp [storedHeader, readChecksum, content]

/-- Storing loses nothing. -/
theorem readAll_store (payload : Bytes) : readAll (store payload) = .ok payload := by
  have read := readFrame_store payload []
  rw [List.append_nil] at read
  unfold readAll
  split <;> simp_all

end ReplicaSync.Frame
