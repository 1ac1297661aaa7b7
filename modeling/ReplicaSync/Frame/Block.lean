import ReplicaSync.Frame.Literals
import ReplicaSync.Frame.Sequences

/-!
# Blocks of a frame

A frame of compressed bytes holds blocks, and the last one says so. A block holds its bytes as
they are, or one byte that stands for many, or it is coded: it has literals, and sequences that
repeat what the frame already stands for. The blocks share a content and what coded blocks leave
for those behind them.

The content goes into a buffer, from which it is taken away block by block. A buffer that is not
meant for the whole content is used again from its start when it might not have room for one more
block. When a frame is short and all of it is at hand, it is read at once, with other bounds.

`readBlocks_storeBlocks` says that bytes which were stored in blocks as they are come back.
-/

set_option autoImplicit false

namespace ReplicaSync.Frame

/-- Where a result was mapped, there was one. -/
theorem of_map_eq_ok {ε α β : Type} {result : Except ε α} {f : α → β} {value : β}
    (mapped : result.map f = .ok value) : ∃ found, result = .ok found ∧ f found = value := by
  cases result with
  | error fault => cases mapped
  | ok found => exact ⟨found, rfl, Except.ok.inj mapped⟩

/-! ## The content of a frame -/

/-- The bounds of the blocks of a frame. -/
structure Bounds where
  /-- The greatest number of bytes that a block may have or stand for. -/
  block : Nat
  /-- The size of the buffer. -/
  buffer : Nat
  /-- Whether the buffer is used again from its start. -/
  wraps : Bool
  /-- Whether the frame is read at once. Then only the buffer bounds the content of a block. -/
  atOnce : Bool

/-- How far the reading of a frame has come. -/
structure Progress where
  /-- What the blocks so far stand for. -/
  content : Array UInt8 := #[]
  /-- How much of the buffer is in use. -/
  filled : Nat := 0
  /-- Whether the last block was empty. -/
  paused : Bool := false
  /-- The code of the literals before. -/
  literals : Option PrefixCode := none
  /-- Whether that code was read two symbols at a time. Only an older format asks for it. -/
  inPairs : Bool := false
  /-- The codes of the sequences before. -/
  sequences : Option SequenceCodes := none
  recent : RecentOffsets := {}

namespace Progress

/-- How many bytes the next block has room for. -/
def room (progress : Progress) (bounds : Bounds) : Nat :=
  bounds.buffer - progress.filled

/-- Gives the content the bytes of a block. -/
def extend (progress : Progress) (bounds : Bounds) (content : Array UInt8) : Progress :=
  let filled := progress.filled + (content.size - progress.content.size)
  let full := bounds.wraps && bounds.buffer < filled + bounds.block
  { progress with content, filled := if full then 0 else filled }

/-- Reads a coded block. -/
def decode (progress : Progress) (bounds : Bounds) (bytes : Bytes) :
    Except FrameFault Progress := do
  let room := progress.room bounds
  let size := progress.content.size
  let ((literals, code), rest) ←
    readLiterals bounds.block (min bounds.block room) progress.literals bytes
  let (sequences, codes, recent) ← readSequences progress.sequences progress.recent rest
  let content ← carryOut (size + room) literals sequences 0 progress.content
  if !bounds.atOnce && bounds.block < content.size - size then throw .damaged
  return { progress with literals := code, sequences := codes, recent }.extend bounds content

/-- There is always room for a block in a buffer that is used again from its start. -/
theorem room_extend {bounds : Bounds} (progress : Progress) (content : Array UInt8)
    (wraps : bounds.wraps = true) (large : bounds.block ≤ bounds.buffer) :
    (progress.extend bounds content).filled + bounds.block ≤ bounds.buffer := by
  simp only [extend, wraps, Bool.true_and, decide_eq_true_eq]
  split <;> omega

end Progress

/-! ## Reading -/

/-- How a block holds its bytes. -/
inductive Form where
  /-- As they are. -/
  | stored
  /-- As one byte, many times. -/
  | repeated
  /-- By literals and sequences. -/
  | coded
  /-- In a way that is not in use. -/
  | reserved
  deriving DecidableEq, Repr

/-- The form that a number stands for. -/
def Form.ofNumber : Nat → Form
  | 0 => .stored
  | 1 => .repeated
  | 2 => .coded
  | _ => .reserved

/-- The greatest number of bytes that a block can stand for. -/
def maxBlock : Nat := 131072

/-- Reads the bytes of a block that has the given form and size. -/
def readContent (bounds : Bounds) (form : Form) (size : Nat) (progress : Progress)
    (bytes : Bytes) : Except FrameFault (Progress × Bytes) :=
  let room := progress.room bounds
  let tooLong := bounds.block < size
  match form, bytes with
  | .stored, bytes =>
      if !bounds.atOnce && tooLong then .error .damaged
      else if room < min size bytes.length then .error .noRoom
      else
        match Bytes.takeField? size bytes with
        | none => .error .incomplete
        | some (field, rest) =>
            .ok (progress.extend bounds (progress.content ++ field.toArray), rest)
  | .repeated, [] => .error .incomplete
  | .repeated, byte :: rest =>
      if room < size then .error .noRoom
      else if !bounds.atOnce && tooLong then .error .damaged
      else .ok (progress.extend bounds (progress.content ++ Array.replicate size byte), rest)
  | .coded, bytes =>
      if tooLong then .error (if bounds.atOnce then .sizeWrong else .damaged)
      else if !bounds.atOnce && size = 0 then .ok (progress, bytes)
      else
        match Bytes.takeField? size bytes with
        | none => .error .incomplete
        | some (field, rest) => (progress.decode bounds field).map (·, rest)
  | .reserved, _ => .error .damaged

/-- Reading a block leaves no more than there was. -/
theorem length_of_readContent {bounds : Bounds} {form : Form} {size : Nat}
    {progress after : Progress} {bytes rest : Bytes}
    (read : readContent bounds form size progress bytes = .ok (after, rest)) :
    rest.length ≤ bytes.length := by
  unfold readContent at read
  simp only at read
  split at read
  · split at read
    · cases read
    · split at read
      · cases read
      · split at read
        · cases read
        · rename_i found
          cases read
          have := Bytes.length_of_takeField? found
          omega
  · cases read
  · split at read
    · cases read
    · split at read
      · cases read
      · cases read
        simp
  · split at read
    · cases read
    · split at read
      · cases read
        exact Nat.le_refl _
      · split at read
        · cases read
        · rename_i found
          obtain ⟨_, _, same⟩ := of_map_eq_ok read
          cases same
          have := Bytes.length_of_takeField? found
          omega
  · cases read

/-- Takes the head of a block: whether it is the last, its form and its size. The head is a number
of three bytes. -/
def takeHead? (bytes : Bytes) : Option ((Bool × Form × Nat) × Bytes) :=
  (Bytes.takeNumber? 3 bytes).map fun (head, rest) =>
    ((head % 2 == 1, .ofNumber (head / 2 % 4), head / 8), rest)

/-- Reads a block, and tells whether it is the last. -/
def readBlock (bounds : Bounds) (progress : Progress) (bytes : Bytes) :
    Except FrameFault (Bool × Progress × Bytes) :=
  match takeHead? bytes with
  | none => .error .incomplete
  | some ((last, form, size), rest) =>
      let paused := size = 0 ∧ form ≠ .repeated
      (readContent bounds form size { progress with paused } rest).map (last, ·)

/-- Reading the head of a block leaves less than there was. -/
theorem length_of_takeHead? {head : Bool × Form × Nat} {bytes rest : Bytes}
    (taken : takeHead? bytes = some (head, rest)) : rest.length < bytes.length := by
  obtain ⟨_, found, same⟩ := Option.map_eq_some_iff.mp taken
  cases same
  have := Bytes.length_of_takeNumber? found
  omega

/-- Reading a block leaves less than there was. -/
theorem length_of_readBlock {bounds : Bounds} {last : Bool} {progress after : Progress}
    {bytes rest : Bytes} (read : readBlock bounds progress bytes = .ok (last, after, rest)) :
    rest.length < bytes.length := by
  unfold readBlock at read
  split at read
  · cases read
  · rename_i taken
    obtain ⟨⟨_, _⟩, inner, same⟩ := of_map_eq_ok read
    cases same
    have := length_of_takeHead? taken
    have := length_of_readContent inner
    omega

/-- Reads blocks up to the last one. -/
def readBlocks (bounds : Bounds) (progress : Progress) (bytes : Bytes) :
    Except FrameFault (Progress × Bytes) :=
  match read : readBlock bounds progress bytes with
  | .error fault => .error fault
  | .ok (true, progress, rest) => .ok (progress, rest)
  | .ok (false, progress, rest) =>
      have := length_of_readBlock read
      readBlocks bounds progress rest
termination_by bytes.length

/-- Reading blocks leaves less than there was. -/
theorem length_of_readBlocks {bounds : Bounds} {progress after : Progress} {bytes rest : Bytes}
    (read : readBlocks bounds progress bytes = .ok (after, rest)) :
    rest.length < bytes.length := by
  fun_induction readBlocks bounds progress bytes with
  | case1 => cases read
  | case2 _ _ _ _ found =>
      cases read
      exact length_of_readBlock found
  | case3 _ _ _ _ found _ ih => exact Nat.lt_trans (ih read) (length_of_readBlock found)

/-- Passes over the blocks of a frame, if they are all there. -/
def passBlocks? (bytes : Bytes) : Option Bytes :=
  match taken : takeHead? bytes with
  | none => none
  | some ((last, form, size), rest) =>
      if form = .reserved then none
      else
        match found : Bytes.takeField? (if form = .repeated then 1 else size) rest with
        | none => none
        | some (_, behind) =>
            have := length_of_takeHead? taken
            have := Bytes.length_of_takeField? found
            if last then some behind else passBlocks? behind
termination_by bytes.length

/-! ## Storing -/

/-- The head of a block that holds its bytes as they are. -/
def storedHead (last : Bool) (size : Nat) : Bytes :=
  Bytes.littleEndian 3 (8 * size + last.toNat)

/-- Blocks that hold a payload as it is. -/
def storeBlocks (payload : Bytes) : Bytes :=
  if payload.length ≤ maxBlock then storedHead true payload.length ++ payload
  else
    storedHead false maxBlock ++
      (payload.take maxBlock ++ storeBlocks (payload.drop maxBlock))
termination_by payload.length
decreasing_by
  rw [List.length_drop]
  simp only [maxBlock] at *
  omega

/-- The head of a stored block is read back. -/
theorem takeHead?_storedHead (last : Bool) {size : Nat} (fits : size ≤ maxBlock) (rest : Bytes) :
    takeHead? (storedHead last size ++ rest) = some ((last, .stored, size), rest) := by
  have bit : last.toNat ≤ 1 := Bool.toNat_le last
  have below : 8 * size + last.toNat < Nat.pow 256 3 := by
    simp only [maxBlock] at fits
    have : Nat.pow 256 3 = 16777216 := rfl
    omega
  have form : (8 * size + last.toNat) / 2 % 4 = 0 := by omega
  have whole : (8 * size + last.toNat) / 8 = size := by omega
  have marked : ((8 * size + last.toNat) % 2 == 1) = last := by
    cases last <;> simp <;> omega
  simp only [takeHead?, storedHead, Bytes.takeNumber?_littleEndian 3 _ below, Option.map_some,
    form, whole, marked, Form.ofNumber]

/-- A block that holds its bytes as they are is read back. -/
theorem readBlock_storedHead {bounds : Bounds} {progress : Progress} (last : Bool)
    (content : Bytes) (small : content.length ≤ bounds.block)
    (room : progress.filled + bounds.block ≤ bounds.buffer) (fits : content.length ≤ maxBlock)
    (rest : Bytes) :
    ∃ after, readBlock bounds progress (storedHead last content.length ++ (content ++ rest)) =
        .ok (last, after, rest) ∧ after.content = progress.content ++ content.toArray ∧
      after.filled = (progress.extend bounds (progress.content ++ content.toArray)).filled := by
  have inside : ¬ bounds.block < content.length := Nat.not_lt.mpr small
  have roomy : ¬ bounds.buffer - progress.filled <
      min content.length (content.length + rest.length) := by omega
  simp only [readBlock, takeHead?_storedHead last fits, readContent, inside, decide_false,
    Bool.and_false, Bool.false_eq_true, if_false, Progress.room, List.length_append, roomy,
    Bytes.takeField?_append, Except.map]
  exact ⟨_, rfl, rfl, rfl⟩

theorem readBlocks_of_last {bounds : Bounds} {progress after : Progress} {bytes rest : Bytes}
    (read : readBlock bounds progress bytes = .ok (true, after, rest)) :
    readBlocks bounds progress bytes = .ok (after, rest) := by
  unfold readBlocks
  split <;> simp_all

theorem readBlocks_of_more {bounds : Bounds} {progress after : Progress} {bytes rest : Bytes}
    (read : readBlock bounds progress bytes = .ok (false, after, rest)) :
    readBlocks bounds progress bytes = readBlocks bounds after rest := by
  conv => lhs; unfold readBlocks
  split <;> simp_all

/-- Blocks that hold a payload as it is are read back behind what was there, if the buffer is used
again from its start. -/
theorem readBlocks_storeBlocks (bounds : Bounds) (block : bounds.block = maxBlock)
    (wraps : bounds.wraps = true) (progress : Progress) (payload rest : Bytes)
    (room : progress.filled + bounds.block ≤ bounds.buffer) :
    ∃ after, readBlocks bounds progress (storeBlocks payload ++ rest) = .ok (after, rest) ∧
      after.content = progress.content ++ payload.toArray := by
  fun_induction storeBlocks payload generalizing progress with
  | case1 payload small =>
      rw [List.append_assoc]
      obtain ⟨after, read, content, _⟩ :=
        readBlock_storedHead true payload (block ▸ small) room small rest
      exact ⟨after, readBlocks_of_last read, content⟩
  | case2 payload large ih =>
      have size : (payload.take maxBlock).length = maxBlock := by
        rw [List.length_take]
        omega
      obtain ⟨after, read, content, filled⟩ := readBlock_storedHead false
        (payload.take maxBlock) (by omega) room (by omega)
        (storeBlocks (payload.drop maxBlock) ++ rest)
      have roomAfter : after.filled + bounds.block ≤ bounds.buffer := by
        rw [filled]
        exact Progress.room_extend progress _ wraps (by omega)
      obtain ⟨final, readRest, whole⟩ := ih after roomAfter
      rw [size] at read
      rw [List.append_assoc, List.append_assoc, readBlocks_of_more read]
      have parts : (payload.take maxBlock).toArray ++ (payload.drop maxBlock).toArray =
          payload.toArray := by
        rw [List.append_toArray, List.take_append_drop]
      exact ⟨final, readRest, by rw [whole, content, Array.append_assoc, parts]⟩

end ReplicaSync.Frame
