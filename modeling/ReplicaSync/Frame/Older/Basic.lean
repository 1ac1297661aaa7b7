import ReplicaSync.Frame.Checksum
import ReplicaSync.Frame.Older.Header
import ReplicaSync.Frame.Older.Literals
import ReplicaSync.Frame.Older.Sequences

/-!
# Frames of older formats

Behind the header of an older frame there are blocks, until one says that it is the end, or has no
bytes. A block holds its bytes as they are, or it is coded. The seventh format may have a checksum
in the head of the block that ends it.
-/

set_option autoImplicit false

namespace ReplicaSync.Frame

/-- How a block of an older format holds its bytes. -/
inductive OlderForm where
  | coded
  | stored
  | repeated
  /-- There is no block: the frame has ended. -/
  | ending
  deriving DecidableEq, Repr

/-- The form that a number stands for. -/
def OlderForm.ofNumber : Nat → OlderForm
  | 0 => .coded
  | 1 => .stored
  | 2 => .repeated
  | _ => .ending

/-- Takes the head of a block: the whole number in its three bytes, its form, and its size. -/
def takeOlderHead? (bytes : Bytes) : Option ((Nat × OlderForm × Nat) × Bytes) :=
  (Bytes.takeField? 3 bytes).map fun (field, rest) =>
    let number := Bytes.ofBigEndian field
    ((number, .ofNumber (number / 4194304), number % 524288), rest)

/-- The checksum of a content, as it stands in the head that ends a frame. -/
def olderChecksum (content : Bytes) : Nat :=
  (Checksum.ofBytes content).toNat / 2048 % 4194304

/-- Reads a coded block of an older format. Only the seventh format remembers anything from block
to block. -/
def Progress.decodeOlder (progress : Progress) (header : OlderHeader) (bytes : Bytes) :
    Except FrameFault Progress := do
  let limit := progress.content.size + progress.room header.bounds
  let (⟨literals, code, inPairs⟩, rest) ←
    readOlderLiterals header.format progress.literals progress.inPairs bytes
  match header.format with
  | .seventh =>
      let (content, sequences, recent) ←
        readLater progress.sequences progress.recent limit literals progress.content rest
      let after := { progress with literals := code, inPairs, sequences, recent }
      return after.extend header.bounds content
  | .sixth =>
      let (content, _) ← readLater none ⟨1, 1, 1⟩ limit literals progress.content rest
      return progress.extend header.bounds content
  | format =>
      let content ← readEarly format limit literals progress.content rest
      return progress.extend header.bounds content

/-- Reads the bytes of a block that has the given size, and is not empty. A block that is too long
to be waited for has to be at hand, and no more than the bytes of a block of today ever are. -/
def readOlderContent (header : OlderHeader) (form : OlderForm) (size : Nat) (progress : Progress)
    (bytes : Bytes) : Except FrameFault (Progress × Bytes) :=
  match Bytes.takeField? size bytes with
  | none => .error (if bytes.isEmpty ∨ size ≤ header.block then .incomplete else .damaged)
  | some (field, rest) =>
      if maxBlock < size then .error .damaged
      else if form = .coded then
        if size = maxBlock ∧ header.format ≠ .fourth then .error .sizeWrong
        else (progress.decodeOlder header field).map (·, rest)
      else if progress.room header.bounds < size then .error .noRoom
      else .ok (progress.extend header.bounds (progress.content ++ field.toArray), rest)

/-- Reads a block of an older format, and tells whether the frame ends with it. -/
def readOlderBlock (header : OlderHeader) (progress : Progress) (bytes : Bytes) :
    Except FrameFault (Bool × Progress × Bytes) :=
  match takeOlderHead? bytes with
  | none => .error .incomplete
  | some ((number, form, size), rest) =>
      if form = .ending then
        if header.hasChecksum ∧ number % 4194304 ≠ olderChecksum progress.content.toList then
          .error .checksum
        else .ok (true, progress, rest)
      else if form = .repeated then .error (if rest.isEmpty then .incomplete else .other)
      else if size = 0 then .ok (true, progress, rest)
      else (readOlderContent header form size progress rest).map (false, ·)

/-- Reading the head of a block leaves less than there was. -/
theorem length_of_takeOlderHead? {head : Nat × OlderForm × Nat} {bytes rest : Bytes}
    (taken : takeOlderHead? bytes = some (head, rest)) : rest.length < bytes.length := by
  obtain ⟨_, found, same⟩ := Option.map_eq_some_iff.mp taken
  cases same
  have := Bytes.length_of_takeField? found
  omega

/-- Reading the bytes of a block leaves no more than there was. -/
theorem length_of_readOlderContent {header : OlderHeader} {form : OlderForm} {size : Nat}
    {progress after : Progress} {bytes rest : Bytes}
    (read : readOlderContent header form size progress bytes = .ok (after, rest)) :
    rest.length ≤ bytes.length := by
  unfold readOlderContent at read
  split at read
  · cases read
  · rename_i found
    have := Bytes.length_of_takeField? found
    split at read
    · cases read
    · split at read
      · split at read
        · cases read
        · obtain ⟨_, _, same⟩ := of_map_eq_ok read
          cases same
          omega
      · split at read
        · cases read
        · cases read
          omega

/-- Reading a block leaves less than there was. -/
theorem length_of_readOlderBlock {header : OlderHeader} {last : Bool}
    {progress after : Progress} {bytes rest : Bytes}
    (read : readOlderBlock header progress bytes = .ok (last, after, rest)) :
    rest.length < bytes.length := by
  unfold readOlderBlock at read
  split at read
  · cases read
  · rename_i taken
    have head := length_of_takeOlderHead? taken
    split at read
    · split at read
      · cases read
      · cases read
        exact head
    · split at read
      · cases read
      · split at read
        · cases read
          exact head
        · obtain ⟨⟨_, _⟩, inner, same⟩ := of_map_eq_ok read
          cases same
          have := length_of_readOlderContent inner
          omega

/-- Reads blocks of an older format up to the end. -/
def readOlderBlocks (header : OlderHeader) (progress : Progress) (bytes : Bytes) :
    Except FrameFault (Bytes × Bytes) :=
  match read : readOlderBlock header progress bytes with
  | .error fault => .error fault
  | .ok (true, progress, rest) => .ok (progress.content.toList, rest)
  | .ok (false, progress, rest) =>
      have := length_of_readOlderBlock read
      readOlderBlocks header progress rest
termination_by bytes.length

/-- Reads the frame behind the mark of an older format. -/
def readOlder (format : OlderFormat) (bytes : Bytes) : Except FrameFault (Bytes × Bytes) :=
  match readOlderHeader format bytes with
  | .error fault => .error fault
  | .ok (header, rest) => readOlderBlocks header {} rest

/-- Reading blocks of an older format leaves less than there was. -/
theorem length_of_readOlderBlocks {header : OlderHeader} {progress : Progress}
    {bytes content rest : Bytes}
    (read : readOlderBlocks header progress bytes = .ok (content, rest)) :
    rest.length < bytes.length := by
  fun_induction readOlderBlocks header progress bytes with
  | case1 => cases read
  | case2 _ _ _ _ found =>
      cases read
      exact length_of_readOlderBlock found
  | case3 _ _ _ _ found _ ih => exact Nat.lt_trans (ih read) (length_of_readOlderBlock found)

/-- Reading a frame of an older format leaves less than there was. -/
theorem length_of_readOlder {format : OlderFormat} {bytes content rest : Bytes}
    (read : readOlder format bytes = .ok (content, rest)) : rest.length ≤ bytes.length := by
  unfold readOlder at read
  split at read
  · cases read
  · rename_i header
    have := length_of_readOlderHeader header
    have := length_of_readOlderBlocks read
    omega

end ReplicaSync.Frame
