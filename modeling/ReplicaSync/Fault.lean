import ReplicaSync.Text.Numeral
import ReplicaSync.Text.Quoted

/-!
# Faults

Every operation that can fail reports a fault. A fault belongs to one of seven kinds, by the
part of the system that refused, and carries its cause. The wording is a function of the
cause: `Fault.message` puts the name of the kind in front of the message of the cause.

The reader of JSON documents does not say what is wrong with a document. Where a message
quotes its complaint, a placeholder stands instead.
-/

set_option autoImplicit false

namespace ReplicaSync

/-- What stands for the complaint of the reader of JSON documents. -/
def jsonComplaint : String := "<json>"

/-! ## Streams and files -/

/-- The classes of failing reads and writes. -/
inductive IoKind where
  | unexpectedEof
  | brokenPipe
  | timedOut
  | storageFull
  | writeZero
  | alreadyExists
  | notADirectory
  | other
  deriving DecidableEq, Repr

/-- Why a byte string is no row of compressed frames. -/
inductive FrameFault where
  /-- A frame does not end, or none begins. -/
  | incomplete
  /-- A frame begins with none of the known marks. -/
  | unknown
  /-- A frame has a format that is not read any more. -/
  | retired
  /-- A header asks for something that is not in use. -/
  | unsupported
  /-- A header asks for too much memory. -/
  | tooLarge
  /-- A header refers to a dictionary. -/
  | dictionary
  /-- The blocks of a frame cannot be read. -/
  | damaged
  /-- The literals of a block are fewer than their header allows. -/
  | literalsHeader
  /-- A block refers to a code that no block before it has. -/
  | noCode
  /-- A block ends too early, or is too long. -/
  | sizeWrong
  /-- A block stands for more bytes than there is room for. -/
  | noRoom
  /-- The content of a frame does not have the checksum behind it. -/
  | checksum
  /-- A block has a form that was given up, or a code in it is not described. -/
  | other
  deriving DecidableEq, Repr

/-- The wording of an unreadable frame. -/
def FrameFault.message : FrameFault → String
  | .incomplete => "incomplete frame"
  | .unknown => "Unknown frame descriptor"
  | .retired => "Version not supported"
  | .unsupported => "Unsupported frame parameter"
  | .tooLarge => "Frame requires too much memory for decoding"
  | .dictionary => "Dictionary mismatch"
  | .damaged => "Data corruption detected"
  | .literalsHeader => "Header of Literals' block doesn't respect format specification"
  | .noCode => "Dictionary is corrupted"
  | .sizeWrong => "Src size is incorrect"
  | .noRoom => "Destination buffer is too small"
  | .checksum => "Restored data doesn't match checksum"
  | .other => "Error (generic)"

/-- Why a read or a write failed. -/
inductive IoFault where
  /-- A failure that the other end of a stream reports. -/
  | reported (kind : IoKind) (message : String)
  /-- The local seed ended inside a range that was to be copied. -/
  | seedEnded (copied : Nat) (length : UInt32) (offset : UInt64)
  /-- The output has no room left. -/
  | outputFull
  /-- The output takes no more bytes. -/
  | outputStalled
  /-- A compressed byte string cannot be read. -/
  | frame (cause : FrameFault)
  /-- A plain file stands where a directory is to be. -/
  | pathOccupied
  /-- A plain file stands above the place where a directory is to be. -/
  | pathBlocked
  deriving DecidableEq, Repr

/-- The class of a failing read or write. -/
def IoFault.kind : IoFault → IoKind
  | .reported kind _ => kind
  | .seedEnded _ _ _ => .unexpectedEof
  | .outputFull => .storageFull
  | .outputStalled => .writeZero
  | .frame .incomplete => .unexpectedEof
  | .frame _ => .other
  | .pathOccupied => .alreadyExists
  | .pathBlocked => .notADirectory

/-- The wording of a failing read or write. -/
def IoFault.message : IoFault → String
  | .reported _ message => message
  | .seedEnded copied length offset =>
      s!"seed ended after {copied} of {length} bytes at offset {offset}"
  | .outputFull => "disk full"
  | .outputStalled => "failed to write whole buffer"
  | .frame cause => cause.message
  | .pathOccupied => "File exists (os error 17)"
  | .pathBlocked => "Not a directory (os error 20)"

/-! ## Signatures and plans -/

/-- The two ends of a transfer: the bytes already held, and the bytes to end up with. -/
inductive Side where
  | seed
  | source
  deriving DecidableEq, Repr

/-- The name of a side. -/
def Side.name : Side → String
  | .seed => "seed"
  | .source => "source"

/-- Why a signature or a fetched range is refused. -/
inductive InputFault where
  /-- A block without bytes. -/
  | emptyBlock (index : Nat) (offset : UInt64)
  /-- A block that does not begin where the one before it ends. -/
  | misplacedBlock (index : Nat) (offset expected : UInt64)
  /-- Blocks that do not cover what is declared. -/
  | uncovered (covered declared : UInt64)
  /-- A fault in the signature of one side. -/
  | onSide (side : Side) (cause : InputFault)
  /-- A fetch that did not bring what was asked for. -/
  | fetchedLength (fetched : Nat) (offset : UInt64) (length : UInt32)
  /-- A refusal in the words of the caller. -/
  | stated (message : String)
  deriving DecidableEq, Repr

/-- The wording of a refused input. -/
def InputFault.message : InputFault → String
  | .emptyBlock index offset => s!"block {index} at offset {offset} has zero length"
  | .misplacedBlock index offset expected =>
      s!"block {index} starts at offset {offset}, expected {expected}"
  | .uncovered covered declared =>
      s!"blocks cover {covered} bytes but the set declares {declared}"
  | .onSide side cause =>
      let name := side.name
      let message := cause.message
      s!"{name} signatures: {message}"
  | .fetchedLength fetched offset length =>
      s!"fetched {fetched} bytes for source range {offset}+{length}"
  | .stated message => message

/-! ## Properties of files -/

namespace PropertyName

/-- The property that holds the number of the current revision. -/
def version : String := "Rfs-Synchronization-Version"

/-- The property that holds the server of the current revision. -/
def source : String := "Rfs-Synchronization-Source"

/-- The property that holds the revisions before the current one. -/
def history : String := "Rfs-Synchronization-History"

/-- The property that marks an outstanding conflict. -/
def conflict : String := "Rfs-Synchronization-Conflict"

/-- The property that holds a decision about a conflict. -/
def resolution : String := "Rfs-Synchronization-Conflict-Resolution"

end PropertyName

/-- Why the synchronization properties of a file cannot be used. -/
inductive MetadataFault where
  | missing (property : String)
  | empty (property : String)
  | notANumber (raw : String) (cause : NumeralFault)
  | unreadable (property : String)
  /-- The greatest version there is has been given out. -/
  | exhausted (latest : Int64) (server : String)
  deriving DecidableEq, Repr

/-- The wording of unusable synchronization properties. -/
def MetadataFault.message : MetadataFault → String
  | .missing property => s!"{property} is missing"
  | .empty property => s!"{property} is empty"
  | .notANumber raw cause =>
      let property := PropertyName.version
      let shown := Text.quoted raw
      let reason := cause.message
      s!"{property} value {shown} is not a number: {reason}"
  | .unreadable property => s!"{property} is not valid: {jsonComplaint}"
  | .exhausted latest server =>
      let number := Text.int64 latest
      s!"version {number} of {server} cannot be advanced"

/-! ## Stores -/

/-- Why a batch did not go through, or a store did not open. -/
inductive StorageFault where
  /-- An earlier batch broke down while it held the store. -/
  | poisoned
  /-- The file of the store holds something else. -/
  | notADatabase
  /-- The file of the store begins like a store and does not go on so. -/
  | malformed
  /-- The file of the store has a format that is too new. -/
  | unsupportedFormat
  /-- The format of the file lets it be read, but not be written. -/
  | readOnly
  /-- The file of the store cannot be had, since another holder has it open. -/
  | locked
  /-- There is no file at the path of the store, and none can be made. -/
  | cannotOpen (path : String)
  /-- The journal of the store cannot be made beside its file. -/
  | cannotKeepJournal
  /-- The path of the store has a null byte at a position. -/
  | nullInPath (position : Nat)
  /-- A refusal in the words of a collaborator. -/
  | reported (message : String)
  deriving DecidableEq, Repr

/-- The wording of a refused batch. -/
def StorageFault.message : StorageFault → String
  | .poisoned => "connection lock poisoned"
  | .notADatabase => "file is not a database"
  | .malformed => "database disk image is malformed"
  | .unsupportedFormat => "unsupported file format"
  | .readOnly => "attempt to write a readonly database"
  | .locked => "database is locked"
  | .cannotOpen path => s!"unable to open database file: {path}"
  | .cannotKeepJournal => "unable to open database file"
  | .nullInPath position => s!"nul byte found in provided data at position: {position}"
  | .reported message => message

/-- Why a signature repository refused. -/
inductive RepositoryFault where
  /-- Another holder has the directory of the repository open. -/
  | locked
  /-- A refusal in the words of a collaborator. -/
  | reported (message : String)
  deriving DecidableEq, Repr

/-- The wording of a refusing repository. -/
def RepositoryFault.message : RepositoryFault → String
  | .locked => "Failed to open signature database: FjallError: Locked"
  | .reported message => message

/-! ## Encoded values and configuration -/

/-- Why stored bytes or texts cannot be decoded. -/
inductive EncodingFault where
  | tooShort
  | wrongMagic
  | payloadLength (actual declared : Nat)
  | truncated
  | json
  deriving DecidableEq, Repr

/-- The wording of an undecodable value. -/
def EncodingFault.message : EncodingFault → String
  | .tooShort => "signature data too short for header"
  | .wrongMagic => "invalid signature magic"
  | .payloadLength actual declared =>
      s!"signature payload is {actual} bytes, header says {declared}"
  | .truncated => "io error: unexpected end of file"
  | .json => jsonComplaint

/-- Why a configuration is refused. -/
inductive ConfigFault where
  | zeroMinimum
  | averageNotPowerOfTwo (average : UInt32)
  | sizesOutOfOrder (minimum average maximum : UInt32)
  | noHistory
  deriving DecidableEq, Repr

/-- The wording of a refused configuration. -/
def ConfigFault.message : ConfigFault → String
  | .zeroMinimum => "min_block_size must be greater than zero"
  | .averageNotPowerOfTwo average => s!"avg_block_size must be a power of two, got {average}"
  | .sizesOutOfOrder minimum average maximum =>
      s!"block sizes must satisfy min <= avg <= max, got {minimum}/{average}/{maximum}"
  | .noHistory => "history.max_history_len must be greater than zero"

/-! ## All faults -/

/-- Why an operation failed. -/
inductive Fault where
  | io (cause : IoFault)
  | input (cause : InputFault)
  | metadata (cause : MetadataFault)
  | storage (cause : StorageFault)
  | repository (cause : RepositoryFault)
  | encoding (cause : EncodingFault)
  | config (cause : ConfigFault)
  deriving DecidableEq, Repr

/-- The wording of a fault. -/
def Fault.message : Fault → String
  | .io cause => "I/O error: " ++ cause.message
  | .input cause => "Invalid input: " ++ cause.message
  | .metadata cause => "Invalid metadata: " ++ cause.message
  | .storage cause => "Storage transaction failed: " ++ cause.message
  | .repository cause => "Signature repository error: " ++ cause.message
  | .encoding cause => "Serialization error: " ++ cause.message
  | .config cause => "Configuration error: " ++ cause.message

end ReplicaSync
