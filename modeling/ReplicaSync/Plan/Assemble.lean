import ReplicaSync.Plan.Basic

/-!
# Assembling a source stream

Assembling follows a plan piece by piece. The bytes of a seed piece are copied from the local
seed. When the seed ends inside the piece, what was there has been written before that is
noticed. The bytes of a source piece are fetched with one request. When the answer has not the
length asked for, nothing of it is written.

The output may have a bound. Of a write that crosses it, the bytes that fit are accepted, and
then the write fails. Writing nothing never fails. The first failure ends the assembly.
-/

set_option autoImplicit false

namespace ReplicaSync

/-- A request for a range of the source. -/
structure Request where
  offset : UInt64
  length : UInt32
  deriving DecidableEq, Repr

/-- Answers requests for ranges of the source. The first argument is the number of earlier
requests. -/
abbrev Fetcher := Nat → Request → Except Fault Bytes

/-- Where assembled bytes go. -/
structure Output where
  /-- The bytes accepted so far, in runs, newest first. -/
  runs : List Bytes := []
  /-- The number of bytes accepted so far. -/
  size : Nat := 0
  /-- The most bytes accepted, and how a write fails beyond them. -/
  bound : Option (Nat × IoFault) := none

namespace Output

/-- The bytes accepted so far. -/
def contents (output : Output) : Bytes :=
  output.runs.reverse.flatten

/-- The output after bytes that it accepts as a whole. -/
def accept (output : Output) (bytes : Bytes) : Output :=
  { output with runs := bytes :: output.runs, size := output.size + bytes.length }

/-- Writes bytes as far as the bound allows. -/
def write (output : Output) (bytes : Bytes) : Except Fault Unit × Output :=
  match output.bound with
  | none => (.ok (), output.accept bytes)
  | some (limit, fault) =>
      if bytes.length ≤ limit - output.size then (.ok (), output.accept bytes)
      else (.error (.io fault), output.accept (bytes.take (limit - output.size)))

end Output

/-- An assembly under way. -/
structure Assembly where
  output : Output := {}
  /-- The requests made, newest first. -/
  requests : List Request := []
  /-- The number of bytes that the finished pieces cover. -/
  written : UInt64 := 0

namespace Assembly

/-- Copies one range of the seed to the output. -/
def copySeed (seed : Bytes) (offset : UInt64) (length : UInt32) (assembly : Assembly) :
    Except Fault Unit × Assembly :=
  let found := seed.range offset.toNat length.toNat
  match assembly.output.write found with
  | (.error fault, output) => (.error fault, { assembly with output })
  | (.ok (), output) =>
      if found.length = length.toNat then (.ok (), { assembly with output })
      else (.error (.io (.seedEnded found.length length offset)), { assembly with output })

/-- Fetches one range of the source into the output. -/
def fetchSource (fetch : Fetcher) (request : Request) (assembly : Assembly) :
    Except Fault Unit × Assembly :=
  let asked := { assembly with requests := request :: assembly.requests }
  match fetch assembly.requests.length request with
  | .error fault => (.error fault, asked)
  | .ok fetched =>
      if fetched.length = request.length.toNat then
        let (result, output) := asked.output.write fetched
        (result, { asked with output })
      else
        (.error (.input (.fetchedLength fetched.length request.offset request.length)), asked)

/-- Brings the bytes of one piece to the output. -/
def bring (seed : Bytes) (fetch : Fetcher) (piece : Piece) (assembly : Assembly) :
    Except Fault Unit × Assembly :=
  match piece.side with
  | .seed => assembly.copySeed seed piece.offset piece.length
  | .source => assembly.fetchSource fetch ⟨piece.offset, piece.length⟩

/-- Brings the bytes of one piece after the other, up to the first failure. -/
def bringAll (seed : Bytes) (fetch : Fetcher) : List Piece → Assembly →
    Except Fault UInt64 × Assembly
  | [], assembly => (.ok assembly.written, assembly)
  | piece :: rest, assembly =>
      match assembly.bring seed fetch piece with
      | (.error fault, stopped) => (.error fault, stopped)
      | (.ok (), brought) =>
          bringAll seed fetch rest
            { brought with written := brought.written + piece.length.toUInt64 }

end Assembly

/-- Puts the source together in the output. The result is the number of bytes written. -/
def Plan.assemble (plan : Plan) (seed : Bytes) (fetch : Fetcher) (output : Output) :
    Except Fault UInt64 × Assembly :=
  Assembly.bringAll seed fetch plan.pieces { output }

/-- The fetcher that answers with the ranges of a byte string. -/
def Fetcher.ofBytes (source : Bytes) : Fetcher :=
  fun _ request => .ok (source.range request.offset.toNat request.length.toNat)

end ReplicaSync
