import ReplicaSync.Bytes
import ReplicaSync.Fault

/-!
# Readers

A stream is read in attempts, each of which brings some bytes, is interrupted or fails (`Read`).
No attempt brings more bytes than a buffer of 64 KiB holds.

A reader delivers a byte string in pieces. It has a cycle of sizes that bound the pieces in turn, a
period after which an attempt is interrupted, and possibly a position at which it breaks down.
`Reader.reads` lists what the attempts to read bring. An attempt is interrupted before anything else
is looked at, and it breaks down before a size is used up.
-/

set_option autoImplicit false

namespace ReplicaSync

/-- What an attempt to read from a stream brings. -/
inductive Read where
  /-- Some bytes. No bytes are the end of the stream. If the buffer does not hold all of them, the
  next attempts bring the rest. -/
  | bytes (delivered : Bytes)
  /-- An interruption, after which reading goes on. -/
  | interrupted
  /-- A failure. -/
  | failed (cause : IoFault)

/-- How a byte string is delivered. -/
structure Reader where
  /-- Bounds on the pieces, taken in turn and again from the start. -/
  sizes : List Nat := []
  /-- Every attempt whose number is a multiple of this is interrupted, unless it is zero. -/
  interruptEvery : Nat := 0
  /-- Where the reader breaks down, and how. -/
  breakdown : Option (Nat × IoFault) := none

namespace Reader

/-- The most bytes that one attempt brings. -/
def bufferSize : Nat := 65536

/-- The bound on the piece with the given number. -/
def sizeAt (reader : Reader) (turn : Nat) : Nat :=
  match reader.sizes with
  | [] => bufferSize
  | sizes => min bufferSize (sizes.getD (turn % sizes.length) bufferSize)

/-- Whether the attempt with the given number, counted from one, is due to be interrupted. -/
def interrupts (reader : Reader) (attempt : Nat) : Bool :=
  reader.interruptEvery != 0 && attempt % reader.interruptEvery == 0

/-- The most bytes that the piece with number `turn` brings from the given position on. -/
def room (reader : Reader) (turn position : Nat) : Nat :=
  match reader.breakdown with
  | some (place, _) => min (reader.sizeAt turn) (place - position)
  | none => reader.sizeAt turn

/-- How the reader breaks down at a position, if it does. -/
def breakdownAt (reader : Reader) (position : Nat) : Option IoFault :=
  match reader.breakdown with
  | some (place, cause) => if position = place then some cause else none
  | none => none

/-- Puts the attempts from the given one on, newest first, before those already made. The piece
with number `turn` is next. No two attempts in a row are interrupted. -/
def readsOnto (reader : Reader) (made : List Read) (attempt turn position : Nat)
    (rest : Bytes) : List Read :=
  let pause := reader.interrupts attempt
  let paused := if pause then .interrupted :: made else made
  let current := if pause then attempt + 1 else attempt
  match reader.breakdownAt position with
  | some cause => .failed cause :: paused
  | none =>
      let piece := rest.take (reader.room turn position)
      if _advance : 0 < piece.length then
        reader.readsOnto (.bytes piece :: paused) (current + 1) (turn + 1)
          (position + piece.length) (rest.drop piece.length)
      else .bytes [] :: paused
  termination_by rest.length
  decreasing_by
    simp only [List.length_take, List.length_drop, piece] at _advance ⊢
    omega

/-- What the attempts to read a byte string bring. -/
def reads (reader : Reader) (content : Bytes) : List Read :=
  (reader.readsOnto [] 1 0 0 content).reverse

end Reader

end ReplicaSync
