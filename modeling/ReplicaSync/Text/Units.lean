/-!
# Texts in units

Where characters are given by codes of sixteen bits, a character beyond the first 65536 takes two
of them, its halves. `joinUnits` puts the halves together.
-/

set_option autoImplicit false

namespace ReplicaSync

/-- A character or a half of one. -/
inductive TextUnit where
  | scalar (c : Char)
  /-- The first half of a character, a code from 0xD800 to 0xDBFF. -/
  | high (code : Nat)
  /-- The second half of a character, a code from 0xDC00 to 0xDFFF. -/
  | low (code : Nat)
  deriving DecidableEq, Repr

namespace TextUnit

/-- The unit with a 16-bit code. -/
def ofCode (code : Nat) : TextUnit :=
  if 0xD800 ≤ code ∧ code < 0xDC00 then .high code
  else if 0xDC00 ≤ code ∧ code < 0xE000 then .low code
  else .scalar (Char.ofNat code)

/-- The character of two halves. -/
def pair (first second : Nat) : Char :=
  Char.ofNat (0x10000 + (first - 0xD800) * 0x400 + (second - 0xDC00))

/-- Puts the characters of units, which come newest first, in front of others. A half without
its partner denotes no text. -/
def join : List Char → List TextUnit → Option (List Char)
  | characters, [] => some characters
  | characters, .scalar c :: older => join (c :: characters) older
  | characters, .low second :: .high first :: older => join (pair first second :: characters) older
  | _, _ => none

end TextUnit

/-- The text that units denote, which come newest first. -/
def joinUnits (units : List TextUnit) : Option String :=
  (TextUnit.join [] units).map String.ofList

end ReplicaSync
