import ReplicaSync.Bytes

/-!
# Bits

Inside the blocks of a frame numbers need not fill whole bytes. The bits of a byte come with the
lowest first. A row of bits is read forwards, and its numbers then have their lowest digit in
front; or it is read backwards from a marker, the highest bit that is set in the last byte, and
its numbers have their highest digit in front.
-/

set_option autoImplicit false

namespace ReplicaSync.Frame

/-- A row of bits, in the order in which they are read. -/
abbrev Bits := List Bool

namespace Bits

/-- The bits of a byte. -/
def ofByte (byte : UInt8) : Bits :=
  (List.range 8).map fun index => byte.toNat.testBit index

/-- The bits of a byte string that is read forwards. -/
def ofBytes (bytes : Bytes) : Bits :=
  bytes.flatMap ofByte

/-- The bits of a byte string that is read backwards. Its last byte has to have the marker. -/
def backwards? (bytes : Bytes) : Option Bits :=
  match bytes.getLast? with
  | none | some 0 => none
  | some _ => some (((ofBytes bytes).reverse.dropWhile not).drop 1)

/-- The number whose binary digits these are, lowest first. -/
def toNat : Bits → Nat
  | [] => 0
  | bit :: rest => bit.toNat + 2 * toNat rest

/-- Takes the first bits off a row that has so many. -/
def takeField? (width : Nat) (bits : Bits) : Option (Bits × Bits) :=
  let field := bits.take width
  if field.length = width then some (field, bits.drop width) else none

/-- Takes a number off a row, with its lowest digit in front. -/
def takeLowFirst? (width : Nat) (bits : Bits) : Option (Nat × Bits) :=
  (takeField? width bits).map fun (field, rest) => (toNat field, rest)

/-- Takes a number off a row, with its highest digit in front. -/
def takeHighFirst? (width : Nat) (bits : Bits) : Option (Nat × Bits) :=
  (takeField? width bits).map fun (field, rest) => (toNat field.reverse, rest)

/-- A byte has eight bits. -/
@[simp] theorem length_ofByte (byte : UInt8) : (ofByte byte).length = 8 := by
  simp [ofByte]

end Bits

end ReplicaSync.Frame
