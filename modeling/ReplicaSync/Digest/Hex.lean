import ReplicaSync.Digest.Basic
import ReplicaSync.Text.Quoted

/-!
# Hexadecimal form of digests

A digest is written as 64 lower-case hexadecimal digits, two for each byte. Digits of either
case are read. A text is refused for the first of three reasons that applies: it has an odd
number of bytes, it holds a byte that is no digit, or it does not have the right length. The
byte reported is the first wrong one, shown as the character with that code point.
-/

set_option autoImplicit false

namespace ReplicaSync

/-- Why a text is not the hexadecimal form of a digest. -/
inductive HexFault where
  | oddLength
  | invalidByte (byte : UInt8) (position : Nat)
  | wrongLength
  deriving DecidableEq, Repr

/-- The wording of a fault in a hexadecimal text. -/
def HexFault.message : HexFault → String
  | .oddLength => "Odd number of digits"
  | .invalidByte byte position =>
      let shown := Text.quotedChar (Char.ofNat byte.toNat)
      s!"Invalid character {shown} at position {position}"
  | .wrongLength => "Invalid string length"

namespace Hex

/-- Two lower-case digits for each byte. -/
def encode : Bytes → List Char
  | [] => []
  | byte :: rest =>
      Text.hexDigit (byte.toNat / 16) :: Text.hexDigit (byte.toNat % 16) :: encode rest

/-- The value of a byte taken as a hexadecimal digit of either case. -/
def digitValue? (byte : UInt8) : Option Nat :=
  if 48 ≤ byte ∧ byte ≤ 57 then some (byte.toNat - 48)
  else if 97 ≤ byte ∧ byte ≤ 102 then some (byte.toNat - 87)
  else if 65 ≤ byte ∧ byte ≤ 70 then some (byte.toNat - 55)
  else none

/-- The value of a digit at a position. -/
def digitAt (position : Nat) (byte : UInt8) : Except HexFault Nat :=
  match digitValue? byte with
  | some value => .ok value
  | none => .error (.invalidByte byte position)

/-- Reads pairs of digits that start at the given position. -/
def decodePairs : (position : Nat) → Bytes → Except HexFault Bytes
  | _, [] => .ok []
  | _, [_] => .error .oddLength
  | position, high :: low :: rest => do
      let highValue ← digitAt position high
      let lowValue ← digitAt (position + 1) low
      let bytes ← decodePairs (position + 2) rest
      return UInt8.ofNat (16 * highValue + lowValue) :: bytes

/-- Reads digits that make up whole bytes. -/
def decode (digits : Bytes) : Except HexFault Bytes :=
  if digits.length % 2 = 1 then .error .oddLength else decodePairs 0 digits

end Hex

namespace Digest

/-- The hexadecimal form of a digest. -/
def toHex (digest : Digest) : String :=
  String.ofList (Hex.encode digest.bytes)

/-- The digest with the given hexadecimal form. -/
def ofHex (text : String) : Except HexFault Digest := do
  let bytes ← Hex.decode (Bytes.ofText text)
  match ofBytes? bytes with
  | some digest => return digest
  | none => throw .wrongLength

end Digest

end ReplicaSync
