import ReplicaSync.Bytes

/-!
# Checksums of frames

The checksum of a content is made in words of 64 bits. Four lanes take the content in stripes of
32 bytes, eight bytes each, and are put together at the end. What is left of the content is taken
in words, half words and bytes, and last the bits are mixed. A frame keeps the lower half.
-/

set_option autoImplicit false

namespace ReplicaSync.Frame.Checksum

/-- The five factors. -/
def factor1 : UInt64 := 0x9E3779B185EBCA87

def factor2 : UInt64 := 0xC2B2AE3D27D4EB4F

def factor3 : UInt64 := 0x165667B19E3779F9

def factor4 : UInt64 := 0x85EBCA77C2B2AE63

def factor5 : UInt64 := 0x27D4EB2F165667C5

/-- Turns the bits of a word to the left. -/
def turn (word count : UInt64) : UInt64 :=
  word <<< count ||| word >>> (64 - count)

/-- The word in a byte string. -/
def wordOf (bytes : Bytes) : UInt64 :=
  .ofNat (Bytes.ofLittleEndian bytes)

/-- What a lane becomes when it takes a word. -/
def absorb (lane word : UInt64) : UInt64 :=
  turn (lane + word * factor2) 31 * factor1

/-- The four lanes. -/
structure Lanes where
  first : UInt64 := factor1 + factor2
  second : UInt64 := factor2
  third : UInt64 := 0
  fourth : UInt64 := 0 - factor1

/-- The lanes after so many stripes, and what is left of the content. -/
def Lanes.take (lanes : Lanes) : (stripes : Nat) → Bytes → Lanes × Bytes
  | 0, bytes => (lanes, bytes)
  | stripes + 1, bytes =>
      let word (index : Nat) := wordOf (bytes.range (8 * index) 8)
      Lanes.take ⟨absorb lanes.first (word 0), absorb lanes.second (word 1),
        absorb lanes.third (word 2), absorb lanes.fourth (word 3)⟩ stripes (bytes.drop 32)

/-- Puts the lanes together. -/
def Lanes.merge (lanes : Lanes) : UInt64 :=
  let sum := turn lanes.first 1 + turn lanes.second 7 + turn lanes.third 12 + turn lanes.fourth 18
  [lanes.first, lanes.second, lanes.third, lanes.fourth].foldl
    (fun value lane => (value ^^^ absorb 0 lane) * factor1 + factor4) sum

/-- Takes words of eight bytes. -/
def takeWords (value : UInt64) : (count : Nat) → Bytes → UInt64 × Bytes
  | 0, bytes => (value, bytes)
  | count + 1, bytes =>
      takeWords (turn (value ^^^ absorb 0 (wordOf (bytes.take 8))) 27 * factor1 + factor4) count
        (bytes.drop 8)

/-- Takes half a word if there are four bytes. -/
def takeHalf (value : UInt64) (bytes : Bytes) : UInt64 × Bytes :=
  if bytes.length < 4 then (value, bytes)
  else (turn (value ^^^ wordOf (bytes.take 4) * factor1) 23 * factor2 + factor3, bytes.drop 4)

/-- Takes a byte. -/
def takeByte (value : UInt64) (byte : UInt8) : UInt64 :=
  turn (value ^^^ byte.toUInt64 * factor5) 11 * factor1

/-- Mixes the bits of a word. -/
def mix (value : UInt64) : UInt64 :=
  let value := (value ^^^ value >>> 33) * factor2
  let value := (value ^^^ value >>> 29) * factor3
  value ^^^ value >>> 32

/-- The checksum of a content. A content without a whole stripe does not use the lanes. -/
def ofBytes (content : Bytes) : UInt64 :=
  let length := content.length
  let (lanes, rest) := Lanes.take {} (length / 32) content
  let value := (if length < 32 then factor5 else lanes.merge) + .ofNat length
  let (value, rest) := takeWords value (length % 32 / 8) rest
  let (value, rest) := takeHalf value rest
  mix (rest.foldl takeByte value)

/-- The lower half of a checksum. -/
def lowerHalf (content : Bytes) : Nat :=
  (ofBytes content).toNat % 4294967296

end ReplicaSync.Frame.Checksum
