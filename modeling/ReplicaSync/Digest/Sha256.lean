import ReplicaSync.Bytes

/-!
# SHA-256

The secure hash with a 256-bit digest over byte strings. A message is padded to whole
blocks of 64 bytes. Each block is expanded to 64 words, and 64 rounds stir the words into
a state of eight words, starting from the fixed initial state.

The message schedule is kept newest word first, so that the next word is computed from
fixed places near the head of the list.

A message can be hashed at once (`hash`) or as it comes in parts (`Hasher`).
-/

set_option autoImplicit false

namespace ReplicaSync.Sha256

/-- The state of eight words between two blocks. -/
structure State where
  a : UInt32
  b : UInt32
  c : UInt32
  d : UInt32
  e : UInt32
  f : UInt32
  g : UInt32
  h : UInt32

/-- The state before the first block. -/
def State.initial : State :=
  ⟨0x6a09e667, 0xbb67ae85, 0x3c6ef372, 0xa54ff53a,
    0x510e527f, 0x9b05688c, 0x1f83d9ab, 0x5be0cd19⟩

/-- The constants of the 64 rounds. -/
def roundConstants : List UInt32 :=
  [0x428a2f98, 0x71374491, 0xb5c0fbcf, 0xe9b5dba5, 0x3956c25b, 0x59f111f1, 0x923f82a4, 0xab1c5ed5,
   0xd807aa98, 0x12835b01, 0x243185be, 0x550c7dc3, 0x72be5d74, 0x80deb1fe, 0x9bdc06a7, 0xc19bf174,
   0xe49b69c1, 0xefbe4786, 0x0fc19dc6, 0x240ca1cc, 0x2de92c6f, 0x4a7484aa, 0x5cb0a9dc, 0x76f988da,
   0x983e5152, 0xa831c66d, 0xb00327c8, 0xbf597fc7, 0xc6e00bf3, 0xd5a79147, 0x06ca6351, 0x14292967,
   0x27b70a85, 0x2e1b2138, 0x4d2c6dfc, 0x53380d13, 0x650a7354, 0x766a0abb, 0x81c2c92e, 0x92722c85,
   0xa2bfe8a1, 0xa81a664b, 0xc24b8b70, 0xc76c51a3, 0xd192e819, 0xd6990624, 0xf40e3585, 0x106aa070,
   0x19a4c116, 0x1e376c08, 0x2748774c, 0x34b0bcb5, 0x391c0cb3, 0x4ed8aa4a, 0x5b9cca4f, 0x682e6ff3,
   0x748f82ee, 0x78a5636f, 0x84c87814, 0x8cc70208, 0x90befffa, 0xa4506ceb, 0xbef9a3f7, 0xc67178f2]

/-- Rotation of a word to the right. -/
@[inline] def rotateRight (word : UInt32) (amount : UInt32) : UInt32 :=
  (word >>> amount) ||| (word <<< (32 - amount))

@[inline] private def smallSigma0 (word : UInt32) : UInt32 :=
  rotateRight word 7 ^^^ rotateRight word 18 ^^^ (word >>> 3)

@[inline] private def smallSigma1 (word : UInt32) : UInt32 :=
  rotateRight word 17 ^^^ rotateRight word 19 ^^^ (word >>> 10)

@[inline] private def bigSigma0 (word : UInt32) : UInt32 :=
  rotateRight word 2 ^^^ rotateRight word 13 ^^^ rotateRight word 22

@[inline] private def bigSigma1 (word : UInt32) : UInt32 :=
  rotateRight word 6 ^^^ rotateRight word 11 ^^^ rotateRight word 25

/-! ## Message schedule -/

/-- The big-endian words of a byte string, put newest first before `words`. -/
def wordsOnto : Bytes → List UInt32 → List UInt32
  | b₀ :: b₁ :: b₂ :: b₃ :: rest, words =>
      let word := (b₀.toUInt32 <<< 24) ||| (b₁.toUInt32 <<< 16) ||| (b₂.toUInt32 <<< 8) |||
        b₃.toUInt32
      wordsOnto rest (word :: words)
  | _, words => words

/-- Adds `count` words to a schedule that is kept newest word first. -/
def extendSchedule : Nat → List UInt32 → List UInt32
  | 0, words => words
  | count + 1, words =>
      let next := smallSigma1 (words.getD 1 0) + words.getD 6 0 +
        smallSigma0 (words.getD 14 0) + words.getD 15 0
      extendSchedule count (next :: words)

/-- The 64 words of one block, oldest first. -/
def schedule (block : Bytes) : List UInt32 :=
  (extendSchedule 48 (wordsOnto block [])).reverse

/-! ## Compression -/

/-- One round with the given round constant and schedule word. -/
def round (state : State) (constant word : UInt32) : State :=
  let choice := (state.e &&& state.f) ^^^ ((~~~ state.e) &&& state.g)
  let majority := (state.a &&& state.b) ^^^ (state.a &&& state.c) ^^^ (state.b &&& state.c)
  let first := state.h + bigSigma1 state.e + choice + constant + word
  let second := bigSigma0 state.a + majority
  ⟨first + second, state.a, state.b, state.c, state.d + first, state.e, state.f, state.g⟩

/-- The rounds of the given constants and words, one of each at a time. -/
def rounds : List UInt32 → List UInt32 → State → State
  | constant :: constants, word :: words, state =>
      rounds constants words (round state constant word)
  | _, _, state => state

/-- Word by word addition of two states. -/
def State.add (left right : State) : State :=
  ⟨left.a + right.a, left.b + right.b, left.c + right.c, left.d + right.d,
    left.e + right.e, left.f + right.f, left.g + right.g, left.h + right.h⟩

/-- Stirs one block into the state. -/
def compress (state : State) (block : Bytes) : State :=
  state.add (rounds roundConstants (schedule block) state)

/-- Stirs the given number of blocks from the head of a byte string into the state. -/
def absorb : (blocks : Nat) → State → Bytes → State
  | 0, state, _ => state
  | blocks + 1, state, bytes => absorb blocks (compress state (bytes.take 64)) (bytes.drop 64)

/-! ## Padding and the digest -/

/-- The end of a padded message of the given length: a one bit, zero bits up to a whole
block, and the length in bits as a big-endian 64-bit number. -/
def padding (length : Nat) : Bytes :=
  0x80 :: (List.replicate ((119 - length % 64) % 64) 0 ++
    (Bytes.littleEndian 8 (8 * length)).reverse)

private def wordBytes (word : UInt32) : Bytes :=
  [(word >>> 24).toUInt8, (word >>> 16).toUInt8, (word >>> 8).toUInt8, word.toUInt8]

/-- The state as 32 bytes, words in big-endian order. -/
def State.bytes (state : State) : Bytes :=
  wordBytes state.a ++ wordBytes state.b ++ wordBytes state.c ++ wordBytes state.d ++
    wordBytes state.e ++ wordBytes state.f ++ wordBytes state.g ++ wordBytes state.h

/-- The SHA-256 hash of a message. -/
def hash (message : Bytes) : Bytes :=
  let length := message.length
  (absorb (length / 64 + 1 + (length % 64 + 8) / 64) State.initial
    (message ++ padding length)).bytes

/-- A hash has 32 bytes. -/
theorem length_hash (message : Bytes) : (hash message).length = 32 := rfl

/-! ## Hashing in parts -/

/-- A hash under way. -/
structure Hasher where
  /-- The state after the whole blocks so far. -/
  state : State := .initial
  /-- The bytes after these, which do not fill a block yet. -/
  waiting : Bytes := []
  /-- The number of all bytes so far. -/
  length : Nat := 0

namespace Hasher

/-- The hash under way before any bytes. -/
def fresh : Hasher := {}

/-- Goes on by more bytes. Blocks that they fill are stirred into the state. -/
def update (hasher : Hasher) (bytes : Bytes) : Hasher :=
  let waiting := hasher.waiting ++ bytes
  let blocks := waiting.length / 64
  ⟨absorb blocks hasher.state waiting, waiting.drop (64 * blocks), hasher.length + bytes.length⟩

/-- The hash of the bytes so far, which are padded. -/
def finish (hasher : Hasher) : Bytes :=
  (absorb (1 + (hasher.waiting.length + 8) / 64) hasher.state
    (hasher.waiting ++ padding hasher.length)).bytes

/-- A hash that is finished has 32 bytes. -/
theorem length_finish (hasher : Hasher) : hasher.finish.length = 32 := rfl

end Hasher

end ReplicaSync.Sha256
