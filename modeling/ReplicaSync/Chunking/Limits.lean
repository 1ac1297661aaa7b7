import ReplicaSync.Fault

/-!
# Block size limits

A stream is cut into blocks where its content says so, within limits: no block is cut before
it reaches the minimum, and every block is cut when it reaches the maximum. In between, a cut
comes on average after as many bytes as the average says, which has to be a power of two.
-/

set_option autoImplicit false

namespace ReplicaSync

/-- Limits on the sizes of blocks, in bytes. -/
structure Limits where
  minimum : UInt32
  average : UInt32
  maximum : UInt32
  deriving DecidableEq, Repr

namespace Limits

/-- The limits in use where none are given. -/
def standard : Limits := ⟨2048, 8192, 65536⟩

/-- Limits for small files. -/
def small : Limits := ⟨64, 256, 1024⟩

instance : Inhabited Limits := ⟨standard⟩

/-- Whether exactly one bit of a word is set. -/
def isPowerOfTwo (word : UInt32) : Bool :=
  word != 0 && word &&& (word - 1) == 0

/-- Accepts the limits that are in order and have a power of two as the average. -/
def check (limits : Limits) : Except ConfigFault Unit :=
  if limits.minimum = 0 then .error .zeroMinimum
  else if ! isPowerOfTwo limits.average then .error (.averageNotPowerOfTwo limits.average)
  else if limits.minimum > limits.average ∨ limits.average > limits.maximum then
    .error (.sizesOutOfOrder limits.minimum limits.average limits.maximum)
  else .ok ()

/-- The bits of the rolling hash that are clear at a cut. -/
def mask (limits : Limits) : UInt32 := limits.average - 1

/-- Whether a block of the given length is closed where the rolling hash has the given
value. -/
def cuts (limits : Limits) (hash length : UInt32) : Bool :=
  limits.maximum ≤ length || (limits.minimum ≤ length && hash &&& limits.mask == 0)

end Limits

/-- Limits that have been accepted. -/
structure Chunker where
  limits : Limits
  accepted : limits.check = .ok ()

namespace Chunker

/-- The chunker with the standard limits. -/
def standard : Chunker := ⟨.standard, rfl⟩

/-- The chunker with the given limits, if they are acceptable. -/
def ofLimits (limits : Limits) : Except Fault Chunker :=
  match accepted : limits.check with
  | .ok () => .ok ⟨limits, accepted⟩
  | .error fault => .error (.config fault)

end Chunker

end ReplicaSync
