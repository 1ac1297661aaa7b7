import ReplicaSync.Digest.Basic

/-!
# Hashing in parts

A hasher takes a message in parts of any sizes, stirs in every block as soon as it is filled, and
keeps the bytes that do not fill one. It stands for the parts joined (`Sha256.Hasher.Holds`): more
bytes join them (`Sha256.Hasher.Holds.update`), and the hash it finishes with is that of the whole
message (`Sha256.Hasher.Holds.finish_eq`).
-/

set_option autoImplicit false

namespace ReplicaSync

namespace Sha256

/-- Blocks are stirred in one after the other. -/
theorem absorb_add (first second : Nat) (state : State) (bytes : Bytes) :
    absorb (first + second) state bytes =
      absorb second (absorb first state bytes) (bytes.drop (64 * first)) := by
  induction first generalizing state bytes with
  | zero => rw [Nat.zero_add, absorb, Nat.mul_zero, List.drop_zero]
  | succ first ih =>
      rw [Nat.add_right_comm, absorb, ih, absorb, List.drop_drop, Nat.mul_add_one,
        Nat.add_comm 64]

/-- What comes after the blocks does not matter for them. -/
theorem absorb_append {blocks : Nat} {bytes : Bytes} (enough : 64 * blocks ≤ bytes.length)
    (state : State) (more : Bytes) :
    absorb blocks state (bytes ++ more) = absorb blocks state bytes := by
  induction blocks generalizing state bytes with
  | zero => rfl
  | succ blocks ih =>
      have first : 64 ≤ bytes.length := by omega
      have others : 64 * blocks ≤ (bytes.drop 64).length := by
        rw [List.length_drop]
        omega
      rw [absorb, absorb, List.take_append_of_le_length first, List.drop_append_of_le_length first,
        ih others]

namespace Hasher

/-- A hasher that has been given a message, in whatever parts. -/
structure Holds (hasher : Hasher) (message : Bytes) : Prop where
  state_eq : hasher.state = absorb (message.length / 64) .initial message
  waiting_eq : hasher.waiting = message.drop (64 * (message.length / 64))
  length_eq : hasher.length = message.length

theorem holds_fresh : fresh.Holds [] where
  state_eq := rfl
  waiting_eq := rfl
  length_eq := rfl

namespace Holds

variable {hasher : Hasher} {message : Bytes} (holds : hasher.Holds message)
include holds

/-- The bytes that wait are what remains of the message after whole blocks. -/
theorem length_waiting : hasher.waiting.length = message.length % 64 := by
  rw [holds.waiting_eq, List.length_drop]
  omega

/-- **A hasher that is given more bytes holds the message with them.** -/
theorem update (bytes : Bytes) : (hasher.update bytes).Holds (message ++ bytes) := by
  have waiting_length := holds.length_waiting
  have whole : 64 * (message.length / 64) ≤ message.length := Nat.mul_div_le _ _
  have blocks : (message ++ bytes).length / 64 =
      message.length / 64 + (hasher.waiting ++ bytes).length / 64 := by
    simp only [List.length_append, waiting_length]
    omega
  have remaining : (message ++ bytes).drop (64 * (message.length / 64)) =
      hasher.waiting ++ bytes := by
    rw [List.drop_append_of_le_length whole, holds.waiting_eq]
  constructor
  · rw [blocks, absorb_add, absorb_append whole, remaining, ← holds.state_eq]
    rfl
  · rw [blocks, Nat.mul_add, ← List.drop_drop, remaining]
    rfl
  · rw [List.length_append, ← holds.length_eq]
    rfl

/-- **A hasher finishes with the hash of the message.** -/
theorem finish_eq : hasher.finish = hash message := by
  have whole : 64 * (message.length / 64) ≤ message.length := Nat.mul_div_le _ _
  have blocks : message.length / 64 + 1 + (message.length % 64 + 8) / 64 =
      message.length / 64 + (1 + (hasher.waiting.length + 8) / 64) := by
    rw [holds.length_waiting, Nat.add_assoc]
  rw [hash, blocks, absorb_add (message.length / 64), absorb_append whole,
    List.drop_append_of_le_length whole, ← holds.state_eq, ← holds.waiting_eq, ← holds.length_eq]
  rfl

end Holds

end Hasher

end Sha256

namespace Digest

/-- The digest of what a hasher holds is the digest of the message. -/
theorem ofHasher_of_holds {hasher : Sha256.Hasher} {message : Bytes}
    (holds : hasher.Holds message) : ofHasher hasher = ofContent message := by
  simp only [ofHasher, ofContent, holds.finish_eq]

end Digest

end ReplicaSync
