import ReplicaSync.Proofs.Chunking.Cuts
import ReplicaSync.Proofs.Signature.StoredForm

/-!
# How much a stored form can hold

The header of a stored form has 32 bits for the length of the payload, and a payload takes 44 bytes
for every block. Encoding takes any signature, but only those whose payload fits the header are got
back (`Signature.decode_encode_iff`). The others have a shorter length in the header than their
payload has, so that they are refused.

A stream that is cut into single bytes shows where the line is: 97612892 blocks are got back, and
one more is too many.
-/

set_option autoImplicit false

namespace ReplicaSync

namespace Limits

/-- Where blocks have a single byte, there are as many blocks as bytes. -/
theorem length_cut_of_maximum_eq_one {limits : Limits} (one : limits.maximum = 1)
    (before rest : Bytes) : (limits.cut before rest).length = rest.length := by
  have room : 0 < limits.maximum := one ▸ UInt32.zero_lt_one
  induction rest generalizing before with
  | nil => rw [cut_nil, List.length_nil, List.length_nil]
  | cons byte more ih =>
      have positive := limits.firstLength_pos before (List.cons_ne_nil byte more)
      have bounded := firstLength_le_maximum room before (byte :: more)
      rw [one, UInt32.toNat_one] at bounded
      have first : limits.firstLength before ([byte] ++ more) = [byte].length :=
        Nat.le_antisymm bounded positive
      have some_bytes : 0 < [byte].length := Nat.one_pos
      rw [← List.singleton_append, cut_of_firstLength some_bytes first, List.length_cons, ih,
        List.length_append, List.length_singleton, Nat.add_comm]

end Limits

namespace Signature

/-- **A signature is got back exactly if its payload is shorter than 32 bits can count.** Otherwise
what is stored is refused, since the header has only the lowest 32 bits of the length. -/
theorem decode_encode_iff (compression : Compression) {signature : Signature}
    (accepted : signature.check = .ok ()) :
    (decode compression (signature.encode compression) = .ok signature ↔
      44 * signature.blocks.length + 16 < UInt32.size) ∧
    (UInt32.size ≤ 44 * signature.blocks.length + 16 →
      decode compression (signature.encode compression) =
        .error (.encoding (.payloadLength (44 * signature.blocks.length + 16)
          ((44 * signature.blocks.length + 16) % UInt32.size)))) := by
  rw [← length_payload]
  have fails (long : UInt32.size ≤ signature.payload.length) :=
    decode_of_refused (refused_encode compression long)
  refine ⟨⟨fun back => ?_, fun fits => ?_⟩, fails⟩
  · refine Nat.not_le.mp fun long => ?_
    rw [fails long] at back
    cases back
  · exact decode_of_storedForm
      ⟨signature.payload, holds_encode compression fits, List.prefix_refl _, accepted⟩

/-- The signature of so many zero bytes, cut into single bytes. -/
def ofSingleBytes (count : Nat) : Signature :=
  Chunker.signature ⟨⟨1, 1, 1⟩, rfl⟩ (List.replicate count 0)

theorem check_ofSingleBytes {count : Nat} (short : count < UInt64.size) :
    (ofSingleBytes count).check = .ok () := by
  refine (Chunker.signature_describes _ (List.replicate count 0) ?_).accepted
  rwa [List.length_replicate]

theorem length_blocks_ofSingleBytes (count : Nat) :
    (ofSingleBytes count).blocks.length = count := by
  rw [ofSingleBytes, Chunker.signature_eq_onePass, Chunker.onePass,
    Limits.length_cut_of_maximum_eq_one rfl, List.length_replicate]

/-- So many blocks just fit, whatever the compression. -/
theorem decode_encode_iff_of_full :
    (ofSingleBytes 97612892).check = .ok () ∧ ∀ compression : Compression,
      decode compression ((ofSingleBytes 97612892).encode compression) =
        .ok (ofSingleBytes 97612892) := by
  have accepted : (ofSingleBytes 97612892).check = .ok () := check_ofSingleBytes (by decide)
  refine ⟨accepted, fun compression => (decode_encode_iff compression accepted).1.mpr ?_⟩
  rw [length_blocks_ofSingleBytes]
  decide

/-- With one block more, a signature that tiles its stream is not got back: its header says that the
payload has 12 bytes. -/
theorem not_decode_encode_of_one_more :
    (ofSingleBytes 97612893).check = .ok () ∧ ∀ compression : Compression,
      decode compression ((ofSingleBytes 97612893).encode compression) =
        .error (.encoding (.payloadLength 4294967308 12)) := by
  have long : UInt32.size ≤ (ofSingleBytes 97612893).payload.length := by
    rw [length_payload, length_blocks_ofSingleBytes]
    decide
  refine ⟨check_ofSingleBytes (by decide), fun compression => ?_⟩
  have refused := decode_of_refused (refused_encode compression long)
  rw [length_payload, length_blocks_ofSingleBytes] at refused
  exact refused

end Signature

end ReplicaSync
