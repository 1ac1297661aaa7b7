import ReplicaSync.Proofs.Chunking.Reading
import ReplicaSync.Proofs.Signature.Tiling
import ReplicaSync.Proofs.Words

/-!
# The blocks of a scan

A scan keeps account of everything it has seen: the closed blocks tile the stream up to where
the open block begins, they have the digests of their contents, and the bytes of the open block
are the rest (`Scan.Covers`). Every byte keeps this up, since no block grows beyond the maximum.
So the signature at the end of a stream describes it (`Chunker.signature_describes`), and so
does whatever `Chunker.generate` makes of reads that succeed (`Chunker.generate_describes`).
-/

set_option autoImplicit false

namespace ReplicaSync

namespace Scan

/-- What a scan has found out about the bytes seen so far. -/
structure Covers (scan : Scan) (seen : Bytes) : Prop where
  length_eq : scan.start.toNat + scan.length.toNat = seen.length
  pending_eq : scan.pending.reverse = seen.range scan.start.toNat scan.length.toNat
  tiles : Signature.Tiles scan.start.toNat 0 scan.closed.reverse
  checksum_eq : ∀ block ∈ scan.closed, block.checksum = .ofContent (block.content seen)

/-- A fresh scan has seen nothing. -/
theorem covers_nil : Covers {} [] where
  length_eq := rfl
  pending_eq := rfl
  tiles := rfl
  checksum_eq _ member := nomatch member

namespace Covers

variable {scan : Scan} {seen : Bytes} (covers : scan.Covers seen)
include covers

/-- A closed block lies within what has been seen. -/
theorem closed_within {block : Block} (member : block ∈ scan.closed) :
    block.offset.toNat + block.length.toNat ≤ seen.length := by
  have within := (covers.tiles.within (List.mem_reverse.mpr member)).2
  have := covers.length_eq
  omega

/-- One more byte in the open block. -/
theorem grow (hash : RollingHash) (byte : UInt8)
    (room : scan.length.toNat + 1 < UInt32.size) :
    Covers { scan with hash, pending := byte :: scan.pending, length := scan.length + 1 }
      (seen ++ [byte]) := by
  have counted := covers.length_eq
  have longer : (scan.length + 1).toNat = scan.length.toNat + 1 := Words.toNat_add32 room
  refine ⟨?_, ?_, covers.tiles, fun block member => ?_⟩
  · simp only [longer, List.length_append, List.length_singleton]
    omega
  · have last : (seen ++ [byte]).range seen.length 1 = [byte] := by
      simp [Bytes.range]
    simp only [List.reverse_cons, longer, covers.pending_eq]
    rw [← Bytes.range_append_range, counted, last,
      Bytes.range_append_of_le _ _ _ _ (Nat.le_of_eq counted)]
  · rw [covers.checksum_eq block member, Block.content, Block.content,
      Bytes.range_append_of_le _ _ _ _ (covers.closed_within member)]

/-- The end of the open block, as long as the stream is shorter than the words can count. -/
theorem toNat_end (short : seen.length < UInt64.size) :
    (scan.start + scan.length.toUInt64).toNat = seen.length := by
  have counted := covers.length_eq
  rw [Words.toNat_add64 (counted ▸ short)]
  exact counted

/-- The open block is closed. -/
theorem close (open_block : 0 < scan.length.toNat) (short : seen.length < UInt64.size) :
    scan.close.Covers seen := by
  have reached := covers.toNat_end short
  refine ⟨?_, ?_, ?_, fun block member => ?_⟩
  · simpa [Scan.close] using reached
  · simp [Scan.close, Bytes.range]
  · simp only [Scan.close, List.reverse_cons, reached, ← covers.length_eq]
    exact covers.tiles.append ⟨rfl, open_block, rfl⟩
  · rcases List.mem_cons.mp member with rfl | earlier
    · exact congrArg Digest.ofContent covers.pending_eq
    · exact covers.checksum_eq block earlier

end Covers

/-- A byte keeps the account, and leaves the open block below the maximum. -/
theorem covers_step {limits : Limits} {scan : Scan} {seen : Bytes} (covers : scan.Covers seen)
    (below : scan.length < limits.maximum) (byte : UInt8)
    (short : seen.length + 1 < UInt64.size) :
    (scan.step limits byte).Covers (seen ++ [byte]) ∧
      (scan.step limits byte).length < limits.maximum := by
  have room : scan.length.toNat + 1 < UInt32.size :=
    Nat.lt_of_le_of_lt (UInt32.lt_iff_toNat_lt.mp below) limits.maximum.toNat_lt
  have grown := covers.grow (scan.hash.roll byte) byte room
  rw [step]
  split
  · refine ⟨grown.close ?_ (by simpa using short), ?_⟩
    · have longer : (scan.length + 1).toNat = scan.length.toNat + 1 := Words.toNat_add32 room
      exact longer ▸ Nat.succ_pos _
    · exact UInt32.lt_of_le_of_lt UInt32.zero_le below
  · next uncut =>
    refine ⟨grown, ?_⟩
    simp only [Limits.cuts, Bool.or_eq_true, decide_eq_true_eq, not_or] at uncut
    exact UInt32.not_le.mp uncut.1

/-- More bytes keep the account. -/
theorem covers_feed {limits : Limits} {scan : Scan} {seen : Bytes} (covers : scan.Covers seen)
    (below : scan.length < limits.maximum) (bytes : Bytes)
    (short : (seen ++ bytes).length < UInt64.size) :
    (scan.feed limits bytes).Covers (seen ++ bytes) ∧
      (scan.feed limits bytes).length < limits.maximum := by
  induction bytes generalizing scan seen with
  | nil => simpa [feed] using ⟨covers, below⟩
  | cons byte rest ih =>
      have shorter : seen.length + 1 < UInt64.size := by
        simp only [List.length_append, List.length_cons] at short
        omega
      obtain ⟨stepped, still_below⟩ := covers_step covers below byte shorter
      have fed := ih stepped still_below (by simpa using short)
      simpa [feed] using fed

/-- **At the end of the stream the signature describes what has been seen.** -/
theorem Covers.finish_describes {scan : Scan} {seen : Bytes} (covers : scan.Covers seen)
    (short : seen.length < UInt64.size) : scan.finish.Describes seen := by
  have closed : ∀ final : Scan, final.Covers seen → final.length = 0 →
      Signature.Describes ⟨final.closed.reverse, final.start⟩ seen := by
    intro final account empty
    have whole : final.start.toNat = seen.length := by simpa [empty] using account.length_eq
    refine Signature.describes_of_tiles whole (whole ▸ account.tiles) fun block member => ?_
    exact account.checksum_eq block (List.mem_reverse.mp member)
  rw [finish]
  split
  · next some_bytes => exact closed _ (covers.close some_bytes short) rfl
  · next none => exact closed _ covers (UInt32.le_zero_iff.mp (UInt32.not_lt.mp none))

end Scan

/-! ## Signatures of streams -/

namespace Limits

/-- Accepted limits are in order. -/
theorem in_order_of_check {limits : Limits} (accepted : limits.check = .ok ()) :
    0 < limits.minimum ∧ limits.minimum ≤ limits.average ∧ limits.average ≤ limits.maximum := by
  rw [check] at accepted
  split at accepted
  · cases accepted
  · next some_minimum =>
    split at accepted
    · cases accepted
    · split at accepted
      · cases accepted
      · next in_order =>
        simp only [gt_iff_lt, not_or, UInt32.not_lt] at in_order
        exact ⟨UInt32.pos_iff_ne_zero.mpr some_minimum, in_order⟩

/-- Accepted limits have a minimum that blocks can reach. -/
theorem minimum_le_maximum {limits : Limits} (accepted : limits.check = .ok ()) :
    limits.minimum ≤ limits.maximum := by
  obtain ⟨-, below, above⟩ := in_order_of_check accepted
  exact UInt32.le_trans below above

/-- Accepted limits leave room for a byte in every block. -/
theorem maximum_pos {limits : Limits} (accepted : limits.check = .ok ()) : 0 < limits.maximum :=
  UInt32.lt_of_lt_of_le (in_order_of_check accepted).1 (minimum_le_maximum accepted)

end Limits

namespace Chunker

/-- **The signature of a byte string describes it.** -/
theorem signature_describes (chunker : Chunker) (content : Bytes)
    (short : content.length < UInt64.size) : (chunker.signature content).Describes content := by
  have room : ({} : Scan).length < chunker.limits.maximum := Limits.maximum_pos chunker.accepted
  exact (Scan.covers_feed Scan.covers_nil room content short).1.finish_describes short

end Chunker

/-- The bytes that reads deliver before they end or fail. -/
def Read.delivered : List Read → Bytes
  | [] => []
  | .bytes [] :: _ => []
  | .bytes (first :: rest) :: reads => first :: rest ++ delivered reads
  | .interrupted :: reads => delivered reads
  | .failed _ :: _ => []

namespace Chunker

theorem generateFrom_eq_ok {limits : Limits} {draft : Draft} {scan : Scan} {buffer : Buffer}
    {reads : List Read} {signature : Signature} (follows : draft.Follows scan [])
    (made : generateFrom limits draft buffer reads = .ok signature) :
    signature = (scan.feed limits (Read.delivered reads)).finish := by
  fun_induction generateFrom limits draft buffer reads generalizing scan with
  | case1 | case2 => exact (Except.ok.inj made).symm.trans follows.finish_eq
  | case3 draft buffer first rest reads next filled delivered ih =>
      have later := follows.deliver limits buffer (first :: rest)
      rw [delivered] at later
      rw [ih later made, Read.delivered, Scan.feed_append]
  | case4 draft buffer reads ih => exact ih follows made
  | case5 => cases made

/-- What is generated from reads depends only on the bytes they deliver. -/
theorem generate_eq_ok {chunker : Chunker} {reads : List Read} {signature : Signature}
    (made : chunker.generate reads = .ok signature) :
    signature = chunker.signature (Read.delivered reads) :=
  generateFrom_eq_ok Draft.follows_fresh made

/-- **A generated signature describes the bytes that the reads deliver.** -/
theorem generate_describes {chunker : Chunker} {reads : List Read} {signature : Signature}
    (made : chunker.generate reads = .ok signature)
    (short : (Read.delivered reads).length < UInt64.size) :
    signature.Describes (Read.delivered reads) :=
  generate_eq_ok made ▸ chunker.signature_describes _ short

end Chunker

end ReplicaSync
