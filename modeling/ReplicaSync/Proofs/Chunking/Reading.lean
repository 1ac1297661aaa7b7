import ReplicaSync.Chunking.Generate
import ReplicaSync.Proofs.Digest.Parts

/-!
# Reading through a buffer

A signature in the making keeps no bytes from one read to the next. A pass over the buffer hands the
bytes of a block to the hasher in segments, wherever the reads have cut it. It goes along with a
scan, which has all bytes of the open block at hand: the bytes that the hasher holds and the segment
that it has not got yet are together the open block (`Draft.Follows`).

Every byte keeps this up, whether it ends a block or not (`Pass.Follows.step`), and so does a pass
over many of them (`Pass.Follows.advance`). After a read no segment is left (`Draft.Follows.read`).
So a stream that is read through a buffer ends with the signature that a scan of its bytes ends with
(`Draft.Follows.finish_eq`).
-/

set_option autoImplicit false

namespace ReplicaSync

/-! ## The buffer -/

namespace Buffer

/-- Some bytes overwrite as many from a place on, and leave the others. -/
theorem toList_fill (buffer : Buffer) {place : Nat} {bytes : Bytes}
    (fits : place + bytes.length ≤ Reader.bufferSize) :
    (buffer.fill place bytes).toList =
      buffer.toList.take place ++ bytes ++ buffer.toList.drop (place + bytes.length) := by
  induction bytes generalizing buffer place with
  | nil => rw [fill, List.append_nil, List.length_nil, Nat.add_zero, List.take_append_drop]
  | cons byte rest ih =>
      rw [List.length_cons] at fits ⊢
      have inside : place < buffer.toList.length := by
        rw [Vector.length_toList]
        omega
      have behind : place + (rest.length + 1) = place + 1 + rest.length := by omega
      rw [fill, ih _ (by omega), Vector.toList_setIfInBounds, Bytes.take_set_succ _ inside,
        List.drop_set_of_lt (by omega), behind, List.append_assoc _ [byte], List.singleton_append]

/-- What has been read is found in the front of the buffer. -/
theorem toList_front_fill (buffer : Buffer) {bytes : Bytes}
    (fits : bytes.length ≤ Reader.bufferSize) :
    ((buffer.fill 0 bytes).front bytes.length).toList = bytes := by
  rw [front, Array.toList_extract, Vector.toList_toArray, toList_fill _ (by omega), List.take_zero,
    List.nil_append, List.extract_eq_take_drop, List.drop_zero, Nat.sub_zero, List.take_left]

end Buffer

/-! ## Going along with a scan -/

/-- A signature in the making goes along with a scan. The hasher holds the bytes of the open block
but for a segment at their end, which it has not got yet. -/
structure Draft.Follows (draft : Draft) (scan : Scan) (segment : Bytes) : Prop where
  hash_eq : draft.hash = scan.hash
  start_eq : draft.start = scan.start
  length_eq : draft.length = scan.length
  closed_eq : draft.closed = scan.closed
  pending_eq : ∃ hashed, draft.hasher.Holds hashed ∧ scan.pending.reverse = hashed ++ segment

/-- A pass goes along with a scan. What the hasher has not got yet are the bytes passed in this
segment. -/
structure Pass.Follows (data : Array UInt8) (pass : Pass) (scan : Scan) : Prop where
  draft : pass.toDraft.Follows scan (data.extract pass.segment pass.index).toList
  segment_le : pass.segment ≤ pass.index

namespace Draft

theorem follows_fresh : Draft.Follows {} {} [] where
  hash_eq := rfl
  start_eq := rfl
  length_eq := rfl
  closed_eq := rfl
  pending_eq := ⟨[], Sha256.Hasher.holds_fresh, rfl⟩

namespace Follows

variable {draft : Draft} {scan : Scan} {segment : Bytes} (follows : draft.Follows scan segment)
include follows

/-- The hasher that gets the segment holds the open block. -/
theorem holds_update : (draft.hasher.update segment).Holds scan.pending.reverse := by
  obtain ⟨hashed, holds, pending⟩ := follows.pending_eq
  rw [pending]
  exact holds.update segment

/-- When the hasher has got the segment, none is left. -/
theorem flush : ({ draft with hasher := draft.hasher.update segment } : Draft).Follows scan [] where
  hash_eq := follows.hash_eq
  start_eq := follows.start_eq
  length_eq := follows.length_eq
  closed_eq := follows.closed_eq
  pending_eq := ⟨_, follows.holds_update, (List.append_nil _).symm⟩

/-- One more byte is not with the hasher yet. -/
theorem grow (byte : UInt8) :
    Draft.Follows { draft with hash := draft.hash.roll byte, length := draft.length + 1 }
      { scan with
        hash := scan.hash.roll byte
        pending := byte :: scan.pending
        length := scan.length + 1 }
      (segment ++ [byte]) where
  hash_eq := congrArg (fun hash => RollingHash.roll hash byte) follows.hash_eq
  start_eq := follows.start_eq
  length_eq := congrArg (· + 1) follows.length_eq
  closed_eq := follows.closed_eq
  pending_eq := by
    obtain ⟨hashed, holds, pending⟩ := follows.pending_eq
    exact ⟨hashed, holds, by rw [List.reverse_cons, pending, List.append_assoc]⟩

/-- When the hasher has got the segment, it gives the digest with which the block is closed. The
next block begins with a fresh hasher. -/
theorem close :
    Draft.Follows
      { draft with
        hasher := .fresh
        start := draft.start + draft.length.toUInt64
        length := 0
        closed := ⟨draft.start, draft.length, .ofHasher (draft.hasher.update segment)⟩ ::
          draft.closed }
      scan.close [] where
  hash_eq := follows.hash_eq
  start_eq := by simp only [Scan.close, follows.start_eq, follows.length_eq]
  length_eq := rfl
  closed_eq := by
    simp only [Scan.close, follows.start_eq, follows.length_eq, follows.closed_eq,
      Digest.ofHasher_of_holds follows.holds_update]
  pending_eq := ⟨[], Sha256.Hasher.holds_fresh, rfl⟩

end Follows

end Draft

namespace Pass

variable (limits : Limits) {data : Array UInt8} {pass : Pass} {scan : Scan}

/-- **A byte keeps the pass along with the scan**, whether it ends a block or not. -/
theorem Follows.step (follows : pass.Follows data scan) {byte : UInt8}
    (here : data[pass.index]? = some byte) :
    (pass.step limits data byte).Follows data (scan.step limits byte) := by
  obtain ⟨inside, rfl⟩ := Array.getElem?_eq_some_iff.mp here
  have longer : (data.extract pass.segment (pass.index + 1)).toList =
      (data.extract pass.segment pass.index).toList ++ [data[pass.index]] := by
    rw [Array.extract_succ_right (Nat.lt_succ_of_le follows.segment_le) inside, Array.toList_push]
  have grown := follows.draft.grow data[pass.index]
  rw [← longer] at grown
  rw [Pass.step, Scan.step]
  simp only [follows.draft.hash_eq, follows.draft.length_eq] at grown ⊢
  split
  · -- The block is closed with the segment up to here, and the next segment is empty.
    refine ⟨?_, Nat.le_refl _⟩
    rw [Array.extract_empty_of_stop_le_start (Nat.le_refl _)]
    exact grown.close
  · exact ⟨grown, Nat.le_succ_of_le follows.segment_le⟩

/-- **A pass over some of the data goes along with a scan of them.** -/
theorem Follows.advance (follows : pass.Follows data scan) {passed bytes rest : Bytes}
    (split : data.toList = passed ++ bytes ++ rest) (reached : pass.index = passed.length) :
    (pass.advance limits data bytes).Follows data (scan.feed limits bytes) ∧
      (pass.advance limits data bytes).index = (passed ++ bytes).length := by
  induction bytes generalizing pass scan passed with
  | nil => exact ⟨follows, by rw [List.append_nil, advance, List.foldl_nil, reached]⟩
  | cons byte bytes ih =>
      have here : data[pass.index]? = some byte := by
        rw [← Array.getElem?_toList, split, reached, List.append_assoc, List.cons_append,
          List.getElem?_append_right (Nat.le_refl _), Nat.sub_self, List.getElem?_cons_zero]
      have next_split : data.toList = passed ++ [byte] ++ bytes ++ rest := by
        rw [split, List.append_assoc passed [byte], List.singleton_append]
      have next_reached : (pass.step limits data byte).index = (passed ++ [byte]).length := by
        rw [Pass.step, List.length_append, List.length_singleton, ← reached]
        dsimp only
        split <;> rfl
      have later := ih (follows.step limits here) next_split next_reached
      rw [List.append_assoc, List.singleton_append] at later
      exact later

end Pass

namespace Draft.Follows

variable {draft : Draft} {scan : Scan} (follows : draft.Follows scan [])
include follows

/-- At the beginning of a pass, no segment has been passed. -/
theorem pass (data : Array UInt8) : Pass.Follows data { draft with } scan where
  draft := by
    rw [Array.toList_extract, List.extract_eq_take_drop, Nat.sub_self, List.take_zero]
    exact follows
  segment_le := Nat.le_refl 0

/-- **A read goes along with a scan of the bytes that it has brought.** -/
theorem read (limits : Limits) (data : Array UInt8) :
    (draft.read limits data).Follows (scan.feed limits data.toList) [] := by
  have all : data.toList = [] ++ data.toList ++ [] := (List.append_nil _).symm
  obtain ⟨along, reached⟩ := (follows.pass data).advance limits all rfl
  have whole := along.draft
  rw [reached, List.nil_append, Array.length_toList] at whole
  exact whole.flush

/-- Bytes that are read a buffer at a time are scanned one after the other. -/
theorem deliver (limits : Limits) (buffer : Buffer) (bytes : Bytes) :
    (draft.deliver limits buffer bytes).1.Follows (scan.feed limits bytes) [] := by
  fun_induction Draft.deliver limits draft buffer bytes generalizing scan with
  | case1 => exact follows
  | case2 draft buffer bytes _ brought filled =>
      next ih =>
      have fits : brought.length ≤ Reader.bufferSize := by
        rw [List.length_take]
        exact Nat.min_le_left _ _
      have first := follows.read limits (filled.front brought.length)
      rw [Buffer.toList_front_fill buffer fits] at first
      have later := ih first
      rw [← Scan.feed_append, List.take_append_drop] at later
      exact later

/-- **At the end of the stream the signature is that of the scan.** -/
theorem finish_eq : draft.finish = scan.finish := by
  obtain ⟨hashed, holds, pending⟩ := follows.pending_eq
  rw [List.append_nil] at pending
  have digest : Digest.ofHasher draft.hasher = .ofContent scan.pending.reverse :=
    pending ▸ Digest.ofHasher_of_holds holds
  rw [finish, Scan.finish, follows.length_eq]
  split
  · simp only [Scan.close, follows.start_eq, follows.closed_eq, digest]
  · rw [follows.start_eq, follows.closed_eq]

end Draft.Follows

end ReplicaSync
