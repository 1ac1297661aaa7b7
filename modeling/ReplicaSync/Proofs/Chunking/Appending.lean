import ReplicaSync.Proofs.Chunking.Boundaries
import ReplicaSync.Proofs.Chunking.Resumption

/-!
# Streams that go on

A scan that has come to the end of a stream has closed some blocks and may have bytes open. When
the stream goes on instead, the closed blocks stay as they are, and what comes next goes on from the
open bytes (`Chunker.exists_closed`). So appending only adds blocks at the end: it can change the
last block alone, and that only where the end of the stream has cut it off.

Whether a block ends for its length or its content shows in the stream up to there. So two streams
that begin alike have the same blocks up to every such place in what they share, the last one of
them included (`Chunker.generate_of_appended`).
-/

set_option autoImplicit false

namespace ReplicaSync

/-- The blocks of a signature up to a place of the stream at which one of them ends for its length
or its content. -/
def Signature.BoundAt (limits : Limits) (stream : Bytes) (signature : Signature) (place : Nat)
    (earlier : List Block) : Prop :=
  (∃ later, signature.PartsAt place earlier later) ∧
    ∃ last, earlier.getLast? = some last ∧ limits.Closes (stream.take place) last

/-- The block that a scan has open ends neither for its length nor for its content. -/
theorem Scan.Opens.not_closes {limits : Limits} {scan : Scan} {before opened : Bytes}
    (opens : scan.Opens limits before opened) (some_bytes : 0 < opened.length) :
    ¬ limits.Closes (before ++ opened)
      ⟨.ofNat before.length, .ofNat opened.length, .ofContent opened⟩ := by
  intro closes
  have length : (UInt32.ofNat opened.length).toNat = opened.length :=
    UInt32.toNat_ofNat_of_lt' (Nat.lt_trans opens.short limits.maximum.toNat_lt)
  have bounded : UInt32.ofNat opened.length ≤ limits.maximum := by
    rw [UInt32.le_iff_toNat_le, length]
    exact Nat.le_of_lt opens.short
  have ends := (Limits.closes_iff bounded).mp closes
  have unended := opens.passed opened.length some_bytes (Nat.le_refl _)
  rw [List.take_length] at unended
  rw [length, unended] at ends
  cases ends

namespace Chunker

variable (chunker : Chunker)

/-- **The blocks that a scan has closed stay when the stream goes on.** At the end of the stream
they are all its blocks, or all but one that ends neither for its length nor for its content. -/
theorem exists_closed (content : Bytes) :
    ∃ closed : List Block, (∀ more, closed <+: (chunker.signature (content ++ more)).blocks) ∧
      ((chunker.signature content).blocks = closed ∨
        ∃ last, (chunker.signature content).blocks = closed ++ [last] ∧
          ¬ chunker.limits.Closes content last) := by
  obtain ⟨passed, opened, rfl, opens⟩ := chunker.exists_opens content
  refine ⟨(Scan.feed chunker.limits {} (passed ++ opened)).closed.reverse, fun more => ?_, ?_⟩
  · rw [signature, Scan.feed_append _ _ (passed ++ opened), opens.finish_feed]
    exact List.prefix_append _ _
  · rw [signature, opens.finish_eq]
    rcases eq_or_ne opened [] with rfl | some_bytes
    · left
      rw [Limits.cut_nil, List.append_nil]
    · right
      have positive := List.length_pos_of_ne_nil some_bytes
      exact ⟨_, congrArg _ (Limits.cut_of_passed positive opens.passed),
        opens.not_closes positive⟩

/-- All blocks of a stream but the last stay when it goes on. -/
theorem dropLast_prefix_signature (content more : Bytes) :
    (chunker.signature content).blocks.dropLast <+:
      (chunker.signature (content ++ more)).blocks := by
  obtain ⟨closed, stay, whole | ⟨last, whole, -⟩⟩ := chunker.exists_closed content
  · rw [whole]
    exact (List.dropLast_prefix closed).trans (stay more)
  · rw [whole, List.dropLast_concat]
    exact stay more

/-- All blocks of a stream stay when it goes on, if the last one ends for its length or its
content. -/
theorem prefix_signature_of_closes {content : Bytes} {last : Block}
    (is_last : (chunker.signature content).blocks.getLast? = some last)
    (closes : chunker.limits.Closes content last) (more : Bytes) :
    (chunker.signature content).blocks <+: (chunker.signature (content ++ more)).blocks := by
  obtain ⟨closed, stay, whole | ⟨other, whole, cut_off⟩⟩ := chunker.exists_closed content
  · rw [whole]
    exact stay more
  · rw [whole, List.getLast?_concat] at is_last
    obtain rfl := Option.some.inj is_last
    exact absurd closes cut_off

/-- Where a block ends for its length or its content, all blocks up to there are those of every
stream that is the same up to there. -/
theorem boundAt_of_take_eq {first second : Bytes} {place : Nat} {earlier : List Block}
    (same : first.take place = second.take place)
    (bound : (chunker.signature first).BoundAt chunker.limits first place earlier) :
    (chunker.signature second).BoundAt chunker.limits second place earlier := by
  have room := Limits.maximum_pos chunker.accepted
  obtain ⟨⟨later, parts⟩, last, is_last, closes⟩ := bound
  have blocks := parts.blocks_eq
  rw [signature_eq_onePass] at blocks
  obtain ⟨passed, remaining, rfl, counted, -⟩ := Limits.cut_of_append room blocks
  -- What both streams begin with has these blocks and no more, so they stay in the second one.
  have whole : (chunker.signature passed).blocks = earlier := by
    rw [signature_eq_onePass]
    exact Limits.cut_left room blocks counted
  have here : passed.length = place := counted.trans parts.place_eq
  rw [List.take_left' here] at same closes
  rw [← whole] at is_last
  have stays := chunker.prefix_signature_of_closes is_last closes (second.drop place)
  rw [whole, same, List.take_append_drop] at stays
  obtain ⟨others, goes_on⟩ := stays
  refine ⟨⟨others, goes_on.symm, parts.ends, parts.place_eq⟩, last, whole ▸ is_last, ?_⟩
  rwa [← same]

/-- **Appending only adds blocks at the end.** All blocks of a stream but the last are the first
blocks of every stream that goes on from it, and the last one is among them if it ends for its
length or its content. Two streams with the same first bytes have the same blocks up to the same
places in these, wherever a block ends for its length or its content, and so up to the last such
place. -/
theorem generate_of_appended :
    (∀ (content more : Bytes) (reads longer : List Read), Read.Delivers reads content →
      Read.Delivers longer (content ++ more) →
        ∃ before after, chunker.generate reads = .ok before ∧
          chunker.generate longer = .ok after ∧
          before.blocks.dropLast <+: after.blocks ∧
          ∀ last, before.blocks.getLast? = some last → chunker.limits.Closes content last →
            before.blocks <+: after.blocks) ∧
    ∀ (first second : Bytes) (first_reads second_reads : List Read) (count : Nat),
      Read.Delivers first_reads first → Read.Delivers second_reads second →
        first.take count = second.take count →
          ∃ left right, chunker.generate first_reads = .ok left ∧
            chunker.generate second_reads = .ok right ∧
            ∀ place ≤ count, ∀ earlier,
              left.BoundAt chunker.limits first place earlier ↔
                right.BoundAt chunker.limits second place earlier := by
  refine ⟨fun content more reads longer delivers longer_delivers => ?_,
    fun first second first_reads second_reads count first_delivers second_delivers same => ?_⟩
  · exact ⟨_, _, chunker.generate_of_delivers delivers,
      chunker.generate_of_delivers longer_delivers, chunker.dropLast_prefix_signature content more,
      fun last is_last closes => chunker.prefix_signature_of_closes is_last closes more⟩
  · refine ⟨_, _, chunker.generate_of_delivers first_delivers,
      chunker.generate_of_delivers second_delivers, fun place within earlier => ?_⟩
    have same_up_to : first.take place = second.take place := by
      rw [← Nat.min_eq_left within, ← List.take_take, ← List.take_take, same]
    exact ⟨chunker.boundAt_of_take_eq same_up_to, chunker.boundAt_of_take_eq same_up_to.symm⟩

/-- A stream ends where its second block does, so it keeps both blocks when it goes on. Then it ends
within its third block, which becomes longer when it goes on again. -/
theorem generate_of_appended_of_cut_off :
    ∃ (chunker : Chunker) (begun middle rest : Bytes) (short longer whole : Signature),
      chunker.limits = ⟨2, 4, 6⟩ ∧
      begun = [3, 1, 4, 1, 5, 9, 2, 6] ∧ middle = [5, 3, 5] ∧ rest = [8, 9, 7] ∧
      chunker.generate [.bytes begun, .bytes []] = .ok short ∧
      chunker.generate [.bytes begun, .bytes middle, .bytes []] = .ok longer ∧
      chunker.generate [.bytes (begun ++ middle), .bytes rest, .bytes []] = .ok whole ∧
      short.blocks.map Block.length = [4, 4] ∧ longer.blocks.map Block.length = [4, 4, 3] ∧
      whole.blocks.map Block.length = [4, 4, 5, 1] ∧
      short.blocks <+: longer.blocks ∧ longer.blocks.dropLast <+: whole.blocks ∧
      longer.BoundAt chunker.limits (begun ++ middle) 8 short.blocks ∧
      whole.BoundAt chunker.limits (begun ++ middle ++ rest) 8 short.blocks := by
  let chunker : Chunker := ⟨⟨2, 4, 6⟩, rfl⟩
  let begun : Bytes := [3, 1, 4, 1, 5, 9, 2, 6]
  let middle : Bytes := [5, 3, 5]
  let rest : Bytes := [8, 9, 7]
  have begun_delivers : Read.Delivers [.bytes begun, .bytes []] begun :=
    ⟨[.bytes begun], [], rfl, by decide, rfl⟩
  have middle_delivers : Read.Delivers [.bytes begun, .bytes middle, .bytes []]
      (begun ++ middle) :=
    ⟨[.bytes begun, .bytes middle], [], rfl, by decide, rfl⟩
  have rest_delivers : Read.Delivers [.bytes (begun ++ middle), .bytes rest, .bytes []]
      (begun ++ middle ++ rest) :=
    ⟨[.bytes (begun ++ middle), .bytes rest], [], rfl, by decide, rfl⟩
  obtain ⟨appended, agreeing⟩ := chunker.generate_of_appended
  obtain ⟨short, longer, short_made, longer_made, -, kept⟩ :=
    appended begun middle _ _ begun_delivers middle_delivers
  obtain ⟨_, whole, again, whole_made, stays, -⟩ :=
    appended (begun ++ middle) rest _ _ middle_delivers rest_delivers
  obtain rfl := Except.ok.inj (longer_made.symm.trans again)
  obtain ⟨_, _, left_made, right_made, bounds⟩ := agreeing (begun ++ middle)
    (begun ++ middle ++ rest) _ _ 11 middle_delivers rest_delivers rfl
  obtain rfl := Except.ok.inj (longer_made.symm.trans left_made)
  obtain rfl := Except.ok.inj (whole_made.symm.trans right_made)
  have short_eq : chunker.signature begun = short :=
    Except.ok.inj ((chunker.generate_of_delivers begun_delivers).symm.trans short_made)
  have longer_eq : chunker.signature (begun ++ middle) = longer :=
    Except.ok.inj ((chunker.generate_of_delivers middle_delivers).symm.trans longer_made)
  have whole_eq : chunker.signature (begun ++ middle ++ rest) = whole :=
    Except.ok.inj ((chunker.generate_of_delivers rest_delivers).symm.trans whole_made)
  have short_lengths : short.blocks.map Block.length = [4, 4] := by
    rw [← short_eq]
    decide +kernel
  obtain ⟨last, is_last, closes⟩ : ∃ last, short.blocks.getLast? = some last ∧
      chunker.limits.Closes begun last := by
    have last_length : short.blocks.getLast?.map Block.length = some 4 := by
      rw [← List.getLast?_map, short_lengths]
      rfl
    obtain ⟨last, is_last, length⟩ := Option.map_eq_some_iff.mp last_length
    refine ⟨last, is_last, .inr ⟨by rw [length]; decide, ?_⟩⟩
    rw [Limits.Clear]
    decide +kernel
  have begins := kept last is_last closes
  have bound : longer.BoundAt chunker.limits (begun ++ middle) 8 short.blocks := by
    obtain ⟨later, split⟩ := begins
    refine ⟨⟨later, split.symm, ?_, ?_⟩, last, is_last, closes⟩
    · intro nothing
      rw [nothing] at is_last
      cases is_last
    · have summed := congrArg (fun lengths => (lengths.map UInt32.toNat).sum) short_lengths
      rwa [List.map_map] at summed
  refine ⟨chunker, begun, middle, rest, short, longer, whole, rfl, rfl, rfl, rfl, short_made,
    longer_made, whole_made, short_lengths, ?_, ?_, begins, stays, bound,
    (bounds 8 (by decide) short.blocks).mp bound⟩
  · rw [← longer_eq]
    decide +kernel
  · rw [← whole_eq]
    decide +kernel

end Chunker

end ReplicaSync
