import ReplicaSync.Chunking.Scan
import ReplicaSync.Proofs.Chunking.Window
import ReplicaSync.Proofs.Chunking.Blocks

/-!
# Cutting what remains of a stream

The blocks of a stream can be had in one pass over it, without a scan that goes byte by byte: the
first block of what remains is its shortest prefix at whose end a block may end, or all of it if
there is none (`Limits.firstLength`), and the same goes for what remains then (`Limits.cut`).
Whether a block may end somewhere is a matter of its length and of the last bytes of the stream up
to there.

A scan has always passed over prefixes at which no block may end (`Scan.Opens`). A byte either
makes the open block longer or ends it, and it ends it exactly where the shortest such prefix ends.
So a scan closes the blocks that are cut (`Chunker.signature_eq_onePass`).
-/

set_option autoImplicit false

namespace ReplicaSync

/-! ## The cuts of a stream -/

namespace Limits

/-- Whether a block of the given length may end where a stream has gone as far as this. -/
def endsBlock (limits : Limits) (seen : Bytes) (length : Nat) : Bool :=
  limits.maximum.toNat ≤ length ||
    (limits.minimum.toNat ≤ length &&
      windowHash (seen.rtake windowSize) &&& (limits.average - 1) == 0)

/-- The length of the first block of what remains of a stream: of the shortest prefix that is not
empty and at whose end a block may end, or else of all that remains. -/
def firstLength (limits : Limits) (before rest : Bytes) : Nat :=
  ((List.range' 1 rest.length).find? fun length =>
    limits.endsBlock (before ++ rest.take length) length).getD rest.length

/-- The first block of what remains has bytes, unless nothing remains. -/
theorem firstLength_pos (limits : Limits) (before : Bytes) {rest : Bytes} (some_left : rest ≠ []) :
    0 < limits.firstLength before rest := by
  rw [firstLength]
  cases found : (List.range' 1 rest.length).find? fun length =>
      limits.endsBlock (before ++ rest.take length) length with
  | none => exact List.length_pos_of_ne_nil some_left
  | some length =>
      have member := List.mem_range'_1.mp (List.mem_of_find?_eq_some found)
      exact member.1

/-- The first block of what remains is part of it. -/
theorem firstLength_le (limits : Limits) (before rest : Bytes) :
    limits.firstLength before rest ≤ rest.length := by
  rw [firstLength]
  cases found : (List.range' 1 rest.length).find? fun length =>
      limits.endsBlock (before ++ rest.take length) length with
  | none => exact Nat.le_refl _
  | some length =>
      have member := List.mem_range'_1.mp (List.mem_of_find?_eq_some found)
      rw [Option.getD_some]
      omega

/-- No block may end within the first block of what remains. -/
theorem endsBlock_of_lt_firstLength {limits : Limits} {before rest : Bytes} {length : Nat}
    (positive : 0 < length) (shorter : length < limits.firstLength before rest) :
    limits.endsBlock (before ++ rest.take length) length = false := by
  have within := limits.firstLength_le before rest
  rw [firstLength] at shorter within
  cases found : (List.range' 1 rest.length).find? fun length =>
      limits.endsBlock (before ++ rest.take length) length with
  | none =>
      rw [found, Option.getD_none] at shorter
      simpa using List.find?_range'_eq_none.mp found length positive (by omega)
  | some last =>
      rw [found, Option.getD_some] at shorter
      simpa using (List.find?_range'_eq_some.mp found).2.2 length positive shorter

/-- Where more than the first block remains, a block may end behind it. -/
theorem endsBlock_firstLength {limits : Limits} {before rest : Bytes}
    (more : limits.firstLength before rest < rest.length) :
    limits.endsBlock (before ++ rest.take (limits.firstLength before rest))
      (limits.firstLength before rest) = true := by
  rw [firstLength] at more ⊢
  cases found : (List.range' 1 rest.length).find? fun length =>
      limits.endsBlock (before ++ rest.take length) length with
  | none =>
      rw [found, Option.getD_none] at more
      exact absurd more (Nat.lt_irrefl _)
  | some last => exact (List.find?_range'_eq_some.mp found).1

/-- The first block of what remains does not go beyond the maximum. -/
theorem firstLength_le_maximum {limits : Limits} (room : 0 < limits.maximum)
    (before rest : Bytes) : limits.firstLength before rest ≤ limits.maximum.toNat := by
  by_contra beyond
  have passed := endsBlock_of_lt_firstLength (UInt32.lt_iff_toNat_lt.mp room)
    (Nat.not_le.mp beyond)
  rw [endsBlock, decide_eq_true (Nat.le_refl _), Bool.true_or] at passed
  cases passed

/-- The blocks of what remains of a stream. -/
def cut (limits : Limits) (before rest : Bytes) : List Block :=
  if _some_left : rest ≠ [] then
    let block := rest.take (limits.firstLength before rest)
    ⟨.ofNat before.length, .ofNat block.length, .ofContent block⟩ ::
      cut limits (before ++ block) (rest.drop (limits.firstLength before rest))
  else []
  termination_by rest.length
  decreasing_by
    have positive := limits.firstLength_pos before _some_left
    have some_bytes := List.length_pos_of_ne_nil _some_left
    rw [List.length_drop]
    omega

section First

variable {limits : Limits} {before opened : Bytes}

/-- The shortest prefix at whose end a block may end is the first block. -/
theorem firstLength_of_ends (some_bytes : 0 < opened.length)
    (passed : ∀ length, 0 < length → length < opened.length →
      limits.endsBlock (before ++ opened.take length) length = false)
    (ends : limits.endsBlock (before ++ opened) opened.length = true) (rest : Bytes) :
    limits.firstLength before (opened ++ rest) = opened.length := by
  have found : (List.range' 1 (opened ++ rest).length).find? (fun length =>
      limits.endsBlock (before ++ (opened ++ rest).take length) length) = some opened.length := by
    refine List.find?_range'_eq_some.mpr ⟨?_, ?_, fun length positive shorter => ?_⟩
    · rw [List.take_left]
      exact ends
    · rw [List.mem_range'_1, List.length_append]
      omega
    · rw [List.take_append_of_le_length (Nat.le_of_lt shorter), passed length positive shorter]
      rfl
  rw [firstLength, found]
  rfl

/-- Where no block may end in what remains, all of it is the first block. -/
theorem firstLength_of_passed (passed : ∀ length, 0 < length → length ≤ opened.length →
      limits.endsBlock (before ++ opened.take length) length = false) :
    limits.firstLength before opened = opened.length := by
  have found : (List.range' 1 opened.length).find? (fun length =>
      limits.endsBlock (before ++ opened.take length) length) = none := by
    refine List.find?_range'_eq_none.mpr fun length positive within => ?_
    rw [passed length positive (by omega)]
    rfl
  rw [firstLength, found]
  rfl

/-- The blocks from a first block on. -/
theorem cut_of_firstLength {rest : Bytes} (some_bytes : 0 < opened.length)
    (first : limits.firstLength before (opened ++ rest) = opened.length) :
    limits.cut before (opened ++ rest) =
      ⟨.ofNat before.length, .ofNat opened.length, .ofContent opened⟩ ::
        limits.cut (before ++ opened) rest := by
  have some_left : opened ++ rest ≠ [] :=
    List.append_ne_nil_of_left_ne_nil (List.ne_nil_of_length_pos some_bytes) _
  rw [cut, dif_pos some_left, first, List.take_left, List.drop_left]

theorem cut_nil : limits.cut before [] = [] := by
  rw [cut, dif_neg (not_not_intro rfl)]

/-- Bytes within which no block may end are one block. -/
theorem cut_of_passed (some_bytes : 0 < opened.length)
    (passed : ∀ length, 0 < length → length ≤ opened.length →
      limits.endsBlock (before ++ opened.take length) length = false) :
    limits.cut before opened =
      [⟨.ofNat before.length, .ofNat opened.length, .ofContent opened⟩] := by
  have first : limits.firstLength before (opened ++ []) = opened.length := by
    rw [List.append_nil]
    exact firstLength_of_passed passed
  have blocks := cut_of_firstLength some_bytes first
  rwa [List.append_nil, cut_nil] at blocks

end First

/-- A word holds the length of the first block of what remains. -/
theorem toNat_length_first {limits : Limits} (room : 0 < limits.maximum) (before rest : Bytes) :
    (UInt32.ofNat (rest.take (limits.firstLength before rest)).length).toNat =
      limits.firstLength before rest := by
  have bounded := firstLength_le_maximum room before rest
  rw [List.length_take, Nat.min_eq_left (limits.firstLength_le before rest),
    UInt32.toNat_ofNat_of_lt' (Nat.lt_of_le_of_lt bounded limits.maximum.toNat_lt)]

/-- The blocks after some of those that are cut are the blocks of what then remains. -/
theorem cut_of_append {limits : Limits} (room : 0 < limits.maximum) {before rest : Bytes}
    {first later : List Block} (parts : limits.cut before rest = first ++ later) :
    ∃ passed remaining, rest = passed ++ remaining ∧
      passed.length = (first.map fun block => block.length.toNat).sum ∧
      later = limits.cut (before ++ passed) remaining := by
  induction first generalizing before rest with
  | nil => exact ⟨[], rest, rfl, rfl, by rw [List.append_nil, parts, List.nil_append]⟩
  | cons block more ih =>
      have some_left : rest ≠ [] := by
        rintro rfl
        rw [cut_nil] at parts
        cases parts
      rw [cut, dif_pos some_left, List.cons_append, List.cons.injEq] at parts
      obtain ⟨rfl, rest_parts⟩ := parts
      obtain ⟨passed, remaining, split, counted, blocks⟩ := ih rest_parts
      refine ⟨rest.take (limits.firstLength before rest) ++ passed, remaining, ?_, ?_, ?_⟩
      · rw [List.append_assoc, ← split, List.take_append_drop]
      · rw [List.length_append, List.map_cons, List.sum_cons, counted, toNat_length_first room,
          List.length_take, Nat.min_eq_left (limits.firstLength_le before rest)]
      · rw [← List.append_assoc]
        exact blocks

/-- The first block of bytes that go on is that of the bytes, if it lies within them. -/
theorem firstLength_left {limits : Limits} {before passed remaining : Bytes}
    (some_bytes : passed ≠ [])
    (within : limits.firstLength before (passed ++ remaining) ≤ passed.length) :
    limits.firstLength before passed = limits.firstLength before (passed ++ remaining) := by
  have positive := limits.firstLength_pos before
    (List.append_ne_nil_of_left_ne_nil some_bytes remaining)
  rcases Nat.lt_or_ge (limits.firstLength before (passed ++ remaining))
    (passed ++ remaining).length with more | whole
  · -- A block may end there, and nowhere before.
    have ends := endsBlock_firstLength more
    have skipped {length : Nat} :=
      @endsBlock_of_lt_firstLength limits before (passed ++ remaining) length
    generalize limits.firstLength before (passed ++ remaining) = length at *
    have taken : (passed.take length).length = length := by
      rw [List.length_take, Nat.min_eq_left within]
    rw [List.take_append_of_le_length within] at ends
    have first := @firstLength_of_ends limits before (passed.take length)
      (by omega) (fun shorter some_length inside => ?_) (by rwa [taken]) (passed.drop length)
    · rwa [List.take_append_drop, taken] at first
    · rw [taken] at inside
      have unended := skipped some_length inside
      rw [List.take_append_of_le_length (by omega)] at unended
      rwa [List.take_take, Nat.min_eq_left (Nat.le_of_lt inside)]
  · rw [List.length_append] at whole
    have nothing : remaining = [] := List.eq_nil_of_length_eq_zero (by omega)
    rw [nothing, List.append_nil]

/-- Some of the blocks that are cut are the blocks of the bytes that they cover. -/
theorem cut_left {limits : Limits} (room : 0 < limits.maximum) {before passed remaining : Bytes}
    {earlier later : List Block}
    (parts : limits.cut before (passed ++ remaining) = earlier ++ later)
    (counted : passed.length = (earlier.map fun block => block.length.toNat).sum) :
    limits.cut before passed = earlier := by
  induction earlier generalizing before passed with
  | nil => rw [List.eq_nil_of_length_eq_zero counted, cut_nil]
  | cons block more ih =>
      have some_left : passed ++ remaining ≠ [] := by
        intro nothing
        rw [nothing, cut_nil] at parts
        cases parts
      have positive := limits.firstLength_pos before some_left
      have first := toNat_length_first room before (passed ++ remaining)
      rw [cut, dif_pos some_left, List.cons_append, List.cons.injEq] at parts
      obtain ⟨rfl, rest_parts⟩ := parts
      rw [List.map_cons, List.sum_cons, first] at counted
      have within : limits.firstLength before (passed ++ remaining) ≤ passed.length := by omega
      have some_bytes : passed ≠ [] := List.ne_nil_of_length_pos (by omega)
      rw [List.take_append_of_le_length within] at rest_parts ⊢
      rw [List.drop_append_of_le_length within] at rest_parts
      have rest_counted : (passed.drop (limits.firstLength before (passed ++ remaining))).length =
          (more.map fun block => block.length.toNat).sum := by
        rw [List.length_drop]
        omega
      rw [cut, dif_pos some_bytes, firstLength_left some_bytes within]
      exact congrArg _ (ih rest_parts rest_counted)

end Limits

/-- The signature that one pass over a byte string gives. -/
def Chunker.onePass (chunker : Chunker) (content : Bytes) : Signature :=
  ⟨chunker.limits.cut [] content, .ofNat content.length⟩

/-! ## The scan of a stream -/

namespace Scan

/-- A scan that has gone over some bytes since the last cut and found no place in them where a
block may end. -/
structure Opens (limits : Limits) (scan : Scan) (before opened : Bytes) : Prop where
  tracks : scan.hash.Tracks (before ++ opened)
  pending_eq : scan.pending.reverse = opened
  length_eq : scan.length.toNat = opened.length
  start_eq : scan.start = .ofNat before.length
  short : opened.length < limits.maximum.toNat
  passed : ∀ length, 0 < length → length ≤ opened.length →
    limits.endsBlock (before ++ opened.take length) length = false

theorem opens_nil {limits : Limits} (room : 0 < limits.maximum) : Opens limits {} [] [] where
  tracks := RollingHash.tracks_fresh
  pending_eq := rfl
  length_eq := rfl
  start_eq := rfl
  short := UInt32.lt_iff_toNat_lt.mp room
  passed _ positive none := absurd positive (Nat.not_lt.mpr none)

namespace Opens

variable {limits : Limits} {scan : Scan} {before opened : Bytes}
variable (opens : scan.Opens limits before opened)
include opens

/-- The length of the open block and one more byte is a word. -/
theorem toNat_length_add_one : (scan.length + 1).toNat = opened.length + 1 := by
  have below := limits.maximum.toNat_lt
  have short := opens.short
  have counted := opens.length_eq
  rw [Words.toNat_add32 (by simp only [UInt32.toNat_one, UInt32.size]; omega), counted]
  rfl

/-- A scan cuts after a byte where the block may end there. -/
theorem cuts_eq (byte : UInt8) :
    limits.cuts (scan.hash.roll byte).value (scan.length + 1) =
      limits.endsBlock (before ++ (opened ++ [byte])) (opened.length + 1) := by
  have value := (opens.tracks.roll byte).value_eq
  rw [List.append_assoc] at value
  have longer := opens.toNat_length_add_one
  simp only [Limits.cuts, Limits.endsBlock, Limits.mask, value, UInt32.le_iff_toNat_le, longer]

/-- A byte at which the block may not end goes into the open block. -/
theorem step_of_passed {byte : UInt8}
    (uncut : limits.endsBlock (before ++ (opened ++ [byte])) (opened.length + 1) = false) :
    (scan.step limits byte).Opens limits before (opened ++ [byte]) ∧
      (scan.step limits byte).closed = scan.closed := by
  have keeps : limits.cuts (scan.hash.roll byte).value (scan.length + 1) = false :=
    (opens.cuts_eq byte).trans uncut
  rw [step]
  dsimp only
  rw [keeps, if_neg Bool.false_ne_true]
  refine ⟨⟨?_, ?_, ?_, opens.start_eq, ?_, ?_⟩, rfl⟩
  · rw [← List.append_assoc]
    exact opens.tracks.roll byte
  · rw [List.reverse_cons, opens.pending_eq]
  · rw [opens.toNat_length_add_one, List.length_append, List.length_singleton]
  · rw [List.length_append, List.length_singleton]
    simp only [Limits.endsBlock, Bool.or_eq_false_iff, decide_eq_false_iff_not] at uncut
    exact Nat.not_le.mp uncut.1
  · intro length positive within
    rw [List.length_append, List.length_singleton] at within
    rcases Nat.lt_or_ge opened.length length with whole | part
    · obtain rfl : length = opened.length + 1 := by omega
      rw [List.take_of_length_le (by simp)]
      exact uncut
    · rw [List.take_append_of_le_length part]
      exact opens.passed length positive part

/-- A byte at which the block may end closes it. -/
theorem step_of_ends {byte : UInt8}
    (ends : limits.endsBlock (before ++ (opened ++ [byte])) (opened.length + 1) = true) :
    (scan.step limits byte).Opens limits (before ++ (opened ++ [byte])) [] ∧
      (scan.step limits byte).closed =
        ⟨.ofNat before.length, .ofNat (opened ++ [byte]).length, .ofContent (opened ++ [byte])⟩ ::
          scan.closed := by
  have closes : limits.cuts (scan.hash.roll byte).value (scan.length + 1) = true :=
    (opens.cuts_eq byte).trans ends
  have longer := opens.toNat_length_add_one
  rw [step]
  dsimp only
  rw [closes, if_pos rfl]
  refine ⟨⟨?_, rfl, rfl, ?_, ?_, ?_⟩, ?_⟩
  · rw [List.append_nil, ← List.append_assoc]
    exact opens.tracks.roll byte
  · simp only [close, opens.start_eq]
    rw [← UInt64.ofNat_uInt32ToNat, longer, ← UInt64.ofNat_add]
    simp only [List.length_append, List.length_singleton]
  · exact Nat.lt_of_le_of_lt (Nat.zero_le _) opens.short
  · exact fun length positive none => absurd positive (Nat.not_lt.mpr none)
  · simp only [close, opens.start_eq, List.reverse_cons, opens.pending_eq]
    rw [List.length_append, List.length_singleton, ← longer, UInt32.ofNat_toNat]

/-- A scan has an open block if it has bytes open. -/
theorem length_pos_iff : 0 < scan.length ↔ 0 < opened.length := by
  rw [UInt32.lt_iff_toNat_lt, opens.length_eq]
  rfl

/-- At the end of the stream the open block is cut off as a whole. -/
theorem finish_eq : scan.finish =
    ⟨scan.closed.reverse ++ limits.cut before opened, .ofNat (before ++ opened).length⟩ := by
  have counted := opens.length_eq
  rw [finish]
  by_cases some_bytes : 0 < opened.length
  · rw [if_pos (opens.length_pos_iff.mpr some_bytes), Limits.cut_of_passed some_bytes opens.passed]
    simp only [close, List.reverse_cons, opens.start_eq, opens.pending_eq]
    rw [← UInt64.ofNat_uInt32ToNat, counted, ← UInt64.ofNat_add, List.length_append, ← counted,
      UInt32.ofNat_toNat]
  · have no_bytes : opened = [] := List.eq_nil_of_length_eq_zero (by omega)
    rw [if_neg (some_bytes ∘ opens.length_pos_iff.mp), no_bytes, Limits.cut_nil, List.append_nil,
      List.append_nil]
    exact congrArg (Signature.mk scan.closed.reverse) opens.start_eq

/-- Where a byte ends the open block, that is the first block of what remained. -/
theorem firstLength_of_ends {byte : UInt8}
    (ends : limits.endsBlock (before ++ (opened ++ [byte])) (opened.length + 1) = true)
    (rest : Bytes) :
    limits.firstLength before (opened ++ [byte] ++ rest) = (opened ++ [byte]).length := by
  have counted : (opened ++ [byte]).length = opened.length + 1 := by
    rw [List.length_append, List.length_singleton]
  refine Limits.firstLength_of_ends (by omega) (fun length positive shorter => ?_)
    (by rw [counted]; exact ends) rest
  rw [List.take_append_of_le_length (by omega)]
  exact opens.passed length positive (by omega)

/-- A scan that goes on has some of the bytes behind it and the others open. -/
theorem exists_opens_feed (rest : Bytes) :
    ∃ passed remaining, before ++ opened ++ rest = passed ++ remaining ∧
      (scan.feed limits rest).Opens limits passed remaining := by
  induction rest generalizing scan before opened with
  | nil => exact ⟨before, opened, List.append_nil _, opens⟩
  | cons byte rest ih =>
      have split : before ++ opened ++ byte :: rest = before ++ (opened ++ [byte]) ++ rest := by
        simp only [List.append_assoc, List.cons_append, List.nil_append]
      rw [split, feed, List.foldl_cons, ← feed]
      cases ends : limits.endsBlock (before ++ (opened ++ [byte])) (opened.length + 1) with
      | false => exact ih (opens.step_of_passed ends).1
      | true =>
          obtain ⟨passed, remaining, parts, later⟩ := ih (opens.step_of_ends ends).1
          exact ⟨passed, remaining, by rw [← parts, List.append_nil], later⟩

/-- **A scan that goes on to the end of the stream closes the blocks that are cut of what it has
open and what comes.** -/
theorem finish_feed (rest : Bytes) : (scan.feed limits rest).finish =
    ⟨scan.closed.reverse ++ limits.cut before (opened ++ rest),
      .ofNat (before ++ opened ++ rest).length⟩ := by
  induction rest generalizing scan before opened with
  | nil =>
      rw [List.append_nil, List.append_nil]
      exact opens.finish_eq
  | cons byte rest ih =>
      have split : opened ++ byte :: rest = opened ++ [byte] ++ rest := by
        rw [List.append_assoc]
        rfl
      rw [feed, List.foldl_cons, split]
      cases ends : limits.endsBlock (before ++ (opened ++ [byte])) (opened.length + 1) with
      | false =>
          obtain ⟨longer, closed⟩ := opens.step_of_passed ends
          rw [← feed, ih longer, closed]
          simp only [List.append_assoc, List.cons_append, List.nil_append]
      | true =>
          obtain ⟨fresh, closed⟩ := opens.step_of_ends ends
          have some_bytes : 0 < (opened ++ [byte]).length := by
            rw [List.length_append, List.length_singleton]
            exact Nat.succ_pos _
          rw [← feed, ih fresh, closed,
            Limits.cut_of_firstLength some_bytes (opens.firstLength_of_ends ends rest)]
          simp only [List.reverse_cons, List.append_assoc, List.cons_append, List.nil_append]

end Opens

end Scan

/-- **A scan closes the blocks that one pass over the stream cuts.** -/
theorem Chunker.signature_eq_onePass (chunker : Chunker) (content : Bytes) :
    chunker.signature content = chunker.onePass content :=
  (Scan.opens_nil (Limits.maximum_pos chunker.accepted)).finish_feed content

end ReplicaSync
