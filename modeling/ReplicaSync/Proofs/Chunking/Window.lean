import Mathlib.Data.List.DropRight
import ReplicaSync.Chunking.RollingHash

/-!
# The rolling hash as a function of its window

The rolling hash is kept up to date byte by byte, yet it depends on nothing but the last bytes of
the stream. `windowHash` says how: it is the exclusive or of the marks of the bytes, each rotated
left by its age. A new byte rotates all marks in the window once more (`windowHash_concat`), and
the mark of the oldest byte of a full window, which by then has its whole rotation, cancels out
(`windowHash_slide`). The window is a ring in which a byte takes the place of the oldest one
(`Window.ring_put`). So after any stream the rolling hash is the hash of its last 48 bytes
(`RollingHash.Tracks.roll`).

Newest first, the place of a byte is its age, and the hash is the exclusive or of a plain list of
rotated marks (`agedMarks`). Streams that end in the same 48 bytes have the same hash, however they
go on (`RollingHash.value_of_window`).
-/

set_option autoImplicit false

namespace ReplicaSync

/-! ## Rotations -/

/-- A rotation moves every bit up, and those at the top round to the bottom. -/
theorem getLsbD_rotateLeft (word : UInt32) {amount index : Nat} (short : amount < 32)
    (below : index < 32) :
    (rotateLeft word (UInt32.ofNat amount)).toBitVec.getLsbD index =
      word.toBitVec.getLsbD ((index + (32 - amount)) % 32) := by
  have forth : (UInt32.ofNat amount).toNat = amount := by
    rw [UInt32.toNat_ofNat']
    exact Nat.mod_eq_of_lt (by omega)
  have within : UInt32.ofNat amount ≤ 32 := by
    rw [UInt32.le_iff_toNat_le, forth]
    exact Nat.le_of_lt short
  have back : (32 - UInt32.ofNat amount).toNat = 32 - amount := by
    rw [UInt32.toNat_sub_of_le _ _ within, forth]
    rfl
  have width : BitVec.toNat (32 : BitVec 32) = 32 := rfl
  simp only [rotateLeft, UInt32.toBitVec_or, UInt32.toBitVec_shiftLeft,
    UInt32.toBitVec_shiftRight, BitVec.getLsbD_or, BitVec.shiftLeft_eq', BitVec.ushiftRight_eq',
    BitVec.getLsbD_shiftLeft, BitVec.getLsbD_ushiftRight, BitVec.toNat_umod, UInt32.toNat_toBitVec,
    forth, back, width]
  by_cases low : index < amount
  · have round : (32 - amount) % 32 + index = (index + (32 - amount)) % 32 := by omega
    simp [low, round, Nat.mod_eq_of_lt short]
  · have up : index - amount = (index + (32 - amount)) % 32 := by omega
    by_cases still : amount = 0
    · simp [still, below, Nat.mod_eq_of_lt below]
    · have beyond : 32 ≤ (32 - amount) % 32 + index := by omega
      simp [low, below, up, Nat.mod_eq_of_lt short, BitVec.getLsbD_of_ge _ _ beyond]

/-- Words are equal if all their bits are. -/
theorem eq_of_getLsbD {left right : UInt32}
    (same : ∀ index < 32, left.toBitVec.getLsbD index = right.toBitVec.getLsbD index) :
    left = right :=
  UInt32.eq_of_toBitVec_eq (BitVec.eq_of_getLsbD_eq same)

/-- Rotating an exclusive or is rotating both sides. -/
theorem rotateLeft_xor (left right : UInt32) :
    rotateLeft (left ^^^ right) 1 = rotateLeft left 1 ^^^ rotateLeft right 1 := by
  apply eq_of_getLsbD
  intro index below
  have bits (word : UInt32) := getLsbD_rotateLeft word (show 1 < 32 by decide) below
  simp only [show (1 : UInt32) = UInt32.ofNat 1 from rfl, bits, UInt32.toBitVec_xor,
    BitVec.getLsbD_xor]

/-- Rotating once more. -/
theorem rotateLeft_rotateLeft (word : UInt32) (age : Nat) :
    rotateLeft (rotateLeft word (UInt32.ofNat (age % 32))) 1 =
      rotateLeft word (UInt32.ofNat ((age + 1) % 32)) := by
  have short (amount : Nat) : amount % 32 < 32 := Nat.mod_lt _ (by decide)
  apply eq_of_getLsbD
  intro index below
  rw [show (1 : UInt32) = UInt32.ofNat 1 from rfl, getLsbD_rotateLeft _ (by decide) below,
    getLsbD_rotateLeft _ (short _) (short _), getLsbD_rotateLeft _ (short _) below]
  congr 1
  omega

theorem rotateLeft_zero (word : UInt32) : rotateLeft word (UInt32.ofNat 0) = word := by
  apply eq_of_getLsbD
  intro index below
  rw [getLsbD_rotateLeft _ (by decide) below]
  congr 1
  omega

/-! ## The hash of a window -/

/-- The hash of the bytes in a window, oldest first: the exclusive or of the marks of the bytes,
each rotated left by the number of bytes after it. -/
def windowHash : Bytes → UInt32
  | [] => 0
  | byte :: newer =>
      rotateLeft (mark byte) (UInt32.ofNat (newer.length % 32)) ^^^ windowHash newer

/-- A new byte rotates the marks of all bytes before it once more. -/
theorem windowHash_concat (window : Bytes) (byte : UInt8) :
    windowHash (window ++ [byte]) = rotateLeft (windowHash window) 1 ^^^ mark byte := by
  induction window with
  | nil =>
      have nothing : rotateLeft 0 1 = 0 := rfl
      simp only [List.nil_append, windowHash, nothing, UInt32.xor_zero, UInt32.zero_xor]
      exact rotateLeft_zero (mark byte)
  | cons oldest newer ih =>
      rw [List.cons_append, windowHash, windowHash, rotateLeft_xor, rotateLeft_rotateLeft, ih,
        List.length_append, List.length_singleton, UInt32.xor_assoc]

/-- The mark of the oldest byte of a full window cancels out: when one more byte has come, it has
been rotated once for each byte of the window. -/
theorem windowHash_slide {oldest : UInt8} {newer : Bytes}
    (full : (oldest :: newer).length = windowSize) (byte : UInt8) :
    rotateLeft (windowHash (oldest :: newer)) 1 ^^^ mark byte ^^^
        rotateLeft (mark oldest) windowRotation =
      windowHash (newer ++ [byte]) := by
  have whole : (newer ++ [byte]).length = windowSize := by
    rw [List.length_append, List.length_singleton, ← full, List.length_cons]
  have aged : rotateLeft (windowHash (oldest :: newer)) 1 ^^^ mark byte =
      rotateLeft (mark oldest) windowRotation ^^^ windowHash (newer ++ [byte]) := by
    rw [← windowHash_concat, List.cons_append, windowHash, whole, windowRotation]
  rw [aged, UInt32.xor_comm, ← UInt32.xor_assoc, UInt32.xor_self, UInt32.zero_xor]

/-! ## Marks by age -/

/-- The marks of the last bytes of a stream, newest first. The age of a byte is the number of bytes
after it, and its mark is rotated left by its age, where 32 places are a whole turn. -/
def agedMarks (seen : Bytes) : List UInt32 :=
  (seen.reverse.take windowSize).mapIdx fun age byte =>
    rotateLeft (mark byte) (UInt32.ofNat (age % 32))

/-- The last 48 bytes have a mark each, or all bytes if there are fewer. -/
theorem length_agedMarks (seen : Bytes) :
    (agedMarks seen).length = min windowSize seen.length := by
  rw [agedMarks, List.length_mapIdx, List.length_take, List.length_reverse]

/-- The hash of a window from its newest byte to its oldest. -/
theorem windowHash_eq_foldl (window : Bytes) :
    windowHash window = (window.reverse.mapIdx fun age byte =>
      rotateLeft (mark byte) (UInt32.ofNat (age % 32))).foldl (· ^^^ ·) 0 := by
  induction window with
  | nil => rfl
  | cons byte newer ih =>
      rw [List.reverse_cons, List.mapIdx_concat, List.foldl_concat, List.length_reverse, ← ih,
        windowHash, UInt32.xor_comm]

/-- The hash of the last bytes of a stream is the exclusive or of their marks by age. -/
theorem windowHash_rtake (seen : Bytes) :
    windowHash (seen.rtake windowSize) = (agedMarks seen).foldl (· ^^^ ·) 0 := by
  rw [windowHash_eq_foldl, List.rtake_eq_reverse_take_reverse, List.reverse_reverse, agedMarks]

/-! ## The window -/

namespace Window

@[simp] theorem length_ring (window : Window) : window.ring.length = windowSize := by
  rw [ring, List.length_append, List.length_drop, List.length_take, Vector.length_toList]
  omega

/-- The ring begins with the byte in the cell for the next one. -/
theorem ring_eq (window : Window) : window.ring = window.outgoing :: window.ring.tail := by
  have inside : window.next.val < window.cells.toList.length := by
    rw [Vector.length_toList]
    exact window.next.isLt
  rw [ring, List.drop_eq_getElem_cons inside, Vector.getElem_toList]
  rfl

/-- A byte goes in at the end of the ring, for the one at its beginning. -/
theorem ring_put (window : Window) (byte : UInt8) :
    (window.put byte).ring = window.ring.tail ++ [byte] := by
  obtain ⟨cells, ⟨next, inside⟩, filled⟩ := window
  have counted : cells.toList.length = windowSize := Vector.length_toList
  have within : next < cells.toList.length := by
    rw [counted]
    exact inside
  have taken := Bytes.take_set_succ cells.toList within byte
  have dropped : (cells.toList.set next byte).drop (next + 1) = cells.toList.drop (next + 1) :=
    List.drop_set_of_lt (Nat.lt_succ_self next)
  simp only [ring, put, Vector.toList_set, List.drop_eq_getElem_cons within, List.cons_append,
    List.tail_cons]
  by_cases last : next + 1 = windowSize
  · rw [last, Nat.mod_self, List.drop_zero, List.take_zero, List.append_nil,
      List.drop_eq_nil_of_le (Nat.le_of_eq counted), List.nil_append, ← taken, last]
    exact (List.take_of_length_le (by rw [List.length_set, counted])).symm
  · rw [Nat.mod_eq_of_lt (by omega), dropped, taken, List.append_assoc]

/-- When all cells are in use, the bytes are those of the whole ring. -/
theorem contents_of_full {window : Window} (full : window.filled = windowSize) :
    window.contents = window.ring := by
  rw [contents, full, Nat.sub_self, List.drop_zero]

/-- When all cells are in use, a byte goes in for the oldest one. -/
theorem contents_put_of_full {window : Window} (full : window.filled = windowSize) (byte : UInt8) :
    (window.put byte).contents = window.ring.tail ++ [byte] := by
  have still_full : (window.put byte).filled = windowSize := full
  rw [contents_of_full still_full, ring_put]

/-- Where a cell is not in use yet, a byte joins the others. -/
theorem contents_put_of_room {window : Window} (room : window.filled < windowSize) (byte : UInt8) :
    ({ window.put byte with filled := window.filled + 1 } : Window).contents =
      window.contents ++ [byte] := by
  have unused : windowSize - window.filled = windowSize - (window.filled + 1) + 1 := by omega
  have enough : windowSize - (window.filled + 1) ≤ window.ring.tail.length := by
    rw [List.length_tail, length_ring]
    omega
  calc
    _ = (window.put byte).ring.drop (windowSize - (window.filled + 1)) := rfl
    _ = window.ring.tail.drop (windowSize - (window.filled + 1)) ++ [byte] := by
      rw [ring_put, List.drop_append_of_le_length enough]
    _ = window.contents ++ [byte] := by rw [contents, unused, ← List.drop_tail]

end Window

/-- All elements of a list that has no more than so many are among its last ones. -/
theorem rtake_of_length_le {α : Type} {list : List α} {count : Nat} (few : list.length ≤ count) :
    list.rtake count = list := by
  rw [List.rtake, Nat.sub_eq_zero_of_le few, List.drop_zero]

/-- The last elements of a list are those of its tail, when the tail has so many. -/
theorem rtake_append_of_le {α : Type} (front : List α) {tail : List α} {count : Nat}
    (enough : count ≤ tail.length) : (front ++ tail).rtake count = tail.rtake count := by
  rw [List.rtake, List.rtake, List.length_append, Nat.add_sub_assoc enough,
    List.drop_length_add_append]

/-- The newest elements after more of them depend on those that were the newest before. -/
theorem rtake_rtake_append {α : Type} (front more : List α) (count : Nat) :
    (front.rtake count ++ more).rtake count = (front ++ more).rtake count := by
  simp only [List.rtake_eq_reverse_take_reverse, List.reverse_append, List.reverse_reverse,
    List.take_append, List.take_take]
  rw [Nat.min_eq_left (Nat.sub_le _ _)]

/-- One more element takes the place of the oldest of so many. -/
theorem rtake_concat_of_full {α : Type} {list newer : List α} {oldest : α} {count : Nat}
    (last : list.rtake count = oldest :: newer) (full : (oldest :: newer).length = count)
    (element : α) : (list ++ [element]).rtake count = newer ++ [element] := by
  have whole : (newer ++ [element]).length = count := by
    rw [List.length_append, List.length_singleton, ← full, List.length_cons]
  rw [← rtake_rtake_append, last, List.cons_append, ← List.singleton_append,
    rtake_append_of_le _ (Nat.le_of_eq whole.symm), rtake_of_length_le (Nat.le_of_eq whole)]

namespace RollingHash

/-- A rolling hash that has seen a stream: it has the last bytes of it in its window, and is the
hash of them. -/
structure Tracks (hash : RollingHash) (seen : Bytes) : Prop where
  value_eq : hash.value = windowHash (seen.rtake windowSize)
  contents_eq : hash.window.contents = seen.rtake windowSize
  filled_eq : hash.window.filled = min windowSize seen.length

theorem tracks_fresh : fresh.Tracks [] where
  value_eq := rfl
  contents_eq := rfl
  filled_eq := rfl

/-- Where the window has room, the byte goes into it. -/
theorem roll_of_room {hash : RollingHash} (room : hash.window.filled < windowSize) (byte : UInt8) :
    hash.roll byte = ⟨rotateLeft hash.value 1 ^^^ mark byte,
      { hash.window.put byte with filled := hash.window.filled + 1 }⟩ :=
  if_neg (Nat.ne_of_lt room)

/-- Where the window is full, the byte goes into it for the oldest one, whose mark leaves the
hash. -/
theorem roll_of_full {hash : RollingHash} (full : hash.window.filled = windowSize) (byte : UInt8) :
    hash.roll byte = ⟨rotateLeft hash.value 1 ^^^ mark byte ^^^
      rotateLeft (mark hash.window.outgoing) windowRotation, hash.window.put byte⟩ :=
  if_pos full

/-- **A byte keeps the rolling hash on the track of the stream.** -/
theorem Tracks.roll {hash : RollingHash} {seen : Bytes} (tracks : hash.Tracks seen)
    (byte : UInt8) : (hash.roll byte).Tracks (seen ++ [byte]) := by
  have value := tracks.value_eq
  have contents := tracks.contents_eq
  have filled := tracks.filled_eq
  have longer : (seen ++ [byte]).length = seen.length + 1 := by
    rw [List.length_append, List.length_singleton]
  by_cases room : seen.length < windowSize
  · have last : (seen ++ [byte]).rtake windowSize = seen ++ [byte] :=
      rtake_of_length_le (longer ▸ room)
    rw [rtake_of_length_le (Nat.le_of_lt room)] at value contents
    rw [Nat.min_eq_right (Nat.le_of_lt room)] at filled
    have some_room := filled ▸ room
    rw [roll_of_room some_room]
    constructor
    · rw [last, windowHash_concat, ← value]
    · rw [last, Window.contents_put_of_room some_room, contents]
    · rw [longer, filled, Nat.min_eq_right room]
  · rw [Nat.min_eq_left (Nat.not_lt.mp room)] at filled
    -- The ring holds the last bytes, so the one in the cell for the next byte is the oldest.
    rw [Window.contents_of_full filled, Window.ring_eq] at contents
    have full : (hash.window.outgoing :: hash.window.ring.tail).length = windowSize := by
      rw [← Window.ring_eq, Window.length_ring]
    have last := rtake_concat_of_full contents.symm full byte
    rw [roll_of_full filled]
    constructor
    · rw [last, ← windowHash_slide full, contents, ← value]
    · rw [last]
      exact Window.contents_put_of_full filled byte
    · rw [longer, Nat.min_eq_left (by omega)]
      exact filled

/-- More bytes keep the rolling hash on the track of the stream. -/
theorem Tracks.feed {hash : RollingHash} {seen : Bytes} (tracks : hash.Tracks seen)
    (bytes : Bytes) : (hash.feed bytes).Tracks (seen ++ bytes) := by
  induction bytes generalizing hash seen with
  | nil => rwa [List.append_nil]
  | cons byte rest ih =>
      rw [List.append_cons]
      exact ih (tracks.roll byte)

/-- The rolling hash of a stream is the hash of its last bytes. -/
theorem value_feed (seen : Bytes) :
    (fresh.feed seen).value = windowHash (seen.rtake windowSize) :=
  (tracks_fresh.feed seen).value_eq

/-- **The rolling hash is the exclusive or of the marks of the last 48 bytes, or of all bytes if
there are fewer, each rotated by its age.** So it is after any bytes, and so is what one more byte
gives. Streams that end in the same 48 bytes have the same hash and keep it in common, and these
bytes alone have it too. -/
theorem value_of_window :
    (∀ seen : Bytes,
      (fresh.feed seen).value = (agedMarks seen).foldl (· ^^^ ·) 0 ∧
      (agedMarks seen).length = min windowSize seen.length ∧
      ∀ byte, ((fresh.feed seen).roll byte).value =
        (agedMarks (seen ++ [byte])).foldl (· ^^^ ·) 0) ∧
    (∀ left right : Bytes, left.rtake windowSize = right.rtake windowSize →
      (fresh.feed left).value = (fresh.feed right).value ∧
      ∀ more, ((fresh.feed left).feed more).value = ((fresh.feed right).feed more).value) ∧
    ∀ seen : Bytes, (fresh.feed (seen.rtake windowSize)).value = (fresh.feed seen).value := by
  refine ⟨fun seen => ⟨?_, length_agedMarks seen, fun byte => ?_⟩,
    fun left right same => ⟨?_, fun more => ?_⟩, fun seen => ?_⟩
  · rw [value_feed, windowHash_rtake]
  · rw [← windowHash_rtake]
    exact ((tracks_fresh.feed seen).roll byte).value_eq
  · rw [value_feed, value_feed, same]
  · rw [((tracks_fresh.feed left).feed more).value_eq,
      ((tracks_fresh.feed right).feed more).value_eq, List.nil_append, List.nil_append,
      ← rtake_rtake_append left, ← rtake_rtake_append right, same]
  · have last := rtake_rtake_append seen [] windowSize
    rw [List.append_nil, List.append_nil] at last
    rw [value_feed, value_feed, last]

/-- Two streams of 51 and 49 bytes that end in the same 48 and go on with the same byte. -/
theorem value_of_window_of_same_end :
    ∃ left right last : Bytes,
      last = (List.range 48).map UInt8.ofNat ∧ left = [1, 2, 3] ++ last ∧ right = [200] ++ last ∧
      left.rtake windowSize = last ∧ right.rtake windowSize = last ∧
      (fresh.feed left).value = (fresh.feed right).value ∧
      ((fresh.feed left).feed [7]).value = ((fresh.feed right).feed [7]).value ∧
      (fresh.feed last).value = (fresh.feed left).value := by
  let last : Bytes := (List.range 48).map UInt8.ofNat
  have ends_left : ([1, 2, 3] ++ last).rtake windowSize = last := by decide
  have ends_right : ([200] ++ last).rtake windowSize = last := by decide
  obtain ⟨-, common, alone⟩ := value_of_window
  obtain ⟨same, further⟩ := common ([1, 2, 3] ++ last) ([200] ++ last)
    (ends_left.trans ends_right.symm)
  have whole := alone ([1, 2, 3] ++ last)
  rw [ends_left] at whole
  exact ⟨_, _, last, rfl, rfl, rfl, ends_left, ends_right, same, further [7], whole⟩

end RollingHash

end ReplicaSync
