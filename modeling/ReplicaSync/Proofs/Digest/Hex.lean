import ReplicaSync.Digest.Hex

/-!
# Which texts are the hexadecimal form of a digest

Reading goes over the bytes of a text. A digit is one byte, and a character beyond the ASCII range
has a byte that is no digit, so the bytes of a text are digits exactly if its characters are
(`Hex.mem_digits_of_bytes`, `Hex.map_symbol_ofText`). An even number of digits is read as the bytes
that are written as these digits in lower case (`Hex.decodePairs_of_digits`). Where some byte is no
digit, the first such byte is reported (`Hex.decodePairs_of_firstWrong`).

So a text is read as a digest exactly if it is the hexadecimal form of the digest up to case, and
`Digest.ofHex_reads_exactly` says of every text what becomes of it.
-/

set_option autoImplicit false

namespace ReplicaSync

namespace Hex

/-! ## Digits -/

/-- The hexadecimal digits of either case. -/
def digits : List Char := "0123456789abcdefABCDEF".toList

/-- The character with the code of a byte. -/
def symbol (byte : UInt8) : Char := Char.ofNat byte.toNat

/-- The first byte of a byte string that is no digit, and its position. -/
def FirstWrong (bytes : Bytes) (byte : UInt8) (position : Nat) : Prop :=
  ∃ before after, bytes = before ++ byte :: after ∧ before.length = position ∧
    (∀ earlier ∈ before, symbol earlier ∈ digits) ∧ symbol byte ∉ digits

section Table

-- What is said of digits and bytes below is checked for each of them. `List.all` visits the digits
-- alone, while a bounded quantifier over characters may be decided by visiting all characters.
set_option maxRecDepth 4000

theorem toNat_symbol (byte : UInt8) : (symbol byte).toNat = byte.toNat := by
  have all : ∀ value : Fin 256, (Char.ofNat value).toNat = value := by decide
  exact all ⟨byte.toNat, byte.toNat_lt⟩

/-- A digit stands for the value that is written as this digit in lower case. -/
theorem exists_digitValue? {byte : UInt8} (digit : symbol byte ∈ digits) :
    ∃ value < 16, digitValue? byte = some value ∧
      Text.hexDigit value = (symbol byte).toLower := by
  have all : digits.all fun c => (digitValue? (UInt8.ofNat c.toNat)).any fun value =>
      decide (value < 16 ∧ Text.hexDigit value = c.toLower) := by
    decide
  have here := List.all_eq_true.mp all (symbol byte) digit
  rw [toNat_symbol, UInt8.ofNat_toNat] at here
  obtain ⟨value, stands, written⟩ := (Option.any_eq_true _ _).mp here
  obtain ⟨small, same⟩ := of_decide_eq_true written
  exact ⟨value, small, stands, same⟩

/-- Only digits stand for values. -/
theorem digitValue?_eq_none {byte : UInt8} (wrong : symbol byte ∉ digits) :
    digitValue? byte = none := by
  have all : ∀ value : Fin 256,
      digitValue? (UInt8.ofNat value) = none ∨ Char.ofNat value ∈ digits := by
    decide
  have here := all ⟨byte.toNat, byte.toNat_lt⟩
  rw [UInt8.ofNat_toNat] at here
  exact here.resolve_right wrong

/-- Digits are ASCII characters. -/
theorem toNat_lt_of_mem_digits {c : Char} (digit : c ∈ digits) : c.toNat < 128 := by
  have all : digits.all fun c => decide (c.toNat < 128) := by decide
  exact of_decide_eq_true (List.all_eq_true.mp all c digit)

/-- What is a digit in lower case is a digit. -/
theorem mem_digits_of_toLower {c : Char} (lower : c.toLower ∈ digits) : c ∈ digits := by
  have letters : ∀ code : Fin 91, (Char.ofNat code).toLower = Char.ofNat code ∨
      ((Char.ofNat code).toLower ∈ digits → Char.ofNat code ∈ digits) := by
    decide
  by_cases upper : c.val ≥ 'A'.val ∧ c.val ≤ 'Z'.val
  · have below : c.toNat < 91 := Nat.lt_succ_of_le (UInt32.le_iff_toNat_le.mp upper.2)
    have here := letters ⟨c.toNat, below⟩
    rw [Char.ofNat_toNat] at here
    rcases here with same | digit
    · rwa [same] at lower
    · exact digit lower
  · -- Only the upper case letters of the ASCII range have another lower case.
    have same : c.toLower = c := dif_neg upper
    rwa [same] at lower

/-- Values are written as digits in lower case. -/
theorem hexDigit_mem_and_toLower {value : Nat} (small : value < 16) :
    Text.hexDigit value ∈ digits ∧ (Text.hexDigit value).toLower = Text.hexDigit value := by
  have all : ∀ value : Fin 16,
      Text.hexDigit value ∈ digits ∧ (Text.hexDigit value).toLower = Text.hexDigit value := by
    decide
  exact all ⟨value, small⟩

/-- Each value is written as a digit of its own. -/
theorem hexDigit_injective {left right : Nat} (left_small : left < 16) (right_small : right < 16)
    (same : Text.hexDigit left = Text.hexDigit right) : left = right := by
  have all : ∀ left right : Fin 16,
      Text.hexDigit left = Text.hexDigit right → left = right := by decide
  exact congrArg Fin.val (all ⟨left, left_small⟩ ⟨right, right_small⟩ same)

end Table

/-! ## The bytes of a text -/

theorem ofText_eq_flatMap (text : String) :
    Bytes.ofText text = text.toList.flatMap String.utf8EncodeChar := by
  conv => lhs; rw [← String.ofList_toList (s := text), Bytes.ofText, String.toByteArray_ofList]
  exact List.toList_data_toByteArray

theorem length_ofText (text : String) : (Bytes.ofText text).length = text.utf8ByteSize := by
  rw [Bytes.ofText, Array.length_toList]
  rfl

/-- The lower case of a text is that of its characters. -/
theorem toList_toLower (text : String) : text.toLower.toList = text.toList.map Char.toLower :=
  String.toList_map

/-- An ASCII character is one byte. -/
theorem utf8EncodeChar_of_lt {c : Char} (ascii : c.toNat < 128) :
    String.utf8EncodeChar c = [UInt8.ofNat c.toNat] :=
  if_pos (Nat.le_of_lt_succ ascii)

/-- This byte has the code of the character. -/
theorem symbol_ofNat {c : Char} (ascii : c.toNat < 128) : symbol (UInt8.ofNat c.toNat) = c := by
  rw [symbol, UInt8.toNat_ofNat', Nat.mod_eq_of_lt (Nat.lt_trans ascii (by decide)),
    Char.ofNat_toNat]

/-- The first byte of any other character is beyond the ASCII range. -/
theorem exists_byte_of_le {c : Char} (beyond : 128 ≤ c.toNat) :
    ∃ byte ∈ String.utf8EncodeChar c, 128 ≤ byte.toNat := by
  have not_ascii : ¬ c.val.toNat ≤ 127 := Nat.not_le.mpr beyond
  rw [String.utf8EncodeChar, if_neg not_ascii]
  split
  · refine ⟨_, List.mem_cons_self, ?_⟩
    rw [UInt8.toNat_ofNat']
    omega
  · split
    all_goals
      refine ⟨_, List.mem_cons_self, ?_⟩
      rw [UInt8.toNat_ofNat']
      omega

/-- A text whose bytes are digits has digits only. -/
theorem mem_digits_of_bytes {text : String}
    (all : ∀ byte ∈ Bytes.ofText text, symbol byte ∈ digits) : ∀ c ∈ text.toList, c ∈ digits := by
  intro c member
  have here : ∀ byte ∈ String.utf8EncodeChar c, symbol byte ∈ digits := by
    intro byte part
    refine all byte ?_
    rw [ofText_eq_flatMap]
    exact List.mem_flatMap.mpr ⟨c, member, part⟩
  by_cases ascii : c.toNat < 128
  · rw [← symbol_ofNat ascii]
    exact here _ (by rw [utf8EncodeChar_of_lt ascii]; exact List.mem_cons_self)
  · obtain ⟨byte, part, beyond⟩ := exists_byte_of_le (Nat.not_lt.mp ascii)
    have below := toNat_lt_of_mem_digits (here byte part)
    rw [toNat_symbol] at below
    exact absurd beyond (Nat.not_le.mpr below)

/-- The bytes of digits are the digits. -/
theorem map_symbol_ofText {text : String} (all : ∀ c ∈ text.toList, c ∈ digits) :
    (Bytes.ofText text).map symbol = text.toList := by
  rw [ofText_eq_flatMap]
  generalize text.toList = characters at all
  induction characters with
  | nil => rfl
  | cons c rest ih =>
      have ascii := toNat_lt_of_mem_digits (all c List.mem_cons_self)
      rw [List.flatMap_cons, utf8EncodeChar_of_lt ascii, List.map_append, List.map_singleton,
        symbol_ofNat ascii, ih fun other later => all other (.tail c later)]
      rfl

/-- Digits have as many bytes as characters. -/
theorem utf8ByteSize_of_digits {text : String} (all : ∀ c ∈ text.toList, c ∈ digits) :
    text.utf8ByteSize = text.length := by
  rw [← length_ofText, ← List.length_map (f := symbol), map_symbol_ofText all, String.length_toList]

/-- Every byte of a byte string is a digit, or there is a first that is none. -/
theorem digits_or_firstWrong (bytes : Bytes) :
    (∀ byte ∈ bytes, symbol byte ∈ digits) ∨ ∃ byte position, FirstWrong bytes byte position := by
  cases found : bytes.find? fun byte => symbol byte ∉ digits with
  | none =>
      refine .inl fun byte member => ?_
      simpa using List.find?_eq_none.mp found byte member
  | some byte =>
      obtain ⟨wrong, before, after, split, earlier⟩ := List.find?_eq_some_iff_append.mp found
      refine .inr ⟨byte, before.length, before, after, split, rfl, fun other member => ?_, ?_⟩
      · simpa using earlier other member
      · simpa using wrong

/-! ## Writing -/

@[simp] theorem length_encode (bytes : Bytes) : (encode bytes).length = 2 * bytes.length := by
  induction bytes with
  | nil => rfl
  | cons byte rest ih =>
      rw [encode, List.length_cons, List.length_cons, ih, List.length_cons]
      omega

/-- What is written are digits in lower case. -/
theorem mem_and_toLower_of_mem_encode (bytes : Bytes) :
    ∀ c ∈ encode bytes, c ∈ digits ∧ c.toLower = c := by
  induction bytes with
  | nil => exact nofun
  | cons byte rest ih =>
      have below := byte.toNat_lt
      rw [encode]
      rintro c (_ | ⟨_, _ | ⟨_, later⟩⟩)
      · exact hexDigit_mem_and_toLower (by omega)
      · exact hexDigit_mem_and_toLower (by omega)
      · exact ih c later

/-- Different bytes are written differently. -/
theorem encode_injective {left right : Bytes} (same : encode left = encode right) :
    left = right := by
  induction left generalizing right with
  | nil =>
      cases right with
      | nil => rfl
      | cons byte rest => cases same
  | cons first rest ih =>
      cases right with
      | nil => cases same
      | cons second others =>
          have first_below := first.toNat_lt
          have second_below := second.toNat_lt
          rw [encode, encode, List.cons.injEq, List.cons.injEq] at same
          obtain ⟨high, low, later⟩ := same
          have high_eq := hexDigit_injective (by omega) (by omega) high
          have low_eq := hexDigit_injective (by omega) (by omega) low
          rw [UInt8.toNat_inj.mp (show first.toNat = second.toNat by omega), ih later]

/-! ## Reading -/

theorem digitAt_of_digit (position : Nat) {byte : UInt8} (digit : symbol byte ∈ digits) :
    ∃ value < 16, digitAt position byte = .ok value ∧
      Text.hexDigit value = (symbol byte).toLower := by
  obtain ⟨value, small, stands, written⟩ := exists_digitValue? digit
  exact ⟨value, small, by rw [digitAt, stands], written⟩

theorem digitAt_of_wrong (position : Nat) {byte : UInt8} (wrong : symbol byte ∉ digits) :
    digitAt position byte = .error (.invalidByte byte position) := by
  rw [digitAt, digitValue?_eq_none wrong]

/-- **Digits are read as the bytes that are written as these digits in lower case.** -/
theorem decodePairs_of_digits : ∀ (position : Nat) {bytes : Bytes}, bytes.length % 2 = 0 →
    (∀ byte ∈ bytes, symbol byte ∈ digits) →
      ∃ read, decodePairs position bytes = .ok read ∧
        encode read = (bytes.map symbol).map Char.toLower
  | _, [], _, _ => ⟨[], rfl, rfl⟩
  | _, [_], even, _ => (Nat.one_ne_zero even).elim
  | position, high :: low :: rest, even, all => by
      have rest_even : rest.length % 2 = 0 := by
        rw [List.length_cons, List.length_cons] at even
        omega
      obtain ⟨read, later, written⟩ := decodePairs_of_digits (position + 2) rest_even
        fun byte member => all byte (.tail _ (.tail _ member))
      obtain ⟨upper, upper_small, upper_read, upper_written⟩ :=
        digitAt_of_digit position (all high (by simp))
      obtain ⟨lower, lower_small, lower_read, lower_written⟩ :=
        digitAt_of_digit (position + 1) (all low (by simp))
      refine ⟨UInt8.ofNat (16 * upper + lower) :: read, ?_, ?_⟩
      · rw [decodePairs, upper_read, lower_read, later]
        rfl
      · have value : (UInt8.ofNat (16 * upper + lower)).toNat = 16 * upper + lower := by
          rw [UInt8.toNat_ofNat']
          omega
        have quotient : (16 * upper + lower) / 16 = upper := by omega
        have remainder : (16 * upper + lower) % 16 = lower := by omega
        rw [encode, value, quotient, remainder, upper_written, lower_written, written]
        rfl

/-- **The first byte that is no digit is reported.** -/
theorem decodePairs_of_firstWrong : ∀ (position : Nat) {before after : Bytes} {byte : UInt8},
    (before ++ byte :: after).length % 2 = 0 → (∀ earlier ∈ before, symbol earlier ∈ digits) →
      symbol byte ∉ digits →
        decodePairs position (before ++ byte :: after) =
          .error (.invalidByte byte (position + before.length))
  | _, [], [], _, even, _, _ => (Nat.one_ne_zero even).elim
  | position, [], low :: rest, byte, _, _, wrong => by
      rw [List.nil_append, decodePairs, digitAt_of_wrong position wrong]
      rfl
  | position, [high], after, byte, _, all, wrong => by
      obtain ⟨_, _, high_read, _⟩ := digitAt_of_digit position (all high List.mem_cons_self)
      rw [List.singleton_append, decodePairs, high_read, digitAt_of_wrong (position + 1) wrong]
      rfl
  | position, high :: low :: before, after, byte, even, all, wrong => by
      have rest_even : (before ++ byte :: after).length % 2 = 0 := by
        rw [List.cons_append, List.cons_append, List.length_cons, List.length_cons] at even
        omega
      have later := decodePairs_of_firstWrong (position + 2) rest_even
        (fun earlier member => all earlier (.tail _ (.tail _ member))) wrong
      obtain ⟨_, _, high_read, _⟩ := digitAt_of_digit position (all high (by simp))
      obtain ⟨_, _, low_read, _⟩ := digitAt_of_digit (position + 1) (all low (by simp))
      have place : position + 2 + before.length = position + (high :: low :: before).length := by
        rw [List.length_cons, List.length_cons]
        omega
      rw [List.cons_append, List.cons_append, decodePairs, high_read, low_read, later, place]
      rfl

end Hex

namespace Digest

open Hex

/-! ## Digests -/

/-- What becomes of a text that is read as a digest. -/
inductive ReadsAs (text : String) : Except HexFault Digest → Prop
  | odd (odd : text.utf8ByteSize % 2 = 1) : ReadsAs text (.error .oddLength)
  | wrong {byte : UInt8} {position : Nat} (even : text.utf8ByteSize % 2 = 0)
      (first : FirstWrong (Bytes.ofText text) byte position) :
      ReadsAs text (.error (.invalidByte byte position))
  | other (even : text.utf8ByteSize % 2 = 0) (all : ∀ c ∈ text.toList, c ∈ digits)
      (other : text.length ≠ 64) : ReadsAs text (.error .wrongLength)
  | digest {digest : Digest} (all : ∀ c ∈ text.toList, c ∈ digits) (whole : text.length = 64)
      (written : digest.toHex = text.toLower) : ReadsAs text (.ok digest)

/-- The length of the bytes that are read decides whether they are a digest. -/
theorem ofHex_of_decode {text : String} {read : Bytes}
    (done : decode (Bytes.ofText text) = .ok read) :
    ofHex text = match ofBytes? read with
      | some digest => .ok digest
      | none => .error .wrongLength := by
  rw [ofHex, done]
  rfl

theorem ofHex_of_odd {text : String} (odd : text.utf8ByteSize % 2 = 1) :
    ofHex text = .error .oddLength := by
  rw [ofHex, decode, length_ofText, if_pos odd]
  rfl

section Even

variable {text : String} (even : text.utf8ByteSize % 2 = 0)
include even

/-- An even number of bytes is read in pairs. -/
theorem decode_of_even : decode (Bytes.ofText text) = decodePairs 0 (Bytes.ofText text) := by
  rw [decode, length_ofText, if_neg (by omega)]

theorem ofHex_of_firstWrong {byte : UInt8} {position : Nat}
    (first : FirstWrong (Bytes.ofText text) byte position) :
    ofHex text = .error (.invalidByte byte position) := by
  obtain ⟨before, after, split, rfl, all, wrong⟩ := first
  have stops := decodePairs_of_firstWrong 0 (by rwa [← split, length_ofText]) all wrong
  rw [Nat.zero_add] at stops
  rw [ofHex, decode_of_even even, split, stops]
  rfl

/-- An even number of digits is read as bytes that are written as these digits in lower case. -/
theorem exists_decode (all : ∀ c ∈ text.toList, c ∈ digits) :
    ∃ read, decode (Bytes.ofText text) = .ok read ∧ encode read = text.toLower.toList ∧
      2 * read.length = text.length := by
  have shown := map_symbol_ofText all
  obtain ⟨read, done, written⟩ := decodePairs_of_digits 0 (by rwa [length_ofText])
    fun byte member => all _ (shown ▸ List.mem_map_of_mem member)
  rw [shown] at written
  refine ⟨read, (decode_of_even even).trans done, ?_, ?_⟩
  · rw [written, toList_toLower]
  · rw [← length_encode, written, List.length_map, String.length_toList]

theorem ofHex_of_length_ne (all : ∀ c ∈ text.toList, c ∈ digits) (other : text.length ≠ 64) :
    ofHex text = .error .wrongLength := by
  obtain ⟨read, done, -, size⟩ := exists_decode even all
  rw [ofHex_of_decode done, ofBytes?, dif_neg (by omega)]

end Even

/-- Sixty-four digits are the hexadecimal form of a digest up to case. -/
theorem exists_ofHex {text : String} (all : ∀ c ∈ text.toList, c ∈ digits)
    (whole : text.length = 64) :
    ∃ digest, ofHex text = .ok digest ∧ digest.toHex = text.toLower := by
  obtain ⟨read, done, written, size⟩ :=
    exists_decode (by rw [utf8ByteSize_of_digits all, whole]) all
  have enough : read.length = 32 := by omega
  refine ⟨⟨read, enough⟩, ?_, ?_⟩
  · rw [ofHex_of_decode done, ofBytes?, dif_pos enough]
  · rw [toHex, written, String.ofList_toList]

/-- **A text is read, or refused for the first of three reasons that applies.** -/
theorem readsAs_of_ofHex {text : String} {outcome : Except HexFault Digest}
    (result : ofHex text = outcome) : ReadsAs text outcome := by
  subst result
  rcases Nat.mod_two_eq_zero_or_one text.utf8ByteSize with even | odd
  · rcases digits_or_firstWrong (Bytes.ofText text) with all_bytes | ⟨byte, position, first⟩
    · have all := mem_digits_of_bytes all_bytes
      by_cases whole : text.length = 64
      · obtain ⟨digest, read, written⟩ := exists_ofHex all whole
        rw [read]
        exact .digest all whole written
      · rw [ofHex_of_length_ne even all whole]
        exact .other even all whole
    · rw [ofHex_of_firstWrong even first]
      exact .wrong even first
  · rw [ofHex_of_odd odd]
    exact .odd odd

/-- Different digests have different hexadecimal forms. -/
theorem toHex_injective {left right : Digest} (same : left.toHex = right.toHex) : left = right := by
  obtain ⟨left_bytes, _⟩ := left
  obtain ⟨right_bytes, _⟩ := right
  have bytes_eq : left_bytes = right_bytes := encode_injective (String.ofList_injective same)
  subst bytes_eq
  rfl

/-- The hexadecimal form of a digest consists of sixty-four digits in lower case. -/
theorem toHex_form (digest : Digest) :
    digest.toHex.length = 64 ∧ ∀ c ∈ digest.toHex.toList, c ∈ digits ∧ c.toLower = c := by
  rw [toHex, String.length_ofList, length_encode, digest.length_eq, String.toList_ofList]
  exact ⟨rfl, mem_and_toLower_of_mem_encode digest.bytes⟩

/-- A text is read as a digest exactly if it is its hexadecimal form up to case. -/
theorem ofHex_eq_ok_iff {text : String} {digest : Digest} :
    ofHex text = .ok digest ↔ digest.toHex = text.toLower := by
  constructor
  · intro read
    cases readsAs_of_ofHex read with
    | digest _ _ written => exact written
  · intro written
    obtain ⟨size, form⟩ := digest.toHex_form
    rw [written, ← String.length_toList, toList_toLower, List.length_map,
      String.length_toList] at size
    have all : ∀ c ∈ text.toList, c ∈ digits := by
      intro c member
      refine mem_digits_of_toLower (form c.toLower ?_).1
      rw [written, toList_toLower]
      exact List.mem_map_of_mem member
    obtain ⟨other, read, other_written⟩ := exists_ofHex all size
    rw [read, toHex_injective (other_written.trans written.symm)]

/-- A digest is read from its hexadecimal form. -/
theorem ofHex_toHex (digest : Digest) : ofHex digest.toHex = .ok digest := by
  have lower : digest.toHex.toList.map Char.toLower = digest.toHex.toList.map id :=
    List.map_congr_left fun c member => (digest.toHex_form.2 c member).2
  rw [ofHex_eq_ok_iff]
  apply String.toList_inj.mp
  rw [toList_toLower, lower, List.map_id]

/-- **Reading undoes writing and takes every text for what it is.** A text is read as a digest
exactly if it consists of sixty-four hexadecimal digits, and then it is the form of this digest
up to case. Otherwise its number of bytes is odd, or the first byte that is no digit is reported
with its position, or it consists of another number of digits, in this order. -/
theorem ofHex_reads_exactly :
    (∀ digest, ofHex digest.toHex = .ok digest) ∧
    ∀ text : String,
      ((∃ digest, ofHex text = .ok digest) ↔
        text.length = 64 ∧ ∀ c ∈ text.toList, c ∈ Hex.digits) ∧
      (∀ digest, ofHex text = .ok digest ↔ digest.toHex = text.toLower) ∧
      (ofHex text = .error .oddLength ↔ text.utf8ByteSize % 2 = 1) ∧
      (∀ byte position, ofHex text = .error (.invalidByte byte position) ↔
        text.utf8ByteSize % 2 = 0 ∧ Hex.FirstWrong (Bytes.ofText text) byte position) ∧
      (ofHex text = .error .wrongLength ↔
        text.utf8ByteSize % 2 = 0 ∧ (∀ c ∈ text.toList, c ∈ Hex.digits) ∧ text.length ≠ 64) := by
  refine ⟨ofHex_toHex, fun text => ⟨⟨?_, ?_⟩, fun digest => ofHex_eq_ok_iff, ⟨?_, ofHex_of_odd⟩,
    fun byte position => ⟨?_, ?_⟩, ⟨?_, ?_⟩⟩⟩
  · rintro ⟨digest, read⟩
    cases readsAs_of_ofHex read with
    | digest all whole _ => exact ⟨whole, all⟩
  · rintro ⟨whole, all⟩
    obtain ⟨digest, read, -⟩ := exists_ofHex all whole
    exact ⟨digest, read⟩
  · intro refused
    cases readsAs_of_ofHex refused with
    | odd odd => exact odd
  · intro refused
    cases readsAs_of_ofHex refused with
    | wrong even first => exact ⟨even, first⟩
  · rintro ⟨even, first⟩
    exact ofHex_of_firstWrong even first
  · intro refused
    cases readsAs_of_ofHex refused with
    | other even all other => exact ⟨even, all, other⟩
  · rintro ⟨even, all, other⟩
    exact ofHex_of_length_ne even all other

/-- The second character has two bytes, so that the number of bytes is even. -/
example : ofHex "Fé1" = .error (.invalidByte 0xC3 1) ∧ ofHex "Fég1" = .error .oddLength ∧
    ofHex "Ff" = .error .wrongLength :=
  ⟨rfl, rfl, rfl⟩

end Digest

end ReplicaSync
