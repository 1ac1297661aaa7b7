/-!
# Byte strings

Contents, payloads and digests are byte strings. This module holds the four things the
library does with them besides list operations: cutting out a range, passing between
texts and their UTF-8 bytes, writing numbers in little-endian order and reading them in both
orders, and taking fields of a known width off the front.

A range never fails. The part of it that lies beyond the end is simply missing, so the
length of what comes back tells whether the whole range was there.
-/

set_option autoImplicit false

namespace ReplicaSync

/-- A byte string. -/
abbrev Bytes := List UInt8

namespace Bytes

/-- The bytes from `offset` on, at most `length` of them. -/
def range (bytes : Bytes) (offset length : Nat) : Bytes :=
  (bytes.drop offset).take length

/-- A whole string is the range from its start over its length. -/
theorem range_zero_length (bytes : Bytes) : bytes.range 0 bytes.length = bytes := by
  simp [range]

/-- A range that lies within the string has the length asked for. -/
theorem length_range_of_le (bytes : Bytes) (offset length : Nat)
    (within : offset + length ≤ bytes.length) : (bytes.range offset length).length = length := by
  simp only [range, List.length_take, List.length_drop]
  omega

/-- The range from `offset` on, filled up with zeros to the length asked for. -/
def filledRange (bytes : Bytes) (offset length : Nat) : Bytes :=
  let part := bytes.range offset length
  part ++ List.replicate (length - part.length) 0

/-- A range that is filled up has the length asked for. -/
@[simp] theorem length_filledRange (bytes : Bytes) (offset length : Nat) :
    (bytes.filledRange offset length).length = length := by
  have short : (bytes.range offset length).length ≤ length := by
    simp only [range, List.length_take]
    omega
  simp only [filledRange, List.length_append, List.length_replicate]
  omega

/-- The bytes up to a place that is overwritten are those before it and the new one. -/
theorem take_set_succ (bytes : Bytes) {place : Nat} (inside : place < bytes.length)
    (byte : UInt8) : (bytes.set place byte).take (place + 1) = bytes.take place ++ [byte] := by
  rw [List.take_add_one, List.take_set_of_le (Nat.le_refl place), List.getElem?_set_self inside]
  rfl

/-! ## Texts -/

/-- The UTF-8 bytes of a text. -/
def ofText (text : String) : Bytes :=
  text.toByteArray.data.toList

/-- The text whose UTF-8 bytes these are, if they are well formed. -/
def toText? (bytes : Bytes) : Option String :=
  String.fromUTF8? ⟨bytes.toArray⟩

/-- The bytes of a text are well formed and give that text. -/
theorem toText?_ofText (text : String) : toText? (ofText text) = some text := by
  have same : (⟨(ofText text).toArray⟩ : ByteArray) = text.toByteArray := by
    rw [ofText, Array.toArray_toList]
  rw [toText?, same, String.fromUTF8?, dif_pos text.isValidUTF8]
  rfl

/-! ## Little-endian numbers -/

/-- The lowest `width` base-256 digits of a number, least significant first. -/
def littleEndian : (width value : Nat) → Bytes
  | 0, _ => []
  | width + 1, value => UInt8.ofNat value :: littleEndian width (value / 256)

/-- The number whose base-256 digits these are, least significant first. -/
def ofLittleEndian : Bytes → Nat
  | [] => 0
  | byte :: rest => byte.toNat + 256 * ofLittleEndian rest

@[simp] theorem length_littleEndian (width value : Nat) :
    (littleEndian width value).length = width := by
  induction width generalizing value with
  | zero => rfl
  | succ width ih => simp only [littleEndian, List.length_cons, ih]

/-- Reading back the lowest digits of a number gives its remainder. -/
theorem ofLittleEndian_littleEndian_mod (width value : Nat) :
    ofLittleEndian (littleEndian width value) = value % Nat.pow 256 width := by
  induction width generalizing value with
  | zero => exact (Nat.mod_one value).symm
  | succ width ih =>
      have step : Nat.pow 256 (width + 1) = 256 * Nat.pow 256 width :=
        Nat.mul_comm (Nat.pow 256 width) 256
      rw [littleEndian, ofLittleEndian, ih, UInt8.toNat_ofNat', step, Nat.mod_mul]

/-- Reading back a number that fits its width gives the number. -/
theorem ofLittleEndian_littleEndian (width value : Nat) (fits : value < Nat.pow 256 width) :
    ofLittleEndian (littleEndian width value) = value := by
  rw [ofLittleEndian_littleEndian_mod, Nat.mod_eq_of_lt fits]

/-- The digits of a number are found again from the number and their count. -/
theorem littleEndian_ofLittleEndian (bytes : Bytes) :
    littleEndian bytes.length (ofLittleEndian bytes) = bytes := by
  induction bytes with
  | nil => rfl
  | cons byte rest ih =>
      have below := byte.toNat_lt
      have low : UInt8.ofNat (byte.toNat + 256 * ofLittleEndian rest) = byte := by
        apply UInt8.toNat_inj.mp
        rw [UInt8.toNat_ofNat']
        omega
      have high : (byte.toNat + 256 * ofLittleEndian rest) / 256 = ofLittleEndian rest := by
        omega
      rw [List.length_cons, littleEndian, ofLittleEndian, low, high, ih]

/-- A number is below the power of 256 that its digits can count. -/
theorem ofLittleEndian_lt (bytes : Bytes) : ofLittleEndian bytes < Nat.pow 256 bytes.length := by
  induction bytes with
  | nil => exact Nat.one_pos
  | cons byte rest ih =>
      have below := byte.toNat_lt
      have step : Nat.pow 256 (rest.length + 1) = Nat.pow 256 rest.length * 256 := rfl
      rw [List.length_cons, ofLittleEndian, step]
      omega

/-! ## Big-endian numbers -/

/-- The number whose base-256 digits these are, most significant first. -/
def ofBigEndian (bytes : Bytes) : Nat :=
  ofLittleEndian bytes.reverse

/-- The big-endian number in the bytes from `offset` on. Where bytes are missing there are
zeros. -/
def numberAt (bytes : Bytes) (offset width : Nat) : Nat :=
  ofBigEndian (bytes.filledRange offset width)

/-! ## Fields -/

/-- Takes the first bytes off a byte string that has so many. -/
def takeField? (count : Nat) (bytes : Bytes) : Option (Bytes × Bytes) :=
  let field := bytes.take count
  if field.length = count then some (field, bytes.drop count) else none

/-- Takes a little-endian number of so many bytes off a byte string. -/
def takeNumber? (width : Nat) (bytes : Bytes) : Option (Nat × Bytes) :=
  (takeField? width bytes).map fun (field, rest) => (ofLittleEndian field, rest)

/-- A field in front is taken off whole. -/
theorem takeField?_append (field rest : Bytes) :
    takeField? field.length (field ++ rest) = some (field, rest) := by
  simp [takeField?]

/-- A number in front is read back. -/
theorem takeNumber?_littleEndian (width value : Nat) (fits : value < Nat.pow 256 width)
    (rest : Bytes) : takeNumber? width (littleEndian width value ++ rest) = some (value, rest) := by
  have taken := takeField?_append (littleEndian width value) rest
  rw [length_littleEndian] at taken
  simp only [takeNumber?, taken, Option.map_some, ofLittleEndian_littleEndian width value fits]

/-- A field is taken off exactly a byte string that begins with it. -/
theorem takeField?_eq_some_iff {count : Nat} {bytes field rest : Bytes} :
    takeField? count bytes = some (field, rest) ↔
      field.length = count ∧ bytes = field ++ rest := by
  constructor
  · intro taken
    simp only [takeField?] at taken
    split at taken
    · next whole =>
      cases taken
      exact ⟨whole, (List.take_append_drop count bytes).symm⟩
    · cases taken
  · rintro ⟨rfl, rfl⟩
    exact takeField?_append field rest

/-- A number is taken off exactly a byte string that begins with its digits. -/
theorem takeNumber?_eq_some_iff {width value : Nat} {bytes rest : Bytes} :
    takeNumber? width bytes = some (value, rest) ↔
      value < Nat.pow 256 width ∧ bytes = littleEndian width value ++ rest := by
  constructor
  · intro taken
    obtain ⟨⟨field, remaining⟩, found, same⟩ := Option.map_eq_some_iff.mp taken
    cases same
    obtain ⟨rfl, rfl⟩ := takeField?_eq_some_iff.mp found
    exact ⟨ofLittleEndian_lt field, by rw [littleEndian_ofLittleEndian]⟩
  · rintro ⟨fits, rfl⟩
    exact takeNumber?_littleEndian width value fits rest

/-- A field can be taken off where there are enough bytes. -/
theorem exists_takeField? {count : Nat} {bytes : Bytes} (enough : count ≤ bytes.length) :
    ∃ field rest, takeField? count bytes = some (field, rest) :=
  ⟨bytes.take count, bytes.drop count, takeField?_eq_some_iff.mpr
    ⟨List.length_take_of_le enough, (List.take_append_drop count bytes).symm⟩⟩

/-- A number can be taken off where there are enough bytes. -/
theorem exists_takeNumber? {width : Nat} {bytes : Bytes} (enough : width ≤ bytes.length) :
    ∃ value rest, takeNumber? width bytes = some (value, rest) := by
  obtain ⟨field, rest, taken⟩ := exists_takeField? enough
  exact ⟨ofLittleEndian field, rest, by rw [takeNumber?, taken, Option.map_some]⟩

/-- A field and the rest together have the length of the whole. -/
theorem length_of_takeField? {count : Nat} {bytes field rest : Bytes}
    (taken : takeField? count bytes = some (field, rest)) :
    count + rest.length = bytes.length := by
  simp only [takeField?, List.length_take] at taken
  split at taken
  · cases taken
    rw [List.length_drop]
    omega
  · cases taken

/-- A number and the rest together have the length of the whole. -/
theorem length_of_takeNumber? {width value : Nat} {bytes rest : Bytes}
    (taken : takeNumber? width bytes = some (value, rest)) :
    width + rest.length = bytes.length := by
  obtain ⟨⟨field, remaining⟩, found, same⟩ := Option.map_eq_some_iff.mp taken
  cases same
  exact length_of_takeField? found

end Bytes

end ReplicaSync
