import ReplicaSync.Proofs.Text.Signed
import ReplicaSync.Proofs.Text.Trimming

/-!
# Numerals read back

The digits of a natural number denote that number, and none of them is blank. So reading the
numeral of a signed 64-bit number gives that number, also after trimming
(`Text.readInt64_trim_int64`).
-/

set_option autoImplicit false

namespace ReplicaSync.Text

/-! ## Digits -/

theorem digitsValue_natural (value : Nat) : digitsValue (natural value) = value :=
  Nat.ofDigitChars_ten_toDigits

theorem natural_ne_nil (value : Nat) : natural value ≠ [] :=
  Nat.toDigits_ne_nil

theorem digits_natural (value : Nat) : Digits (natural value) := by
  intro c member
  have digit := Nat.isDigit_of_mem_toDigits (by decide) (by decide) member
  obtain ⟨least, most⟩ := Char.isDigit_iff_toNat.mp digit
  exact ⟨UInt32.le_iff_toNat_le.mpr least, UInt32.le_iff_toNat_le.mpr most⟩

/-! ## Signed numbers -/

/-- What is written of an integer is a numeral of it. -/
theorem numeral_integer (value : Int) : Numeral (integer value) value := by
  cases value with
  | ofNat magnitude =>
      have no_sign : ∀ c ∈ (natural magnitude).head?, c ≠ '+' ∧ c ≠ '-' := by
        intro c first
        have digit := digits_natural magnitude c (List.mem_of_mem_head? first)
        constructor <;> (rintro rfl; exact absurd digit.1 (by decide))
      have numeral := Numeral.signed (.none no_sign) (natural_ne_nil magnitude)
        (digits_natural magnitude)
      rw [digitsValue_natural] at numeral
      exact numeral
  | negSucc magnitude =>
      have numeral := Numeral.signed (.minus _) (natural_ne_nil (magnitude + 1))
        (digits_natural (magnitude + 1))
      rw [digitsValue_natural] at numeral
      exact numeral

/-- **The numeral of a number is read as that number.** -/
theorem readInt64_integer (number : Int64) : readInt64 (integer number.toInt) = .ok number :=
  readInt64_eq_ok_iff.mpr (numeral_integer number.toInt)

/-! ## Trimming -/

theorem trim_of_not_blank {characters : List Char} (visible : ∀ c ∈ characters, isBlank c = false) :
    trim characters = characters := by
  apply trim_of_tight
  constructor
  · intro c first
    exact visible c (List.mem_of_mem_head? first)
  · intro c last
    exact visible c (List.mem_of_mem_getLast? last)

theorem isBlank_of_digit {c : Char} (digit : '0' ≤ c ∧ c ≤ '9') : isBlank c = false := by
  have least := UInt32.le_iff_toNat_le.mp digit.1
  have most := UInt32.le_iff_toNat_le.mp digit.2
  change 48 ≤ c.toNat at least
  change c.toNat ≤ 57 at most
  simp only [isBlank, Bool.or_eq_false_iff, Bool.and_eq_false_iff, decide_eq_false_iff_not,
    beq_eq_false_iff_ne]
  omega

theorem not_blank_of_mem_integer {value : Int} {c : Char} (member : c ∈ integer value) :
    isBlank c = false := by
  cases value with
  | ofNat magnitude => exact isBlank_of_digit (digits_natural magnitude c member)
  | negSucc magnitude =>
      rcases List.mem_cons.mp member with rfl | digit
      · rfl
      · exact isBlank_of_digit (digits_natural (magnitude + 1) c digit)

/-- **The text of a number is read as that number, also after trimming.** -/
theorem readInt64_trim_int64 (number : Int64) :
    readInt64 (trim (int64 number).toList) = .ok number := by
  rw [int64, String.toList_ofList, trim_of_not_blank fun _ => not_blank_of_mem_integer]
  exact readInt64_integer number

end ReplicaSync.Text
