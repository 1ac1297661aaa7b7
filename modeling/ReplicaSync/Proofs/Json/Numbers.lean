import ReplicaSync.Proofs.Json.Literals
import ReplicaSync.Proofs.Text.Numerals

/-!
# Integers as literals

What is written of an integer is a literal (`Json.Number.literal_ofInt`), and it denotes that
integer (`Json.Number.integer?_ofInt`). If the integer is a word it is within the range of
doubles (`Json.Number.outOfRange_ofNat`).
-/

set_option autoImplicit false

namespace ReplicaSync.Json.Number

/-! ## The digits of a natural number -/

theorem isDigit_of_mem_natural {value : Nat} {c : Char} (member : c ∈ Text.natural value) :
    isDigit c = true := by
  obtain ⟨least, most⟩ := Text.digits_natural value c member
  rw [isDigit, decide_eq_true least, decide_eq_true most]
  rfl

/-- A number above zero has no zero in front. -/
theorem natural_eq_cons {value : Nat} (positive : 0 < value) :
    ∃ first rest, Text.natural value = first :: rest ∧ first ≠ '0' := by
  induction value using Nat.strongRecOn with
  | ind value ih =>
      by_cases small : value < 10
      · refine ⟨value.digitChar, [], Nat.toDigits_of_lt_base small, fun zero => ?_⟩
        have digit := Nat.toNat_digitChar_of_lt_ten small
        rw [zero] at digit
        have : '0'.toNat = 48 := rfl
        omega
      · obtain ⟨first, rest, split, nonzero⟩ :=
          ih (value / 10) (by omega) (by omega)
        refine ⟨first, rest ++ [(value % 10).digitChar], ?_, nonzero⟩
        change Nat.toDigits 10 (value / 10) = first :: rest at split
        rw [Text.natural, Nat.toDigits_of_base_le (by decide) (Nat.not_lt.mp small), split]
        rfl

theorem wholeAllowed_natural (value : Nat) : wholeAllowed (Text.natural value) = true := by
  rcases Nat.eq_zero_or_pos value with rfl | positive
  · rfl
  · obtain ⟨first, rest, split, nonzero⟩ := natural_eq_cons positive
    rw [split, wholeAllowed]
    · exact bne_iff_ne.mpr nonzero
    · intro zero
      exact absurd zero nonzero

/-! ## The literal of an integer -/

theorem text_ofInt (value : Int) : (ofInt value).text = Text.integer value := by
  cases value <;> simp [ofInt, text, Text.integer]

theorem unsigned_natural (negative : Bool) (value : Nat) :
    Unsigned { negative, whole := Text.natural value } (Text.natural value) where
  allowed := wholeAllowed_natural value
  whole_only _ := isDigit_of_mem_natural
  fraction_only := nofun
  written := ⟨[], .absent, (List.append_nil _).symm⟩

/-- **What is written of an integer is a literal of it.** -/
theorem literal_ofInt (value : Int) : Literal (ofInt value) (ofInt value).text := by
  rw [text_ofInt]
  cases value with
  | ofNat magnitude => exact .positive rfl (unsigned_natural false magnitude)
  | negSucc magnitude => exact .negative rfl (unsigned_natural true (magnitude + 1))

/-- **The literal of an integer denotes that integer.** -/
theorem integer?_ofInt (value : Int) : (ofInt value).integer? = some value := by
  cases value with
  | ofNat magnitude =>
      rw [ofInt, integer?]
      simp [Text.digitsValue_natural]
  | negSucc magnitude =>
      rw [ofInt, integer?]
      simp [Text.digitsValue_natural]
      omega

/-! ## The range of doubles -/

/-- Rounding at most doubles a number. -/
theorem roundTo53_le (value : Nat) : roundTo53 value ≤ 2 * value := by
  rw [roundTo53]
  dsimp only
  split
  · omega
  · next long =>
    have nonzero : value ≠ 0 := by
      rintro rfl
      exact long (by decide)
    have least : Nat.pow 2 (value.log2 + 1 - 53) ≤ value :=
      Nat.le_trans (Nat.pow_le_pow_right (by decide) (by omega)) (Nat.log2_self_le nonzero)
    have most : value / Nat.pow 2 (value.log2 + 1 - 53) * Nat.pow 2 (value.log2 + 1 - 53) ≤ value :=
      Nat.div_mul_le_self _ _
    split
    · rw [Nat.add_mul]
      omega
    · omega

/-- Digits that denote a word are all taken. -/
theorem leadingDigits_of_lt {value taken : Nat} {digits : List Char}
    (fits : Nat.ofDigitChars 10 digits value < UInt64.size) :
    leadingDigits value taken digits =
      (Nat.ofDigitChars 10 digits value, taken + digits.length, 0) := by
  induction digits generalizing value taken with
  | nil => rfl
  | cons c rest ih =>
      have rest_fits : Nat.ofDigitChars 10 rest (10 * value + (c.toNat - 48)) < UInt64.size := fits
      have below := Nat.lt_of_le_of_lt (Text.le_ofDigitChars _ rest) rest_fits
      rw [leadingDigits, if_pos below, ih rest_fits, List.length_cons, Nat.add_assoc,
        Nat.add_comm 1]
      rfl

theorem significand_ofNat {value : Nat} (fits : value < UInt64.size) :
    (ofInt value).significand = (value, 0) := by
  have denoted : Nat.ofDigitChars 10 (Text.natural value) 0 = value := Nat.ofDigitChars_ten_toDigits
  have taken :
      leadingDigits 0 0 (Text.natural value) = (value, (Text.natural value).length, 0) := by
    rw [leadingDigits_of_lt (by rw [denoted]; exact fits), denoted, Nat.zero_add]
  have whole : (ofInt value).whole = Text.natural value := rfl
  rw [significand, whole, taken]
  rfl

/-- **A word is within the range of doubles.** -/
theorem outOfRange_ofNat {value : Nat} (fits : value < UInt64.size) :
    (ofInt value).outOfRange = false := by
  have unscaled : (ofInt value).exponentValue = 0 := rfl
  rw [outOfRange, significand_ofNat fits, unscaled]
  dsimp only
  split
  · rfl
  · rw [if_neg (by decide)]
    have rounded := roundTo53_le value
    have again := roundTo53_le (roundTo53 value * roundTo53 (Nat.pow 10 (0 + 0 : Int).toNat))
    have one : roundTo53 (Nat.pow 10 (0 + 0 : Int).toNat) = 1 := rfl
    have words : 4 * UInt64.size = Nat.pow 2 66 := rfl
    -- The power gets a name, since the number is too long to be written out.
    obtain ⟨power, longer, bound⟩ : ∃ power, 66 < power ∧ power = 1024 := ⟨1024, by decide, rfl⟩
    have grows : Nat.pow 2 66 < Nat.pow 2 power := Nat.pow_lt_pow_right (by decide) longer
    rw [one, Nat.mul_one] at again ⊢
    rw [← bound]
    exact decide_eq_false (by omega)

end ReplicaSync.Json.Number
