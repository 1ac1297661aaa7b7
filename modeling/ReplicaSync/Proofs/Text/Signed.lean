import ReplicaSync.Text.Numeral

/-!
# Which numerals are read

A numeral is a plus sign, a minus sign or neither, and at least one digit behind that. It may have
any number of zeros in front (`Text.Numeral`). Characters are read as a signed 64-bit number exactly
if they are a numeral of that number (`Text.readInt64_eq_ok_iff`). Any other characters are misread:
there are none, there is no digit at all, a character is no digit, or the digits in front of one
already make up a number that does not fit, whatever comes behind them
(`Text.readInt64_eq_error_iff`).
-/

set_option autoImplicit false

namespace ReplicaSync.Text

/-! ## Digits behind a number -/

/-- Whether characters are decimal digits. -/
def Digits (characters : List Char) : Prop :=
  ∀ c ∈ characters, '0' ≤ c ∧ c ≤ '9'

theorem digits_nil : Digits [] := by
  rintro c ⟨⟩

theorem digits_cons_iff {c : Char} {digits : List Char} :
    Digits (c :: digits) ↔ ('0' ≤ c ∧ c ≤ '9') ∧ Digits digits :=
  List.forall_mem_cons

/-- More digits never make a number smaller. -/
theorem le_ofDigitChars (value : Nat) (digits : List Char) :
    value ≤ Nat.ofDigitChars 10 digits value := by
  induction digits generalizing value with
  | nil => exact Nat.le_refl _
  | cons c rest ih => exact Nat.le_trans (by omega) (ih (10 * value + (c.toNat - 48)))

/-- What is wrong with characters behind digits of a number that is at most a bound. Either a
character is no digit, or some digits make the number too large, whatever comes behind them. -/
inductive Stops (bound : Nat) (overflow : NumeralFault) (value : Nat) :
    List Char → NumeralFault → Prop
  | other {digits rest : List Char} {c : Char} (only : Digits digits)
      (not_digit : ¬ ('0' ≤ c ∧ c ≤ '9')) (fits : Nat.ofDigitChars 10 digits value ≤ bound) :
      Stops bound overflow value (digits ++ c :: rest) .invalidDigit
  | overflow {digits rest : List Char} (only : Digits digits)
      (beyond : bound < Nat.ofDigitChars 10 digits value) :
      Stops bound overflow value (digits ++ rest) overflow

section Digits

variable {bound value : Nat} {overflow fault : NumeralFault} {characters : List Char}

theorem stops_of_beyond (beyond : bound < value) :
    Stops bound overflow value characters fault ↔ fault = overflow := by
  constructor
  · intro stops
    cases stops with
    | @other digits _ _ _ _ fits =>
        exact absurd (Nat.le_trans (le_ofDigitChars value digits) fits) (Nat.not_le.mpr beyond)
    | overflow _ _ => rfl
  · rintro rfl
    exact @Stops.overflow bound fault value [] characters digits_nil beyond

/-- Digits that are taken into the number are not at fault. -/
theorem stops_cons {c : Char} (digit : '0' ≤ c ∧ c ≤ '9') (fits : value ≤ bound) :
    Stops bound overflow value (c :: characters) fault ↔
      Stops bound overflow (10 * value + (c.toNat - 48)) characters fault := by
  constructor
  · intro stops
    generalize whole : c :: characters = read at stops
    cases stops with
    | @other digits rest other only not_digit below =>
        cases digits with
        | nil =>
            obtain ⟨rfl, rfl⟩ := List.cons.inj whole
            exact absurd digit not_digit
        | cons first digits =>
            obtain ⟨rfl, rfl⟩ := List.cons.inj whole
            exact .other (digits_cons_iff.mp only).2 not_digit below
    | @overflow digits rest only beyond =>
        cases digits with
        | nil => exact absurd fits (Nat.not_le.mpr beyond)
        | cons first digits =>
            obtain ⟨rfl, rfl⟩ := List.cons.inj whole
            exact .overflow (digits_cons_iff.mp only).2 beyond
  · intro stops
    cases stops with
    | @other digits rest other only not_digit below =>
        exact @Stops.other bound overflow value (c :: digits) rest other
          (digits_cons_iff.mpr ⟨digit, only⟩) not_digit below
    | @overflow digits rest only beyond =>
        exact @Stops.overflow bound overflow value (c :: digits) rest
          (digits_cons_iff.mpr ⟨digit, only⟩) beyond

/-- **Digits are misread exactly if a character is none or the number becomes too large.** -/
theorem readDigits_eq_error_iff (fits : value ≤ bound) :
    readDigits bound overflow value characters = .error fault ↔
      Stops bound overflow value characters fault := by
  -- a number in front that is too large already would not be noticed where no digit follows
  induction characters generalizing value with
  | nil =>
      constructor
      · rintro ⟨⟩
      · intro stops
        generalize whole : [] = read at stops
        cases stops with
        | @other digits _ _ _ _ _ => cases digits <;> cases whole
        | @overflow digits _ _ beyond =>
            obtain ⟨rfl, -⟩ := List.append_eq_nil_iff.mp whole.symm
            exact absurd fits (Nat.not_le.mpr beyond)
  | cons c characters ih =>
      by_cases digit : '0' ≤ c ∧ c ≤ '9'
      · rw [stops_cons digit fits, readDigits, digitValue?, if_pos digit]
        dsimp only
        split
        · next beyond => rw [stops_of_beyond beyond, Except.error.injEq, eq_comm]
        · next below => exact ih (Nat.not_lt.mp below)
      · rw [readDigits, digitValue?, if_neg digit, Except.error.injEq]
        constructor
        · rintro rfl
          exact @Stops.other bound overflow value [] characters c digits_nil digit fits
        · intro stops
          generalize whole : c :: characters = read at stops
          cases stops with
          | other _ _ _ => rfl
          | @overflow digits _ only beyond =>
              cases digits with
              | nil => exact absurd fits (Nat.not_le.mpr beyond)
              | cons first digits =>
                  obtain ⟨rfl, -⟩ := List.cons.inj whole
                  exact absurd (digits_cons_iff.mp only).1 digit

/-- Digits are read as the number that they make up with those in front. -/
theorem readDigits_eq_ok_iff {result : Nat} (fits : value ≤ bound) :
    readDigits bound overflow value characters = .ok result ↔
      Digits characters ∧ Nat.ofDigitChars 10 characters value = result ∧ result ≤ bound := by
  induction characters generalizing value with
  | nil =>
      rw [readDigits, Except.ok.injEq]
      constructor
      · rintro rfl
        exact ⟨digits_nil, rfl, fits⟩
      · rintro ⟨-, rfl, -⟩
        rfl
  | cons c characters ih =>
      rw [readDigits, digitValue?, digits_cons_iff]
      by_cases digit : '0' ≤ c ∧ c ≤ '9'
      · rw [if_pos digit]
        dsimp only
        split
        · next beyond =>
          constructor
          · rintro ⟨⟩
          · rintro ⟨-, rfl, below⟩
            have reached := Nat.le_trans (le_ofDigitChars _ characters) below
            exact absurd reached (Nat.not_le.mpr beyond)
        · next below =>
          rw [ih (Nat.not_lt.mp below), and_iff_right digit]
          rfl
      · rw [if_neg digit]
        constructor
        · rintro ⟨⟩
        · rintro ⟨⟨is_digit, -⟩, -⟩
          exact absurd is_digit digit

end Digits

/-! ## Numerals -/

/-- How characters part into a sign, negative or not, and what is behind it. The sign may be left
out where it is not negative. -/
inductive Parted : Bool → List Char → List Char → Prop
  | plus (behind : List Char) : Parted false behind ('+' :: behind)
  | minus (behind : List Char) : Parted true behind ('-' :: behind)
  | none {characters : List Char} (no_sign : ∀ c ∈ characters.head?, c ≠ '+' ∧ c ≠ '-') :
      Parted false characters characters

/-- A number with a sign. -/
def withSign : Bool → Nat → Int
  | true, magnitude => -magnitude
  | false, magnitude => magnitude

/-- How integers are written: digits, any number of zeros in front included, behind a sign. -/
inductive Numeral (characters : List Char) : Int → Prop
  | signed {negative : Bool} {digits : List Char} (parted : Parted negative digits characters)
      (nonempty : digits ≠ []) (only : Digits digits) :
      Numeral characters (withSign negative (digitsValue digits))

/-- The greatest magnitude of a signed 64-bit number with the given sign. -/
def greatestMagnitude : Bool → Nat
  | true => Nat.pow 2 63
  | false => Nat.pow 2 63 - 1

/-- The fault of a number that does not fit. -/
def overflowFault : Bool → NumeralFault
  | true => .tooSmall
  | false => .tooLarge

/-- What is wrong with characters that are no numeral of a signed 64-bit number. -/
inductive Misread (characters : List Char) : NumeralFault → Prop
  | empty (nothing : characters = []) : Misread characters .empty
  | noDigit {negative : Bool} (parted : Parted negative [] characters)
      (signed : characters ≠ []) : Misread characters .invalidDigit
  | other {negative : Bool} {digits rest : List Char} {c : Char}
      (parted : Parted negative (digits ++ c :: rest) characters) (only : Digits digits)
      (not_digit : ¬ ('0' ≤ c ∧ c ≤ '9'))
      (fits : digitsValue digits ≤ greatestMagnitude negative) : Misread characters .invalidDigit
  | overflow {negative : Bool} {digits rest : List Char}
      (parted : Parted negative (digits ++ rest) characters) (only : Digits digits)
      (beyond : greatestMagnitude negative < digitsValue digits) :
      Misread characters (overflowFault negative)

theorem exists_parted (characters : List Char) :
    ∃ negative behind, Parted negative behind characters := by
  cases characters with
  | nil => exact ⟨false, [], .none nofun⟩
  | cons c characters =>
      by_cases plus : c = '+'
      · subst plus
        exact ⟨false, characters, .plus characters⟩
      · by_cases minus : c = '-'
        · subst minus
          exact ⟨true, characters, .minus characters⟩
        · refine ⟨false, c :: characters, .none ?_⟩
          rintro _ ⟨⟩
          exact ⟨plus, minus⟩

theorem Parted.eq_nil {negative : Bool} {behind : List Char} (parted : Parted negative behind []) :
    behind = [] := by
  cases parted
  rfl

/-- Characters part in one way only. -/
theorem Parted.unique {characters behind other : List Char} {negative side : Bool}
    (parted : Parted negative behind characters) (again : Parted side other characters) :
    negative = side ∧ behind = other := by
  cases parted with
  | plus =>
      cases again with
      | plus => exact ⟨rfl, rfl⟩
      | none no_sign => exact absurd rfl (no_sign _ rfl).1
  | minus =>
      cases again with
      | minus => exact ⟨rfl, rfl⟩
      | none no_sign => exact absurd rfl (no_sign _ rfl).2
  | none no_sign =>
      cases again with
      | plus => exact absurd rfl (no_sign _ rfl).1
      | minus => exact absurd rfl (no_sign _ rfl).2
      | none _ => exact ⟨rfl, rfl⟩

section Reading

variable {characters behind : List Char} {negative : Bool}

/-- A numeral is read as its digits are, with its sign. -/
theorem readInt64_of_parted (parted : Parted negative behind characters)
    (nonempty : characters ≠ []) :
    readInt64 characters =
      (readMagnitude (greatestMagnitude negative) (overflowFault negative) behind).map
        fun magnitude => Int64.ofInt (withSign negative magnitude) := by
  cases parted with
  | plus => rfl
  | minus =>
      have half : greatestMagnitude true = int64Half := rfl
      rw [readInt64, half, overflowFault]
      cases readMagnitude int64Half .tooSmall behind <;> rfl
  | none no_sign =>
      obtain ⟨c, rest, rfl⟩ := List.exists_cons_of_ne_nil nonempty
      obtain ⟨not_plus, not_minus⟩ := no_sign c rfl
      rw [readInt64]
      · rfl
      · rintro ⟨⟩
      · rintro _ ⟨⟩
        exact not_plus rfl
      · rintro _ ⟨⟩
        exact not_minus rfl

theorem readMagnitude_eq_ok_iff {bound result : Nat} {overflow : NumeralFault} :
    readMagnitude bound overflow behind = .ok result ↔
      behind ≠ [] ∧ Digits behind ∧ digitsValue behind = result ∧ result ≤ bound := by
  cases behind with
  | nil =>
      constructor
      · rintro ⟨⟩
      · rintro ⟨nonempty, -⟩
        exact absurd rfl nonempty
  | cons c rest =>
      rw [readMagnitude, readDigits_eq_ok_iff (Nat.zero_le bound),
        and_iff_right (List.cons_ne_nil c rest)]
      · rfl
      · rintro ⟨⟩

theorem readMagnitude_eq_error_iff {bound : Nat} {overflow fault : NumeralFault} :
    readMagnitude bound overflow behind = .error fault ↔
      (behind = [] ∧ fault = .invalidDigit) ∨ Stops bound overflow 0 behind fault := by
  cases behind with
  | nil =>
      rw [readMagnitude, Except.error.injEq]
      constructor
      · rintro rfl
        exact .inl ⟨rfl, rfl⟩
      · rintro (⟨-, rfl⟩ | stops)
        · rfl
        · have read := (readDigits_eq_error_iff (Nat.zero_le bound)).mpr stops
          cases read
  | cons c rest =>
      rw [readMagnitude, readDigits_eq_error_iff (Nat.zero_le bound)]
      · constructor
        · exact .inr
        · rintro (⟨⟨⟩, -⟩ | stops)
          exact stops
      · rintro ⟨⟩

/-- A magnitude is within its bound exactly if the number with its sign is a signed 64-bit one. -/
theorem toInt_ofInt_withSign {magnitude : Nat} (fits : magnitude ≤ greatestMagnitude negative) :
    (Int64.ofInt (withSign negative magnitude)).toInt = withSign negative magnitude := by
  cases negative with
  | true =>
      change magnitude ≤ 2 ^ 63 at fits
      change (Int64.ofInt (-(magnitude : Int))).toInt = -(magnitude : Int)
      exact Int64.toInt_ofInt_of_le (by omega) (by omega)
  | false =>
      change magnitude ≤ 2 ^ 63 - 1 at fits
      change (Int64.ofInt (magnitude : Int)).toInt = (magnitude : Int)
      exact Int64.toInt_ofInt_of_le (by omega) (by omega)

theorem le_greatestMagnitude {magnitude : Nat} {number : Int64}
    (same : withSign negative magnitude = number.toInt) :
    magnitude ≤ greatestMagnitude negative := by
  have least := number.le_toInt
  have most := number.toInt_lt
  cases negative with
  | true =>
      change -(magnitude : Int) = number.toInt at same
      change magnitude ≤ 2 ^ 63
      omega
  | false =>
      change (magnitude : Int) = number.toInt at same
      change magnitude ≤ 2 ^ 63 - 1
      omega

/-- **The numerals of signed 64-bit numbers are read, each as its number.** -/
theorem readInt64_eq_ok_iff {number : Int64} :
    readInt64 characters = .ok number ↔ Numeral characters number.toInt := by
  constructor
  · intro read
    obtain ⟨negative, behind, parted⟩ := exists_parted characters
    have nonempty : characters ≠ [] := by
      rintro rfl
      cases read
    rw [readInt64_of_parted parted nonempty] at read
    cases magnitude_read : readMagnitude (greatestMagnitude negative) (overflowFault negative)
        behind with
    | error fault =>
        rw [magnitude_read] at read
        cases read
    | ok magnitude =>
        rw [magnitude_read] at read
        cases read
        obtain ⟨some_digit, only, rfl, fits⟩ := readMagnitude_eq_ok_iff.mp magnitude_read
        rw [toInt_ofInt_withSign fits]
        exact .signed parted some_digit only
  · intro numeral
    generalize value : number.toInt = denoted at numeral
    cases numeral with
    | @signed negative digits parted some_digit only =>
        have nonempty : characters ≠ [] := by
          rintro rfl
          exact some_digit parted.eq_nil
        have fits := le_greatestMagnitude value.symm
        have magnitude_read : readMagnitude (greatestMagnitude negative) (overflowFault negative)
            digits = .ok (digitsValue digits) :=
          readMagnitude_eq_ok_iff.mpr ⟨some_digit, only, rfl, fits⟩
        have same : Int64.ofInt (withSign negative (digitsValue digits)) = number :=
          Int64.toInt_inj.mp ((toInt_ofInt_withSign fits).trans value.symm)
        rw [readInt64_of_parted parted nonempty, magnitude_read, ← same]
        rfl

/-- **Other characters are misread, with the fault that says what is wrong with them.** -/
theorem readInt64_eq_error_iff {fault : NumeralFault} :
    readInt64 characters = .error fault ↔ Misread characters fault := by
  obtain ⟨negative, behind, parted⟩ := exists_parted characters
  by_cases nothing : characters = []
  · subst nothing
    constructor
    · rintro ⟨⟩
      exact .empty rfl
    · intro misread
      cases misread with
      | empty _ => rfl
      | noDigit _ signed => exact absurd rfl signed
      | other again _ _ _ =>
          exact absurd again.eq_nil (List.append_ne_nil_of_right_ne_nil _ (List.cons_ne_nil _ _))
      | overflow again _ beyond =>
          obtain ⟨rfl, -⟩ := List.append_eq_nil_iff.mp again.eq_nil
          exact absurd beyond (Nat.not_lt_zero _)
  · have mapped : readInt64 characters = .error fault ↔
        readMagnitude (greatestMagnitude negative) (overflowFault negative) behind =
          .error fault := by
      rw [readInt64_of_parted parted nothing]
      cases readMagnitude (greatestMagnitude negative) (overflowFault negative) behind with
      | error found => rw [Except.map, Except.error.injEq, Except.error.injEq]
      | ok magnitude =>
          constructor
          · rintro ⟨⟩
          · rintro ⟨⟩
    rw [mapped, readMagnitude_eq_error_iff]
    constructor
    · rintro (⟨rfl, rfl⟩ | stops)
      · exact .noDigit parted nothing
      · cases stops with
        | other only not_digit fits => exact .other parted only not_digit fits
        | overflow only beyond => exact .overflow parted only beyond
    · intro misread
      cases misread with
      | empty none_there => exact absurd none_there nothing
      | noDigit again _ =>
          obtain ⟨rfl, rfl⟩ := parted.unique again
          exact .inl ⟨rfl, rfl⟩
      | other again only not_digit fits =>
          obtain ⟨rfl, rfl⟩ := parted.unique again
          exact .inr (.other only not_digit fits)
      | overflow again only beyond =>
          obtain ⟨rfl, rfl⟩ := parted.unique again
          exact .inr (.overflow only beyond)

end Reading

end ReplicaSync.Text
