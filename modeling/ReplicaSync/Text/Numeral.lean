/-!
# Decimal numerals

Numbers are written in decimal without leading zeros, a negative one with a minus sign in
front. A version is read from such a text more freely: a plus sign may stand in front and
there may be any number of leading zeros, but the value has to fit a signed 64-bit word.

Reading goes from left to right and stops at the first fault. A character that is no digit
is reported unless the digits before it already overflow.
-/

set_option autoImplicit false

namespace ReplicaSync

namespace Text

/-- The value of a decimal digit. -/
def digitValue? (c : Char) : Option Nat :=
  if '0' ≤ c ∧ c ≤ '9' then some (c.toNat - 48) else none

/-- The number that decimal digits denote, most significant first. Other characters do not
occur in what the callers pass. -/
def digitsValue (digits : List Char) : Nat :=
  digits.foldl (fun value c => 10 * value + (c.toNat - 48)) 0

/-- The decimal digits of a natural number. -/
def natural (value : Nat) : List Char :=
  Nat.toDigits 10 value

/-- The decimal numeral of an integer. -/
def integer : Int → List Char
  | .ofNat value => natural value
  | .negSucc value => '-' :: natural (value + 1)

end Text

/-- Why a text is no numeral of a signed 64-bit number. -/
inductive NumeralFault where
  | empty
  | invalidDigit
  | tooLarge
  | tooSmall
  deriving DecidableEq, Repr

/-- The wording of a fault in a numeral. -/
def NumeralFault.message : NumeralFault → String
  | .empty => "cannot parse integer from empty string"
  | .invalidDigit => "invalid digit found in string"
  | .tooLarge => "number too large to fit in target type"
  | .tooSmall => "number too small to fit in target type"

namespace Text

/-- Reads digits after those that make up `value`. The value may not pass `bound`. -/
def readDigits (bound : Nat) (overflow : NumeralFault) : Nat → List Char → Except NumeralFault Nat
  | value, [] => .ok value
  | value, c :: rest =>
      match digitValue? c with
      | none => .error .invalidDigit
      | some digit =>
          if bound < 10 * value + digit then .error overflow
          else readDigits bound overflow (10 * value + digit) rest

/-- Reads at least one digit. -/
def readMagnitude (bound : Nat) (overflow : NumeralFault) : List Char → Except NumeralFault Nat
  | [] => .error .invalidDigit
  | digits => readDigits bound overflow 0 digits

/-- The number of values that a signed 64-bit number has on either side of zero. -/
def int64Half : Nat := UInt64.size / 2

/-- Reads a numeral of a signed 64-bit number. -/
def readInt64 : List Char → Except NumeralFault Int64
  | [] => .error .empty
  | '+' :: digits =>
      (readMagnitude (int64Half - 1) .tooLarge digits).map fun value => Int64.ofNat value
  | '-' :: digits =>
      (readMagnitude (int64Half) .tooSmall digits).map fun value => Int64.ofInt (-(value : Int))
  | digits => (readDigits (int64Half - 1) .tooLarge 0 digits).map fun value => Int64.ofNat value

/-- The numeral of a version. -/
def int64 (value : Int64) : String :=
  String.ofList (integer value.toInt)

end Text

end ReplicaSync
