import ReplicaSync.Text.Numeral

/-!
# Number literals

A number literal has an optional minus sign, digits without a leading zero unless zero is the
only digit, an optional fraction and an optional exponent. A literal with neither fraction nor
exponent is an integer, with one exception: minus zero is not.

A literal is out of range when it is too large for a double. Its magnitude is the number made
of its leading digits, as many as fit 64 bits, times a power of ten. Both factors and their
product are rounded to 53 binary digits, halves to even, and a product from two to the power
of 1024 on is too large.
-/

set_option autoImplicit false

namespace ReplicaSync.Json

/-- The exponent of a number literal. -/
structure Exponent where
  negative : Bool
  digits : List Char
  deriving DecidableEq, Repr

/-- A number literal. -/
structure Number where
  negative : Bool := false
  /-- The digits before the point. -/
  whole : List Char
  /-- The digits after the point. There are none if there is no point. -/
  fraction : List Char := []
  exponent : Option Exponent := none
  deriving DecidableEq, Repr

namespace Number

/-! ## Reading and writing -/

/-- Whether a character is a decimal digit. -/
def isDigit (c : Char) : Bool := '0' ≤ c && c ≤ '9'

/-- The digits at the head of some characters, and what comes after them. -/
def splitDigits (characters : List Char) : List Char × List Char :=
  (characters.takeWhile isDigit, characters.dropWhile isDigit)

/-- Reads an exponent after its letter. It has to end the characters. -/
def readExponent (characters : List Char) : Option Exponent :=
  let (negative, digits) :=
    match characters with
    | '-' :: rest => (true, rest)
    | '+' :: rest => (false, rest)
    | rest => (false, rest)
  if digits ≠ [] ∧ digits.all isDigit then some ⟨negative, digits⟩ else none

/-- Whether digits may stand before the point. -/
def wholeAllowed : List Char → Bool
  | [] => false
  | ['0'] => true
  | first :: _ => first != '0'

/-- Reads what follows the digits before the point. -/
def readTail (negative : Bool) (whole : List Char) : List Char → Option Number
  | [] => some { negative, whole }
  | '.' :: characters =>
      match splitDigits characters with
      | ([], _) => none
      | (fraction, []) => some { negative, whole, fraction }
      | (fraction, letter :: rest) =>
          if letter = 'e' ∨ letter = 'E' then
            (readExponent rest).map fun exponent =>
              { negative, whole, fraction, exponent := some exponent }
          else none
  | letter :: rest =>
      if letter = 'e' ∨ letter = 'E' then
        (readExponent rest).map fun exponent => { negative, whole, exponent := some exponent }
      else none

/-- Reads a number literal that takes up all the characters. -/
def read (characters : List Char) : Option Number :=
  let (negative, rest) :=
    match characters with
    | '-' :: rest => (true, rest)
    | rest => (false, rest)
  let (whole, tail) := splitDigits rest
  if wholeAllowed whole then readTail negative whole tail else none

/-- The characters of a number literal. -/
def text (number : Number) : List Char :=
  (if number.negative then ['-'] else []) ++ number.whole ++
    (if number.fraction = [] then [] else '.' :: number.fraction) ++
    match number.exponent with
    | none => []
    | some exponent => 'e' :: ((if exponent.negative then ['-'] else []) ++ exponent.digits)

/-! ## Integers -/

/-- The literal of an integer. -/
def ofInt : Int → Number
  | .ofNat value => { whole := Text.natural value }
  | .negSucc value => { negative := true, whole := Text.natural (value + 1) }

/-- The integer that a literal in integer syntax denotes. -/
def integer? (number : Number) : Option Int :=
  if number.fraction ≠ [] ∨ number.exponent.isSome then none
  else
    let value := Text.digitsValue number.whole
    if number.negative then (if value = 0 then none else some (-(value : Int)))
    else some value

/-! ## Range of doubles -/

/-- Rounds to a number with at most 53 binary digits before its zeros, halves to even. -/
def roundTo53 (value : Nat) : Nat :=
  let size := value.log2 + 1
  if size ≤ 53 then value
  else
    let unit := Nat.pow 2 (size - 53)
    let quotient := value / unit
    let rest := value % unit
    let up := unit < 2 * rest ∨ (unit = 2 * rest ∧ quotient % 2 = 1)
    (if up then quotient + 1 else quotient) * unit

/-- Takes digits into a number as long as it fits 64 bits. The second number counts the digits
taken, and the last one the digits left. -/
def leadingDigits : (value taken : Nat) → List Char → Nat × Nat × Nat
  | value, taken, [] => (value, taken, 0)
  | value, taken, c :: rest =>
      let next := 10 * value + (c.toNat - 48)
      if next < UInt64.size then leadingDigits next (taken + 1) rest
      else (value, taken, rest.length + 1)

/-- The leading digits of a literal as a number, and the power of ten it is to be scaled by
when the exponent is left out. -/
def significand (number : Number) : Nat × Int :=
  match leadingDigits 0 0 number.whole with
  | (value, _, 0) =>
      let (longer, taken, _) := leadingDigits value 0 number.fraction
      (longer, -(taken : Int))
  | (value, _, left) =>
      -- A fraction goes on only if its next digit still fits.
      let (longer, taken, _) := leadingDigits value 0 number.fraction
      (longer, (left : Int) - taken)

/-- The power of ten that the exponent of a literal adds. -/
def exponentValue (number : Number) : Int :=
  match number.exponent with
  | none => 0
  | some exponent =>
      let value : Int := Text.digitsValue exponent.digits
      if exponent.negative then -value else value

/-- The greatest power of ten within the range of doubles. -/
def greatestPower : Int := 308

/-- Whether a literal is too large for a double. -/
def outOfRange (number : Number) : Bool :=
  let (value, scale) := number.significand
  let power := scale + number.exponentValue
  if value = 0 ∨ power < 0 then false
  else if greatestPower < power then true
  else Nat.pow 2 1024 ≤ roundTo53 (roundTo53 value * roundTo53 (Nat.pow 10 power.toNat))

end Number

end ReplicaSync.Json
