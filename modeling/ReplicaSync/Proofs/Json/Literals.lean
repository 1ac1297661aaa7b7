import Mathlib.Data.List.TakeWhile
import ReplicaSync.Json.Number

/-!
# Number literals

The grammar of number literals: digits without a leading zero, a minus sign in front or none, a
fraction of at least one digit behind a point or none, and an exponent or none
(`Json.Number.Literal`). Reading a number literal is exact for this grammar
(`Json.Number.read_eq_some_iff`). The integers among the literals are those with neither fraction
nor exponent, with the exception of minus zero (`Json.Number.integer?_eq_some_iff`).
-/

set_option autoImplicit false

namespace ReplicaSync.Json.Number

/-! ## Digits -/

/-- Digits are split off as far as they go. -/
theorem splitDigits_eq_iff {characters digits rest : List Char} :
    splitDigits characters = (digits, rest) ↔
      characters = digits ++ rest ∧ (∀ c ∈ digits, isDigit c = true) ∧
        ∀ c ∈ rest.head?, isDigit c = false := by
  constructor
  · intro split
    obtain ⟨rfl, rfl⟩ := Prod.mk.inj split
    refine ⟨List.takeWhile_append_dropWhile.symm, fun c member => List.mem_takeWhile_imp member, ?_⟩
    intro c first
    have stopped := List.head?_dropWhile_not isDigit characters
    rw [Option.mem_def.mp first] at stopped
    exact stopped
  · rintro ⟨rfl, only, stopped⟩
    have none_left : rest.takeWhile isDigit = [] ∧ rest.dropWhile isDigit = rest := by
      cases rest with
      | nil => exact ⟨rfl, rfl⟩
      | cons c rest =>
          have first := stopped c rfl
          rw [List.takeWhile_cons, List.dropWhile_cons, first]
          exact ⟨rfl, rfl⟩
    rw [splitDigits, List.takeWhile_append_of_pos only, List.dropWhile_append_of_pos only,
      none_left.1, none_left.2, List.append_nil]

/-! ## Exponents -/

/-- How the sign of an exponent is written. A plus may be left out. -/
inductive ExponentSign : Bool → List Char → Prop
  | minus : ExponentSign true ['-']
  | plus : ExponentSign false ['+']
  | none : ExponentSign false []

/-- How an exponent is written: a letter of either case, a sign and digits. -/
inductive ExponentPart : Option Exponent → List Char → Prop
  | absent : ExponentPart none []
  | present {exponent : Exponent} {letter : Char} {sign : List Char}
      (letter_eq : letter = 'e' ∨ letter = 'E') (signed : ExponentSign exponent.negative sign)
      (nonempty : exponent.digits ≠ []) (only : ∀ c ∈ exponent.digits, isDigit c = true) :
      ExponentPart (some exponent) (letter :: (sign ++ exponent.digits))

/-- An exponent does not begin with a digit. -/
theorem ExponentPart.head_not_digit {exponent : Option Exponent} {tail : List Char}
    (part : ExponentPart exponent tail) : ∀ c ∈ tail.head?, isDigit c = false := by
  cases part with
  | absent => exact nofun
  | present letter_eq _ _ _ =>
      rintro c ⟨⟩
      rcases letter_eq with rfl | rfl <;> rfl

/-- The exponent with the given sign and digits, if there are digits and nothing else. -/
theorem exponent_eq_some_iff {negative : Bool} {digits : List Char} {exponent : Exponent} :
    (if digits ≠ [] ∧ digits.all isDigit then some (Exponent.mk negative digits) else none) =
        some exponent ↔
      exponent = ⟨negative, digits⟩ ∧ digits ≠ [] ∧ ∀ c ∈ digits, isDigit c = true := by
  rw [Option.ite_none_right_eq_some, List.all_eq_true, Option.some.injEq, and_comm, eq_comm]

/-- What comes behind the letter of an exponent is read exactly. -/
theorem readExponent_eq_some_iff {characters : List Char} {exponent : Exponent} :
    readExponent characters = some exponent ↔
      ∃ sign, ExponentSign exponent.negative sign ∧ exponent.digits ≠ [] ∧
        (∀ c ∈ exponent.digits, isDigit c = true) ∧ characters = sign ++ exponent.digits := by
  constructor
  · intro found
    unfold readExponent at found
    split at found
    next taken negative digits taken_eq =>
    obtain ⟨rfl, nonempty, only⟩ := exponent_eq_some_iff.mp found
    split at taken_eq
    · cases taken_eq
      exact ⟨_, .minus, nonempty, only, rfl⟩
    · cases taken_eq
      exact ⟨_, .plus, nonempty, only, rfl⟩
    · cases taken_eq
      exact ⟨_, .none, nonempty, only, rfl⟩
  · obtain ⟨negative, digits⟩ := exponent
    rintro ⟨sign, signed, nonempty, only, rfl⟩
    have valid := (@exponent_eq_some_iff negative digits _).mpr ⟨rfl, nonempty, only⟩
    cases signed with
    | minus => exact valid
    | plus => exact valid
    | none =>
        obtain ⟨first, rest, rfl⟩ := List.exists_cons_of_ne_nil nonempty
        have digit : isDigit first = true := only first List.mem_cons_self
        rw [List.nil_append, readExponent]
        · exact valid
        · rintro _ ⟨⟩
          cases digit
        · rintro _ ⟨⟩
          cases digit

/-- An exponent is read together with its letter. -/
theorem letter_eq_some_iff {letter : Char} {rest : List Char} {build : Exponent → Number}
    {number : Number} :
    (if letter = 'e' ∨ letter = 'E' then (readExponent rest).map build else none) = some number ↔
      ∃ exponent, ExponentPart (some exponent) (letter :: rest) ∧ build exponent = number := by
  rw [Option.ite_none_right_eq_some, Option.map_eq_some_iff]
  constructor
  · rintro ⟨letter_eq, exponent, found, built⟩
    obtain ⟨sign, signed, nonempty, only, rfl⟩ := readExponent_eq_some_iff.mp found
    exact ⟨exponent, .present letter_eq signed nonempty only, built⟩
  · rintro ⟨exponent, part, built⟩
    cases part with
    | present letter_eq signed nonempty only =>
        have found := readExponent_eq_some_iff.mpr ⟨_, signed, nonempty, only, rfl⟩
        exact ⟨letter_eq, exponent, found, built⟩

/-! ## Behind the digits in front -/

/-- How a fraction is written: with a point in front, if there is one. -/
def fractionPart : List Char → List Char
  | [] => []
  | fraction => '.' :: fraction

theorem fractionPart_of_ne_nil {fraction : List Char} (nonempty : fraction ≠ []) :
    fractionPart fraction = '.' :: fraction := by
  cases fraction with
  | nil => exact absurd rfl nonempty
  | cons first more => rfl

/-- A fraction and an exponent are read behind the digits before the point. -/
theorem readTail_append {negative : Bool} {whole fraction ending : List Char}
    {exponent : Option Exponent} (only : ∀ c ∈ fraction, isDigit c = true)
    (part : ExponentPart exponent ending) :
    readTail negative whole (fractionPart fraction ++ ending) =
      some ⟨negative, whole, fraction, exponent⟩ := by
  by_cases none_there : fraction = []
  · subst none_there
    rw [fractionPart, List.nil_append]
    cases part with
    | absent => rfl
    | @present exponent letter sign letter_eq signed nonempty digits =>
        have read := (@letter_eq_some_iff letter (sign ++ exponent.digits)
          (fun exponent => { negative, whole, exponent := some exponent }) _).mpr
            ⟨exponent, .present letter_eq signed nonempty digits, rfl⟩
        rcases letter_eq with rfl | rfl <;> exact read
  · -- digits are taken as far as they go, and what comes behind them begins with none
    have split : splitDigits (fraction ++ ending) = (fraction, ending) :=
      splitDigits_eq_iff.mpr ⟨rfl, only, part.head_not_digit⟩
    rw [fractionPart_of_ne_nil none_there, List.cons_append, readTail, split]
    obtain ⟨first, more, rfl⟩ := List.exists_cons_of_ne_nil none_there
    cases part with
    | absent => rfl
    | @present exponent letter sign letter_eq signed nonempty digits =>
        have read := (@letter_eq_some_iff letter (sign ++ exponent.digits)
          (fun exponent =>
            { negative, whole, fraction := first :: more, exponent := some exponent }) _).mpr
            ⟨exponent, .present letter_eq signed nonempty digits, rfl⟩
        exact read

/-- What comes behind the digits before the point is read exactly. -/
theorem readTail_eq_some_iff {negative : Bool} {whole tail : List Char} {number : Number} :
    readTail negative whole tail = some number ↔
      number.negative = negative ∧ number.whole = whole ∧
        (∀ c ∈ number.fraction, isDigit c = true) ∧
          ∃ ending, ExponentPart number.exponent ending ∧
            tail = fractionPart number.fraction ++ ending := by
  constructor
  · intro found
    unfold readTail at found
    split at found
    · cases found
      exact ⟨rfl, rfl, nofun, [], .absent, rfl⟩
    · next characters =>
      split at found
      · cases found
      · next fraction nonempty split =>
        cases found
        obtain ⟨rfl, only, -⟩ := splitDigits_eq_iff.mp split
        refine ⟨rfl, rfl, only, [], .absent, ?_⟩
        rw [fractionPart_of_ne_nil nonempty, List.cons_append]
      · next fraction letter rest nonempty split =>
        obtain ⟨exponent, part, rfl⟩ := letter_eq_some_iff.mp found
        obtain ⟨rfl, only, -⟩ := splitDigits_eq_iff.mp split
        refine ⟨rfl, rfl, only, _, part, ?_⟩
        rw [fractionPart_of_ne_nil nonempty, List.cons_append]
    · next letter rest not_point =>
      obtain ⟨exponent, part, rfl⟩ := letter_eq_some_iff.mp found
      exact ⟨rfl, rfl, nofun, _, part, rfl⟩
  · rintro ⟨rfl, rfl, only, ending, part, rfl⟩
    exact readTail_append only part

/-! ## Number literals -/

/-- How a number is written without its sign. -/
structure Unsigned (number : Number) (characters : List Char) : Prop where
  /-- There is no zero in front of other digits. -/
  allowed : wholeAllowed number.whole = true
  whole_only : ∀ c ∈ number.whole, isDigit c = true
  fraction_only : ∀ c ∈ number.fraction, isDigit c = true
  written : ∃ ending, ExponentPart number.exponent ending ∧
    characters = number.whole ++ (fractionPart number.fraction ++ ending)

/-- How a number is written. There is no plus sign. -/
inductive Literal (number : Number) : List Char → Prop
  | positive {characters : List Char} (sign : number.negative = false)
      (unsigned : Unsigned number characters) : Literal number characters
  | negative {characters : List Char} (sign : number.negative = true)
      (unsigned : Unsigned number characters) : Literal number ('-' :: characters)

/-- A number begins with a digit behind its sign. -/
theorem Unsigned.exists_digit {number : Number} {characters : List Char}
    (unsigned : Unsigned number characters) :
    ∃ first rest, characters = first :: rest ∧ isDigit first = true := by
  obtain ⟨ending, -, rfl⟩ := unsigned.written
  cases whole : number.whole with
  | nil =>
      have allowed := unsigned.allowed
      rw [whole] at allowed
      cases allowed
  | cons first rest =>
      exact ⟨first, _, rfl, unsigned.whole_only first (whole ▸ List.mem_cons_self)⟩

/-- What comes behind the digits before the point does not begin with a digit. -/
theorem head_fractionPart_append {fraction ending : List Char} {exponent : Option Exponent}
    (part : ExponentPart exponent ending) :
    ∀ c ∈ (fractionPart fraction ++ ending).head?, isDigit c = false := by
  cases fraction with
  | nil => exact part.head_not_digit
  | cons first more =>
      rintro c ⟨⟩
      rfl

/-- Numbers are read exactly behind their sign. -/
theorem readUnsigned_eq_some_iff {negative : Bool} {characters : List Char} {number : Number} :
    (if wholeAllowed (splitDigits characters).1 then
        readTail negative (splitDigits characters).1 (splitDigits characters).2 else none) =
          some number ↔ number.negative = negative ∧ Unsigned number characters := by
  rw [Option.ite_none_right_eq_some, readTail_eq_some_iff]
  constructor
  · rintro ⟨allowed, rfl, whole_eq, fraction_only, ending, part, rest_eq⟩
    have split : splitDigits characters =
        (number.whole, fractionPart number.fraction ++ ending) := Prod.ext whole_eq.symm rest_eq
    obtain ⟨whole, whole_only, -⟩ := splitDigits_eq_iff.mp split
    exact ⟨rfl, whole_eq ▸ allowed, whole_only, fraction_only, ending, part, whole⟩
  · rintro ⟨rfl, allowed, whole_only, fraction_only, ending, part, rfl⟩
    have split : splitDigits (number.whole ++ (fractionPart number.fraction ++ ending)) =
        (number.whole, fractionPart number.fraction ++ ending) :=
      splitDigits_eq_iff.mpr ⟨rfl, whole_only, head_fractionPart_append part⟩
    rw [split]
    exact ⟨allowed, rfl, rfl, fraction_only, ending, part, rfl⟩

theorem read_minus_eq_some_iff {characters : List Char} {number : Number} :
    read ('-' :: characters) = some number ↔
      number.negative = true ∧ Unsigned number characters :=
  readUnsigned_eq_some_iff

theorem read_unsigned_eq_some_iff {characters : List Char} {number : Number}
    (no_sign : ∀ rest, characters ≠ '-' :: rest) :
    read characters = some number ↔ number.negative = false ∧ Unsigned number characters := by
  rw [read]
  · exact readUnsigned_eq_some_iff
  · exact no_sign

/-- **Number literals are read exactly.** -/
theorem read_eq_some_iff {characters : List Char} {number : Number} :
    read characters = some number ↔ Literal number characters := by
  by_cases signed : ∃ rest, characters = '-' :: rest
  · obtain ⟨rest, rfl⟩ := signed
    rw [read_minus_eq_some_iff]
    constructor
    · rintro ⟨sign, unsigned⟩
      exact .negative sign unsigned
    · intro literal
      cases literal with
      | negative sign unsigned => exact ⟨sign, unsigned⟩
      | positive sign unsigned =>
          obtain ⟨_, _, ⟨⟩, digit⟩ := unsigned.exists_digit
          cases digit
  · have no_sign (rest : List Char) : characters ≠ '-' :: rest := fun same => signed ⟨rest, same⟩
    rw [read_unsigned_eq_some_iff no_sign]
    constructor
    · rintro ⟨sign, unsigned⟩
      exact .positive sign unsigned
    · intro literal
      cases literal with
      | negative sign unsigned => exact absurd rfl (no_sign _)
      | positive sign unsigned => exact ⟨sign, unsigned⟩

/-! ### The characters of a number -/

/-- Whether a character may occur in a number literal. -/
def isPart (c : Char) : Bool :=
  isDigit c || ['-', '+', '.', 'e', 'E'].contains c

theorem isPart_of_isDigit {c : Char} (digit : isDigit c = true) : isPart c = true := by
  rw [isPart, digit, Bool.true_or]

theorem ExponentPart.isPart_of_mem {exponent : Option Exponent} {ending : List Char}
    (part : ExponentPart exponent ending) : ∀ c ∈ ending, isPart c = true := by
  cases part with
  | absent => exact nofun
  | @present exponent letter sign letter_eq signed _ only =>
      have in_sign : ∀ c ∈ sign, isPart c = true := by
        generalize exponent.negative = negative at signed
        cases signed with
        | minus => exact List.forall_mem_singleton.mpr rfl
        | plus => exact List.forall_mem_singleton.mpr rfl
        | none => exact nofun
      rintro c (_ | ⟨_, behind⟩)
      · rcases letter_eq with rfl | rfl <;> rfl
      · rcases List.mem_append.mp behind with sign | digit
        · exact in_sign c sign
        · exact isPart_of_isDigit (only c digit)

theorem isPart_of_mem_fractionPart {fraction : List Char}
    (only : ∀ c ∈ fraction, isDigit c = true) : ∀ c ∈ fractionPart fraction, isPart c = true := by
  cases fraction with
  | nil => exact nofun
  | cons first more =>
      rintro c (_ | ⟨_, digit⟩)
      · rfl
      · exact isPart_of_isDigit (only c digit)

theorem Unsigned.isPart_of_mem {number : Number} {characters : List Char}
    (unsigned : Unsigned number characters) : ∀ c ∈ characters, isPart c = true := by
  obtain ⟨ending, part, rfl⟩ := unsigned.written
  intro c member
  rcases List.mem_append.mp member with whole | behind
  · exact isPart_of_isDigit (unsigned.whole_only c whole)
  · rcases List.mem_append.mp behind with fraction | exponent
    · exact isPart_of_mem_fractionPart unsigned.fraction_only c fraction
    · exact part.isPart_of_mem c exponent

theorem Literal.isPart_of_mem {number : Number} {characters : List Char}
    (literal : Literal number characters) : ∀ c ∈ characters, isPart c = true := by
  cases literal with
  | positive _ unsigned => exact unsigned.isPart_of_mem
  | negative _ unsigned =>
      rintro c (_ | ⟨_, behind⟩)
      · rfl
      · exact unsigned.isPart_of_mem c behind

/-! ## Integers -/

/-- The integer that a literal denotes, if it has neither a fraction nor an exponent. Minus zero
denotes none. -/
inductive Denotes (number : Number) : Int → Prop
  | positive (whole : number.fraction = [] ∧ number.exponent = none)
      (sign : number.negative = false) : Denotes number (Text.digitsValue number.whole)
  | negative (whole : number.fraction = [] ∧ number.exponent = none)
      (sign : number.negative = true) (nonzero : Text.digitsValue number.whole ≠ 0) :
      Denotes number (-(Text.digitsValue number.whole : Int))

theorem integer?_eq_some_iff {number : Number} {value : Int} :
    number.integer? = some value ↔ Denotes number value := by
  rw [integer?]
  split
  · next broken =>
    constructor
    · rintro ⟨⟩
    · rintro (⟨⟨no_fraction, no_exponent⟩, -⟩ | ⟨⟨no_fraction, no_exponent⟩, -, -⟩) <;>
        simp [no_fraction, no_exponent] at broken
  · next whole =>
    have parts : number.fraction = [] ∧ number.exponent = none := by
      simpa [not_or] using whole
    dsimp only
    constructor
    · intro found
      split at found
      · next sign =>
        split at found
        · cases found
        · next nonzero =>
          cases found
          exact .negative parts sign nonzero
      · next sign =>
        cases found
        exact .positive parts (Bool.eq_false_iff.mpr sign)
    · rintro (⟨-, sign⟩ | ⟨-, sign, nonzero⟩)
      · rw [sign]
        rfl
      · rw [if_pos sign, if_neg nonzero]

end ReplicaSync.Json.Number
