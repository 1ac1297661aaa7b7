import ReplicaSync.Json.Token

/-!
# Tokens and words

A value has tokens: brackets, commas, colons and its parts that have no parts themselves
(`Json.tokens`). Cutting characters into tokens goes on from the tokens found before (`Json.scan`).
A bracket is a token by itself and a string ends with its quotation mark, but a bare word ends only
where something else begins. So it matters what follows a word: it has to be nothing, or to begin
with a character that ends a word (`Json.EndsWord`).
-/

set_option autoImplicit false

namespace ReplicaSync.Json

/-! ## Values and their tokens -/

mutual

/-- The tokens of a value. -/
def tokens : Json → List Token
  | .array [] => [.openArray, .closeArray]
  | .array (first :: items) => .openArray :: (tokens first ++ itemTokens items)
  | .object [] => [.openObject, .closeObject]
  | .object ((key, value) :: members) =>
      .openObject :: .atom (.string key) :: .colon :: (tokens value ++ memberTokens members)
  | scalar => [.atom scalar]

/-- The tokens of the items after the first one, up to the end of the array. -/
def itemTokens : List Json → List Token
  | [] => [.closeArray]
  | item :: items => .comma :: (tokens item ++ itemTokens items)

/-- The tokens of the members after the first one, up to the end of the object. -/
def memberTokens : List (JsonText × Json) → List Token
  | [] => [.closeObject]
  | (key, value) :: members =>
      .comma :: .atom (.string key) :: .colon :: (tokens value ++ memberTokens members)

end

/-! ## Scanning -/

/-- The tokens of some characters after those found already, newest first. -/
def scan (found : List Token) (characters : List Char) : Option (List Token) :=
  (Scanner.run ⟨.between, found⟩ characters).bind Scanner.finish

theorem tokens?_eq_scan (characters : List Char) : tokens? characters = scan [] characters := by
  rw [tokens?, scan]
  cases Scanner.run {} characters <;> rfl

/-- Whether a character ends a bare word. -/
def endsWord (c : Char) : Bool :=
  isSpace c || c == '"' || (punctuation? c).isSome

/-- Whether a bare word ends before some characters. -/
def EndsWord (characters : List Char) : Prop :=
  ∀ c ∈ characters.head?, endsWord c = true

theorem endsWord_nil : EndsWord [] := by
  rintro c ⟨⟩

theorem run_cons (scanner : Scanner) (c : Char) (rest : List Char) :
    scanner.run (c :: rest) = (scanner.step c).bind fun next => next.run rest := by
  rw [Scanner.run]
  cases scanner.step c <;> rfl

/-! ### Words -/

theorem begin_of_not_endsWord {c : Char} (inside : endsWord c = false) (found : List Token) :
    Scanner.begin found c = ⟨.word [c], found⟩ := by
  simp only [endsWord, Bool.or_eq_false_iff, beq_eq_false_iff_ne] at inside
  obtain ⟨⟨not_space, not_quote⟩, not_punctuation⟩ := inside
  have none_there : punctuation? c = none := by
    simpa using not_punctuation
  rw [Scanner.begin, not_space, none_there]
  simp [not_quote]

theorem run_word (word : List Char) (inside : ∀ c ∈ word, endsWord c = false)
    (taken : List Char) (found : List Token) (rest : List Char) :
    Scanner.run ⟨.word taken, found⟩ (word ++ rest) =
      Scanner.run ⟨.word (word.reverse ++ taken), found⟩ rest := by
  induction word generalizing taken with
  | nil => rfl
  | cons c word ih =>
      have goes_on : endsWord c = false := inside c List.mem_cons_self
      have step : Scanner.step ⟨.word taken, found⟩ c = some ⟨.word (c :: taken), found⟩ := by
        rw [Scanner.step]
        exact if_neg (by rw [endsWord] at goes_on; rw [goes_on]; decide)
      rw [List.cons_append, run_cons, step, Option.bind_some,
        ih (fun other member => inside other (List.mem_cons_of_mem _ member)), List.reverse_cons,
        List.append_assoc]
      rfl

theorem not_endsWord_of_mem {word : List Char} (inside : word.any endsWord = false) :
    ∀ c ∈ word, endsWord c = false := by
  intro c member
  exact Bool.eq_false_iff.mpr (List.any_eq_false.mp inside c member)

theorem endsWord_of_digit {c : Char} (digit : '0' ≤ c ∧ c ≤ '9') : endsWord c = false := by
  have least : 48 ≤ c.toNat := UInt32.le_iff_toNat_le.mp digit.1
  have most : c.toNat ≤ 57 := UInt32.le_iff_toNat_le.mp digit.2
  have all : ∀ digit : Fin 10, endsWord (Char.ofNat (48 + digit)) = false := by decide
  have here := all ⟨c.toNat - 48, by omega⟩
  rw [Nat.add_sub_cancel' least, Char.ofNat_toNat] at here
  exact here

/-- A bare word is found once it has ended. -/
theorem scan_word {word : List Char} {value : Json} (nonempty : word ≠ [])
    (inside : ∀ c ∈ word, endsWord c = false) (means : ofWord word = some value)
    (found : List Token) {rest : List Char} (ends : EndsWord rest) :
    scan found (word ++ rest) = scan (.atom value :: found) rest := by
  have reached : Scanner.run ⟨.between, found⟩ (word ++ rest) =
      Scanner.run ⟨.word word.reverse, found⟩ rest := by
    cases word with
    | nil => exact absurd rfl nonempty
    | cons c word =>
        have first : Scanner.step ⟨.between, found⟩ c = some ⟨.word [c], found⟩ :=
          congrArg some (begin_of_not_endsWord (inside c List.mem_cons_self) found)
        rw [List.cons_append, run_cons, first, Option.bind_some,
          run_word word fun other member => inside other (List.mem_cons_of_mem _ member),
          List.reverse_cons]
  rw [scan, reached, scan]
  cases rest with
  | nil =>
      rw [Scanner.run, Scanner.run, Option.bind_some, Option.bind_some, Scanner.finish,
        Scanner.finish]
      dsimp only
      rw [List.reverse_reverse, means]
      rfl
  | cons c rest =>
      have ended : endsWord c = true := ends c rfl
      have step : Scanner.step ⟨.word word.reverse, found⟩ c =
          some (Scanner.begin (.atom value :: found) c) := by
        rw [endsWord] at ended
        rw [Scanner.step]
        dsimp only
        rw [if_pos ended, List.reverse_reverse, means]
        rfl
      rw [run_cons, run_cons, step]
      rfl

end ReplicaSync.Json
