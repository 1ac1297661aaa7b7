import ReplicaSync.Proofs.Json.Literals
import ReplicaSync.Proofs.Json.Scanning

/-!
# The grammar of JSON documents

A document of a value is made up of the tokens of the value, with white space anywhere between them
(`Json.Spells`). A bracket, a comma and a colon are spelled in one way. A bare word is one of the
three names or a number literal, and ends only where something else begins. A string is spelled
character by character, as it is or by an escape, and it denotes a text if no half of a character
stands alone.

Cutting characters into tokens is exact for this grammar (`Json.tokens?_eq_some_iff`). Tokens that
are spelled are found one after the other. What is found is spelled, since the mode of the machine
shows what it has taken of a token (`Json.Mode.Took`).
-/

set_option autoImplicit false

namespace ReplicaSync.Json

/-! ## Words -/

/-- The bare words and what they mean. -/
inductive Word : List Char → Json → Prop
  | nullName : Word ['n', 'u', 'l', 'l'] .null
  | trueName : Word ['t', 'r', 'u', 'e'] (.bool true)
  | falseName : Word ['f', 'a', 'l', 's', 'e'] (.bool false)
  | number {characters : List Char} {number : Number} (literal : number.Literal characters) :
      Word characters (.number number)

theorem Word.ne_nil {word : List Char} {value : Json} (means : Word word value) : word ≠ [] := by
  cases means with
  | nullName => exact List.cons_ne_nil _ _
  | trueName => exact List.cons_ne_nil _ _
  | falseName => exact List.cons_ne_nil _ _
  | number literal =>
      cases literal with
      | positive _ unsigned =>
          obtain ⟨first, rest, rfl, -⟩ := unsigned.exists_digit
          exact List.cons_ne_nil _ _
      | negative _ _ => exact List.cons_ne_nil _ _

/-- A word is read as what it means. -/
theorem ofWord_eq_some_iff {word : List Char} {value : Json} :
    ofWord word = some value ↔ Word word value := by
  rw [ofWord]
  constructor
  · intro found
    split at found
    · next name => cases found; exact name ▸ .nullName
    · split at found
      · next name => cases found; exact name ▸ .trueName
      · split at found
        · next name => cases found; exact name ▸ .falseName
        · obtain ⟨number, read, rfl⟩ := Option.map_eq_some_iff.mp found
          exact .number (Number.read_eq_some_iff.mp read)
  · intro means
    cases means with
    | nullName => rfl
    | trueName => rfl
    | falseName => rfl
    | @number word number literal =>
        have read := Number.read_eq_some_iff.mpr literal
        have no_name (name : List Char) (refused : Number.read name = none) : word ≠ name := by
          rintro rfl
          rw [refused] at read
          cases read
        rw [if_neg (no_name _ rfl), if_neg (no_name _ rfl), if_neg (no_name _ rfl), read]
        rfl

/-- No character of a word ends it. -/
theorem Word.not_endsWord {word : List Char} {value : Json} (means : Word word value) :
    ∀ c ∈ word, endsWord c = false := by
  cases means with
  | nullName => exact not_endsWord_of_mem rfl
  | trueName => exact not_endsWord_of_mem rfl
  | falseName => exact not_endsWord_of_mem rfl
  | number literal =>
      intro c member
      have part := literal.isPart_of_mem c member
      rw [Number.isPart, Bool.or_eq_true, List.contains_iff_mem] at part
      rcases part with digit | mark
      · rw [Number.isDigit, Bool.and_eq_true, decide_eq_true_iff, decide_eq_true_iff] at digit
        exact endsWord_of_digit digit
      · exact not_endsWord_of_mem rfl c mark

/-! ## Strings -/

/-- The code of hexadecimal digits of either case behind those that make up a code. -/
def codeFrom? : Nat → List Char → Option Nat
  | code, [] => some code
  | code, c :: rest => (hexValue? c).bind fun digit => codeFrom? (16 * code + digit) rest

/-- How the units of a string are spelled between its quotation marks: as they are, by a short
escape, or by a code. -/
inductive Escaped : List Char → List TextUnit → Prop
  | nil : Escaped [] []
  | plain {c : Char} {rest : List Char} {units : List TextUnit} (not_quote : c ≠ '"')
      (not_escape : c ≠ '\\') (not_control : 0x20 ≤ c.toNat) (more : Escaped rest units) :
      Escaped (c :: rest) (.scalar c :: units)
  | short {c meant : Char} {rest : List Char} {units : List TextUnit}
      (means : simpleEscape? c = some meant) (more : Escaped rest units) :
      Escaped ('\\' :: c :: rest) (.scalar meant :: units)
  | code {digits rest : List Char} {code : Nat} {units : List TextUnit}
      (four : digits.length = 4) (means : codeFrom? 0 digits = some code)
      (more : Escaped rest units) :
      Escaped ('\\' :: 'u' :: (digits ++ rest)) (.ofCode code :: units)

/-! ## Documents -/

/-- How tokens are spelled, with white space anywhere around them. -/
inductive Spells : List Token → List Char → Prop
  | done : Spells [] []
  | space {c : Char} {rest : List Char} {tokens : List Token} (blank : isSpace c = true)
      (more : Spells tokens rest) : Spells tokens (c :: rest)
  | punctuation {c : Char} {rest : List Char} {token : Token} {tokens : List Token}
      (means : punctuation? c = some token) (more : Spells tokens rest) :
      Spells (token :: tokens) (c :: rest)
  | text {body rest : List Char} {units : List TextUnit} {tokens : List Token}
      (escaped : Escaped body units) (more : Spells tokens rest) :
      Spells (.atom (.string (joinUnits units.reverse)) :: tokens) ('"' :: (body ++ '"' :: rest))
  | word {word rest : List Char} {value : Json} {tokens : List Token} (means : Word word value)
      (ends : EndsWord rest) (more : Spells tokens rest) :
      Spells (.atom value :: tokens) (word ++ rest)

/-! ### Spelled tokens are found -/

theorem scan_space {c : Char} (blank : isSpace c = true) (found : List Token) (rest : List Char) :
    scan found (c :: rest) = scan found rest := by
  have step : Scanner.step ⟨.between, found⟩ c = some ⟨.between, found⟩ := by
    rw [Scanner.step, Scanner.begin, if_pos blank]
  rw [scan, run_cons, step]
  rfl

/-- A character of punctuation is neither blank nor a quotation mark. -/
theorem punctuation?_cases {c : Char} {token : Token} (means : punctuation? c = some token) :
    isSpace c = false ∧ c ≠ '"' := by
  unfold punctuation? at means
  split at means <;> first | exact ⟨rfl, by decide⟩ | cases means

theorem scan_punctuation {c : Char} {token : Token} (means : punctuation? c = some token)
    (found : List Token) (rest : List Char) :
    scan found (c :: rest) = scan (token :: found) rest := by
  obtain ⟨not_space, not_quote⟩ := punctuation?_cases means
  have step : Scanner.step ⟨.between, found⟩ c = some ⟨.between, token :: found⟩ := by
    rw [Scanner.step, Scanner.begin, not_space, if_neg Bool.false_ne_true, if_neg not_quote, means]
  rw [scan, run_cons, step]
  rfl

/-- The digits of a code are taken one after the other. -/
theorem run_digits {digits : List Char} {code value : Nat}
    (means : codeFrom? value digits = some code) (nonempty : digits ≠ [])
    (units : List TextUnit) (found : List Token) (rest : List Char) :
    Scanner.run ⟨.code units digits.length value, found⟩ (digits ++ rest) =
      Scanner.run ⟨.quoted (.ofCode code :: units), found⟩ rest := by
  induction digits generalizing value with
  | nil => exact absurd rfl nonempty
  | cons c digits ih =>
      obtain ⟨digit, is_digit, more⟩ := Option.bind_eq_some_iff.mp means
      rw [List.cons_append, run_cons, Scanner.step]
      dsimp only
      rw [is_digit, Option.map_some, Option.bind_some]
      cases digits with
      | nil =>
          cases more
          rfl
      | cons next digits =>
          rw [if_neg (by simp)]
          exact ih more (List.cons_ne_nil _ _)

/-- A spelled string is taken unit by unit. -/
theorem run_escaped {body : List Char} {more : List TextUnit} (escaped : Escaped body more)
    (units : List TextUnit) (found : List Token) (rest : List Char) :
    Scanner.run ⟨.quoted units, found⟩ (body ++ rest) =
      Scanner.run ⟨.quoted (more.reverse ++ units), found⟩ rest := by
  induction escaped generalizing units with
  | nil => rfl
  | @plain c body more not_quote not_escape not_control _ ih =>
      have step : Scanner.step ⟨.quoted units, found⟩ c =
          some ⟨.quoted (.scalar c :: units), found⟩ := by
        rw [Scanner.step]
        dsimp only
        rw [if_neg not_quote, if_neg not_escape, if_neg (Nat.not_lt.mpr not_control)]
      rw [List.cons_append, run_cons, step, Option.bind_some, ih, List.reverse_cons,
        List.append_assoc]
      rfl
  | @short c meant body more means _ ih =>
      have opened (after : List Char) : Scanner.run ⟨.quoted units, found⟩ ('\\' :: after) =
          Scanner.run ⟨.escape units, found⟩ after := rfl
      have not_code : c ≠ 'u' := by
        rintro rfl
        cases means
      have step : Scanner.step ⟨.escape units, found⟩ c =
          some ⟨.quoted (.scalar meant :: units), found⟩ := by
        rw [Scanner.step]
        dsimp only
        rw [if_neg not_code, means]
        rfl
      rw [List.cons_append, opened, List.cons_append, run_cons, step, Option.bind_some, ih,
        List.reverse_cons, List.append_assoc]
      rfl
  | @code digits body code more four means _ ih =>
      have opened (after : List Char) : Scanner.run ⟨.quoted units, found⟩ ('\\' :: 'u' :: after) =
          Scanner.run ⟨.code units 4 0, found⟩ after := rfl
      have nonempty : digits ≠ [] := by
        rintro rfl
        cases four
      have taken := run_digits means nonempty units found (body ++ rest)
      rw [four] at taken
      rw [List.cons_append, List.cons_append, opened, List.append_assoc, taken, ih,
        List.reverse_cons, List.append_assoc]
      rfl

/-- **Tokens that are spelled are found.** -/
theorem scan_of_spells {tokens : List Token} {characters : List Char}
    (spells : Spells tokens characters) (found : List Token) :
    scan found characters = some (found.reverse ++ tokens) := by
  induction spells generalizing found with
  | done =>
      rw [List.append_nil]
      rfl
  | space blank _ ih => rw [scan_space blank, ih]
  | punctuation means _ ih =>
      rw [scan_punctuation means, ih, List.reverse_cons, List.append_assoc]
      rfl
  | @text body rest units tokens escaped _ ih =>
      have opened (after : List Char) :
          Scanner.run ⟨.between, found⟩ ('"' :: after) = Scanner.run ⟨.quoted [], found⟩ after :=
        rfl
      have closed : (Scanner.run ⟨.quoted units.reverse, found⟩ ('"' :: rest)).bind
            Scanner.finish =
          scan (.atom (.string (joinUnits units.reverse)) :: found) rest := rfl
      rw [scan, opened, run_escaped escaped, List.append_nil, closed, ih, List.reverse_cons,
        List.append_assoc]
      rfl
  | word means ends _ ih =>
      rw [scan_word means.ne_nil means.not_endsWord (ofWord_eq_some_iff.mpr means) found ends, ih,
        List.reverse_cons, List.append_assoc]
      rfl

/-! ### Found tokens are spelled -/

theorem codeFrom?_append_singleton (digits : List Char) (c : Char) (value : Nat) :
    codeFrom? value (digits ++ [c]) =
      (codeFrom? value digits).bind fun code =>
        (hexValue? c).map fun digit => 16 * code + digit := by
  induction digits generalizing value with
  | nil =>
      rw [List.nil_append, codeFrom?, codeFrom?, Option.bind_some]
      cases hexValue? c <;> rfl
  | cons first digits ih =>
      rw [List.cons_append, codeFrom?, codeFrom?]
      cases hexValue? first with
      | none => rfl
      | some digit => exact ih (16 * value + digit)

theorem Escaped.append {body after : List Char} {units more : List TextUnit}
    (escaped : Escaped body units) (behind : Escaped after more) :
    Escaped (body ++ after) (units ++ more) := by
  induction escaped with
  | nil => exact behind
  | plain not_quote not_escape not_control _ ih => exact .plain not_quote not_escape not_control ih
  | short means _ ih => exact .short means ih
  | code four means _ ih =>
      rw [List.cons_append, List.cons_append, List.append_assoc]
      exact .code four means ih

/-- What a machine in a mode has taken of a token. -/
inductive Mode.Took : Mode → List Char → Prop
  | between : Took .between []
  | word (taken : List Char) : Took (.word taken) taken.reverse
  | quoted {units : List TextUnit} {body : List Char} (escaped : Escaped body units.reverse) :
      Took (.quoted units) ('"' :: body)
  | escape {units : List TextUnit} {body : List Char} (escaped : Escaped body units.reverse) :
      Took (.escape units) ('"' :: (body ++ ['\\']))
  | code {units : List TextUnit} {body digits : List Char} {left value : Nat}
      (escaped : Escaped body units.reverse) (means : codeFrom? 0 digits = some value)
      (four : digits.length + left = 4) (some_left : 0 < left) :
      Took (.code units left value) ('"' :: (body ++ '\\' :: 'u' :: digits))

/-- A unit is spelled behind those that were taken before it. -/
theorem Mode.Took.unit {units : List TextUnit} {body after : List Char} {unit : TextUnit}
    (escaped : Escaped body units.reverse) (spelled : Escaped after [unit]) :
    Took (.quoted (unit :: units)) ('"' :: (body ++ after)) := by
  refine .quoted ?_
  rw [List.reverse_cons]
  exact escaped.append spelled

/-- The character that a machine takes continues what it has taken, or completes tokens. The
characters that spell further tokens behind that spell them behind the completed ones, too. -/
def Completes (found : List Token) (taken : List Char) (c : Char) (next : Scanner) : Prop :=
  ∃ complete begun, next.tokens = complete.reverse ++ found ∧ next.mode.Took begun ∧
    ∀ tokens rest, Spells tokens (begun ++ rest) → Spells (complete ++ tokens) (taken ++ c :: rest)

/-- What continues a token completes none. -/
theorem completes_of_continues {mode : Mode} {found : List Token} {taken : List Char} {c : Char}
    (took : mode.Took (taken ++ [c])) : Completes found taken c ⟨mode, found⟩ := by
  refine ⟨[], taken ++ [c], rfl, took, fun tokens rest spells => ?_⟩
  rwa [List.append_assoc] at spells

/-- Between tokens, every character begins a token, is one or is blank. -/
theorem completes_begin (found : List Token) (c : Char) :
    Completes found [] c (Scanner.begin found c) := by
  rw [Scanner.begin]
  split
  · next blank => exact ⟨[], [], rfl, .between, fun tokens rest => .space blank⟩
  · split
    · next quote =>
      subst quote
      exact completes_of_continues (.quoted .nil)
    · split
      · next token means =>
        exact ⟨[token], [], rfl, .between, fun tokens rest => .punctuation means⟩
      · exact completes_of_continues (.word [c])

/-- **Every character continues what the machine has taken, or completes it.** -/
theorem completes_step {mode : Mode} {found : List Token} {taken : List Char} {c : Char}
    {next : Scanner} (took : mode.Took taken) (step : Scanner.step ⟨mode, found⟩ c = some next) :
    Completes found taken c next := by
  rw [Scanner.step] at step
  cases took with
  | between =>
      obtain rfl := Option.some.inj step
      exact completes_begin found c
  | word taken =>
      dsimp only at step
      split at step
      · next ends =>
        obtain ⟨value, means, rfl⟩ := Option.map_eq_some_iff.mp step
        -- the word is complete, and the same character begins what comes next
        obtain ⟨complete, begun, tokens_eq, took, spells⟩ :=
          completes_begin (.atom value :: found) c
        refine ⟨.atom value :: complete, begun, ?_, took, fun tokens rest more => ?_⟩
        · rw [tokens_eq, List.reverse_cons, List.append_assoc]
          rfl
        · refine .word (ofWord_eq_some_iff.mp means) ?_ (spells tokens rest more)
          rintro _ ⟨⟩
          exact ends
      · obtain rfl := Option.some.inj step
        refine completes_of_continues ?_
        rw [← List.reverse_cons]
        exact .word (c :: taken)
  | @quoted units body escaped =>
      dsimp only at step
      split at step
      · next quote =>
        subst quote
        obtain rfl := Option.some.inj step
        refine ⟨[_], [], rfl, .between, fun tokens rest more => ?_⟩
        have text := Spells.text escaped more
        rw [List.reverse_reverse] at text
        exact text
      · next not_quote =>
        split at step
        · next slash =>
          subst slash
          obtain rfl := Option.some.inj step
          exact completes_of_continues (.escape escaped)
        · next not_escape =>
          split at step
          · cases step
          · next not_control =>
            obtain rfl := Option.some.inj step
            have plain : Escaped [c] [.scalar c] :=
              .plain not_quote not_escape (Nat.not_lt.mp not_control) .nil
            exact completes_of_continues (.unit escaped plain)
  | @escape units body escaped =>
      dsimp only at step
      split at step
      · next letter =>
        subst letter
        obtain rfl := Option.some.inj step
        refine completes_of_continues ?_
        rw [List.cons_append, List.append_assoc]
        exact .code escaped rfl rfl (by decide)
      · obtain ⟨meant, means, rfl⟩ := Option.map_eq_some_iff.mp step
        refine completes_of_continues ?_
        rw [List.cons_append, List.append_assoc]
        exact .unit escaped (.short means .nil)
  | @code units body digits left value escaped means four some_left =>
      obtain ⟨digit, is_digit, rfl⟩ := Option.map_eq_some_iff.mp step
      have longer : codeFrom? 0 (digits ++ [c]) = some (16 * value + digit) := by
        rw [codeFrom?_append_singleton, means, Option.bind_some, is_digit, Option.map_some]
      have length : (digits ++ [c]).length = digits.length + 1 := List.length_append
      dsimp only
      split
      · have all_four : (digits ++ [c]).length = 4 := by omega
        have code := Escaped.code all_four longer .nil
        refine completes_of_continues ?_
        rw [List.cons_append, List.append_assoc]
        rw [List.append_nil] at code
        exact .unit escaped code
      · have together_four : (digits ++ [c]).length + (left - 1) = 4 := by omega
        refine completes_of_continues ?_
        rw [List.cons_append, List.append_assoc]
        exact .code escaped longer together_four (by omega)

/-- What a machine finds from some mode on is spelled by what it has taken and what follows. -/
theorem spells_of_run {characters taken : List Char} {mode : Mode} {found all : List Token}
    (took : mode.Took taken)
    (finished : (Scanner.run ⟨mode, found⟩ characters).bind Scanner.finish = some all) :
    ∃ tokens, all = found.reverse ++ tokens ∧ Spells tokens (taken ++ characters) := by
  -- what has been taken moves into the statement, so that the induction can stop inside a token
  induction characters generalizing mode found taken with
  | nil =>
      rw [List.append_nil]
      cases took with
      | between =>
          obtain rfl := Option.some.inj finished
          exact ⟨[], (List.append_nil _).symm, .done⟩
      | word taken =>
          obtain ⟨value, means, rfl⟩ := Option.map_eq_some_iff.mp finished
          refine ⟨[.atom value], List.reverse_cons, ?_⟩
          have word := Spells.word (ofWord_eq_some_iff.mp means) endsWord_nil .done
          rwa [List.append_nil] at word
      | quoted _ => cases finished
      | escape _ => cases finished
      | code _ _ _ _ => cases finished
  | cons c characters ih =>
      rw [run_cons, Option.bind_assoc] at finished
      obtain ⟨next, step, finished⟩ := Option.bind_eq_some_iff.mp finished
      obtain ⟨complete, begun, tokens_eq, took, spells⟩ := completes_step took step
      obtain ⟨tokens, rfl, more⟩ := ih took finished
      refine ⟨complete ++ tokens, ?_, spells tokens characters more⟩
      rw [tokens_eq, List.reverse_append, List.reverse_reverse, List.append_assoc]

/-- **The tokens of a document are those that it spells.** -/
theorem tokens?_eq_some_iff {characters : List Char} {tokens : List Token} :
    tokens? characters = some tokens ↔ Spells tokens characters := by
  rw [tokens?_eq_scan]
  constructor
  · intro found
    obtain ⟨tokens, rfl, spells⟩ := spells_of_run .between found
    exact spells
  · exact fun spells => scan_of_spells spells []

end ReplicaSync.Json
