import ReplicaSync.Json.Printer
import ReplicaSync.Proofs.Json.Numbers
import ReplicaSync.Proofs.Json.Parsing

/-!
# Reading what was printed

What is printed of a value spells the tokens of the value, in the compact form and in the indented
one. So both are read as that value (`Json.parse?_compact`, `Json.parse?_indented`), whatever texts
it holds and however deep it is. What follows a value has to end a word, and after an item of an
array or a member of an object it does.

Numbers are taken to be integers. The forms that are printed hold no others.
-/

set_option autoImplicit false

namespace ReplicaSync.Json

mutual

/-- Whether all numbers in a value are literals of integers. -/
def Integral : Json → Prop
  | .number value => ∃ number, value = .ofInt number
  | .array items => IntegralItems items
  | .object members => IntegralMembers members
  | _ => True

/-- Whether all numbers in some items are literals of integers. -/
def IntegralItems : List Json → Prop
  | [] => True
  | item :: items => Integral item ∧ IntegralItems items

/-- Whether all numbers in some members are literals of integers. -/
def IntegralMembers : List (JsonText × Json) → Prop
  | [] => True
  | (_, value) :: members => Integral value ∧ IntegralMembers members

end

/-! ## Strings -/

theorem hexValue?_hexDigit {digit : Nat} (small : digit < 16) :
    hexValue? (Text.hexDigit digit) = some digit := by
  have all : ∀ digit : Fin 16, hexValue? (Text.hexDigit digit) = some digit.val := by decide
  exact all ⟨digit, small⟩

/-- The code of a control character stands for it. -/
theorem escaped_code {c : Char} (control : c.toNat < 0x20) :
    Escaped ['\\', 'u', '0', '0', Text.hexDigit (c.toNat / 16), Text.hexDigit (c.toNat % 16)]
      [.scalar c] := by
  have means : codeFrom? 0 ['0', '0', Text.hexDigit (c.toNat / 16), Text.hexDigit (c.toNat % 16)] =
      some c.toNat := by
    have zeros (digits : List Char) : codeFrom? 0 ('0' :: '0' :: digits) = codeFrom? 0 digits := rfl
    rw [zeros, codeFrom?, hexValue?_hexDigit (by omega), Option.bind_some, codeFrom?,
      hexValue?_hexDigit (Nat.mod_lt _ (by decide)), Option.bind_some, codeFrom?, Nat.mul_zero,
      Nat.zero_add, Nat.div_add_mod]
  have unit : TextUnit.ofCode c.toNat = .scalar c := by
    rw [TextUnit.ofCode, if_neg (by omega), if_neg (by omega), Char.ofNat_toNat]
  have code := Escaped.code rfl means .nil
  rwa [unit] at code

/-- An escaped character spells that character. -/
theorem escaped_escapeChar (c : Char) : Escaped (escapeChar c) [.scalar c] := by
  rw [escapeChar]
  by_cases quote : c = '"'
  · subst quote
    exact .short rfl .nil
  by_cases backslash : c = '\\'
  · subst backslash
    exact .short rfl .nil
  by_cases backspace : c = '\x08'
  · subst backspace
    exact .short rfl .nil
  by_cases tab : c = '\t'
  · subst tab
    exact .short rfl .nil
  by_cases newline : c = '\n'
  · subst newline
    exact .short rfl .nil
  by_cases feed : c = '\x0c'
  · subst feed
    exact .short rfl .nil
  by_cases carriage : c = '\r'
  · subst carriage
    exact .short rfl .nil
  rw [if_neg quote, if_neg backslash, if_neg backspace, if_neg tab, if_neg newline, if_neg feed,
    if_neg carriage]
  by_cases control : c.toNat < 0x20
  · rw [if_pos control]
    exact escaped_code control
  · rw [if_neg control]
    exact .plain quote backslash (Nat.not_lt.mp control) .nil

theorem escaped_text (text : List Char) :
    Escaped (text.flatMap escapeChar) (text.map TextUnit.scalar) := by
  induction text with
  | nil => exact .nil
  | cons c text ih =>
      rw [List.flatMap_cons]
      exact (escaped_escapeChar c).append ih

theorem join_scalar (older characters : List Char) :
    TextUnit.join characters (older.map TextUnit.scalar) = some (older.reverse ++ characters) := by
  induction older generalizing characters with
  | nil => rfl
  | cons c older ih =>
      rw [List.map_cons, TextUnit.join, ih, List.reverse_cons, List.append_assoc,
        List.singleton_append]

section Printing

variable {tokens : List Token} {rest : List Char}

theorem spells_writeText (text : JsonText) (more : Spells tokens rest) :
    Spells (.atom (.string text) :: tokens) (writeText text rest) := by
  cases text with
  | none =>
      have lone : Escaped ['\\', 'u', 'd', '8', '0', '0'] [.high 0xd800] :=
        @Escaped.code ['d', '8', '0', '0'] [] 0xd800 [] rfl rfl .nil
      exact .text lone more
  | some text =>
      have joined : joinUnits (text.toList.map TextUnit.scalar).reverse = some text := by
        rw [joinUnits, ← List.map_reverse, join_scalar, List.append_nil, List.reverse_reverse,
          Option.map_some, String.ofList_toList]
      have spelled := Spells.text (escaped_text text.toList) more
      rwa [joined] at spelled

/-! ## The compact form -/

theorem endsWord_writeItems (items : List Json) (rest : List Char) :
    EndsWord (writeItems items (']' :: rest)) := by
  cases items with
  | nil =>
      rintro c ⟨⟩
      rfl
  | cons item items =>
      rw [writeItems]
      rintro c ⟨⟩
      rfl

theorem endsWord_writeMembers (members : List (JsonText × Json)) (rest : List Char) :
    EndsWord (writeMembers members ('\x7d' :: rest)) := by
  cases members with
  | nil =>
      rintro c ⟨⟩
      rfl
  | cons member members =>
      rw [writeMembers]
      rintro c ⟨⟩
      rfl

end Printing

mutual

/-- **The compact form of a value spells the tokens of the value.** -/
theorem spells_write : ∀ (value : Json), value.Integral →
    ∀ {tokens : List Token} {rest : List Char}, EndsWord rest → Spells tokens rest →
      Spells (value.tokens ++ tokens) (value.write rest)
  | .null, _, _, _, ends, more => .word .nullName ends more
  | .bool true, _, _, _, ends, more => .word .trueName ends more
  | .bool false, _, _, _, ends, more => .word .falseName ends more
  | .number _, integral, _, _, ends, more => by
      obtain ⟨number, rfl⟩ := integral
      exact .word (.number (Number.literal_ofInt number)) ends more
  | .string text, _, _, _, _, more => spells_writeText text more
  | .array [], _, _, _, _, more => .punctuation rfl (.punctuation rfl more)
  | .array (first :: items), ⟨here, others⟩, _, rest, _, more => by
      have behind := spells_writeItems items others more
      rw [write, tokens, List.cons_append, List.append_assoc]
      exact .punctuation rfl (spells_write first here (endsWord_writeItems items rest) behind)
  | .object [], _, _, _, _, more => .punctuation rfl (.punctuation rfl more)
  | .object ((key, value) :: members), ⟨here, others⟩, _, rest, _, more => by
      have behind := spells_writeMembers members others more
      have there := spells_write value here (endsWord_writeMembers members rest) behind
      rw [write, tokens, List.cons_append, List.cons_append, List.cons_append, List.append_assoc]
      exact .punctuation rfl (spells_writeText key (.punctuation rfl there))

theorem spells_writeItems : ∀ (items : List Json), IntegralItems items →
    ∀ {tokens : List Token} {rest : List Char}, Spells tokens rest →
      Spells (itemTokens items ++ tokens) (writeItems items (']' :: rest))
  | [], _, _, _, more => .punctuation rfl more
  | item :: items, ⟨here, others⟩, _, rest, more => by
      have behind := spells_writeItems items others more
      rw [writeItems, itemTokens, List.cons_append, List.append_assoc]
      exact .punctuation rfl (spells_write item here (endsWord_writeItems items rest) behind)

theorem spells_writeMembers : ∀ (members : List (JsonText × Json)), IntegralMembers members →
    ∀ {tokens : List Token} {rest : List Char}, Spells tokens rest →
      Spells (memberTokens members ++ tokens) (writeMembers members ('\x7d' :: rest))
  | [], _, _, _, more => .punctuation rfl more
  | (key, value) :: members, ⟨here, others⟩, _, rest, more => by
      have behind := spells_writeMembers members others more
      have there := spells_write value here (endsWord_writeMembers members rest) behind
      rw [writeMembers, memberTokens, List.cons_append, List.cons_append, List.cons_append,
        List.append_assoc]
      exact .punctuation rfl (spells_writeText key (.punctuation rfl there))

end

/-- **The compact form of a value is read as that value.** -/
theorem parse?_compact {value : Json} (integral : value.Integral) :
    parse? value.compact = some value := by
  have spells := spells_write value integral endsWord_nil .done
  rw [List.append_nil] at spells
  rw [compact, parse?_eq_some_iff, String.toList_ofList]
  exact spells

/-! ## The indented form -/

section Indenting

variable {tokens : List Token} {rest : List Char}

theorem spells_breakLine (level : Nat) (more : Spells tokens rest) :
    Spells tokens (breakLine level rest) := by
  refine .space rfl ?_
  induction 2 * level with
  | zero => exact more
  | succ spaces ih => exact .space rfl ih

/-- There is a space behind a colon. -/
theorem spells_colon (more : Spells tokens rest) :
    Spells (.colon :: tokens) (':' :: ' ' :: rest) :=
  .punctuation rfl (.space rfl more)

/-- What follows an item ends a word, as it is a comma or the end of the line. -/
theorem endsWord_writeIndentedItems (level outer : Nat) (items : List Json) :
    EndsWord (writeIndentedItems level items (breakLine outer rest)) := by
  cases items with
  | nil =>
      rintro c ⟨⟩
      rfl
  | cons item items =>
      rw [writeIndentedItems]
      rintro c ⟨⟩
      rfl

theorem endsWord_writeIndentedMembers (level outer : Nat) (members : List (JsonText × Json)) :
    EndsWord (writeIndentedMembers level members (breakLine outer rest)) := by
  cases members with
  | nil =>
      rintro c ⟨⟩
      rfl
  | cons member members =>
      rw [writeIndentedMembers]
      rintro c ⟨⟩
      rfl

end Indenting

mutual

/-- **The indented form of a value spells the tokens of the value.** -/
theorem spells_writeIndented : ∀ (value : Json), value.Integral →
    ∀ (level : Nat) {tokens : List Token} {rest : List Char}, EndsWord rest → Spells tokens rest →
      Spells (value.tokens ++ tokens) (value.writeIndented level rest)
  | .null, integral, _, _, _, ends, more => spells_write .null integral ends more
  | .bool value, integral, _, _, _, ends, more => spells_write (.bool value) integral ends more
  | .number value, integral, _, _, _, ends, more => spells_write (.number value) integral ends more
  | .string text, integral, _, _, _, ends, more => spells_write (.string text) integral ends more
  | .array [], _, _, _, _, _, more => .punctuation rfl (.punctuation rfl more)
  | .array (first :: items), ⟨here, others⟩, level, _, _, _, more => by
      have behind := spells_writeIndentedItems items others (level + 1) level more
      have there := spells_writeIndented first here (level + 1)
        (endsWord_writeIndentedItems (level + 1) level items) behind
      rw [writeIndented, tokens, List.cons_append, List.append_assoc]
      exact .punctuation rfl (spells_breakLine (level + 1) there)
  | .object [], _, _, _, _, _, more => .punctuation rfl (.punctuation rfl more)
  | .object ((key, value) :: members), ⟨here, others⟩, level, _, _, _, more => by
      have behind := spells_writeIndentedMembers members others (level + 1) level more
      have there := spells_writeIndented value here (level + 1)
        (endsWord_writeIndentedMembers (level + 1) level members) behind
      have member := spells_writeText key (spells_colon there)
      rw [writeIndented, tokens, List.cons_append, List.cons_append, List.cons_append,
        List.append_assoc]
      exact .punctuation rfl (spells_breakLine (level + 1) member)

theorem spells_writeIndentedItems : ∀ (items : List Json), IntegralItems items →
    ∀ (level outer : Nat) {tokens : List Token} {rest : List Char}, Spells tokens rest →
      Spells (itemTokens items ++ tokens)
        (writeIndentedItems level items (breakLine outer (']' :: rest)))
  | [], _, _, outer, _, _, more => spells_breakLine outer (.punctuation rfl more)
  | item :: items, ⟨here, others⟩, level, outer, _, _, more => by
      have behind := spells_writeIndentedItems items others level outer more
      have there := spells_writeIndented item here level
        (endsWord_writeIndentedItems level outer items) behind
      rw [writeIndentedItems, itemTokens, List.cons_append, List.append_assoc]
      exact .punctuation rfl (spells_breakLine level there)

theorem spells_writeIndentedMembers : ∀ (members : List (JsonText × Json)),
    IntegralMembers members → ∀ (level outer : Nat) {tokens : List Token} {rest : List Char},
      Spells tokens rest →
        Spells (memberTokens members ++ tokens)
          (writeIndentedMembers level members (breakLine outer ('\x7d' :: rest)))
  | [], _, _, outer, _, _, more => spells_breakLine outer (.punctuation rfl more)
  | (key, value) :: members, ⟨here, others⟩, level, outer, _, _, more => by
      have behind := spells_writeIndentedMembers members others level outer more
      have there := spells_writeIndented value here level
        (endsWord_writeIndentedMembers level outer members) behind
      have member := spells_writeText key (spells_colon there)
      rw [writeIndentedMembers, memberTokens, List.cons_append, List.cons_append, List.cons_append,
        List.append_assoc]
      exact .punctuation rfl (spells_breakLine level member)

end

/-- **The indented form of a value is read as that value.** -/
theorem parse?_indented {value : Json} (integral : value.Integral) :
    parse? value.indented = some value := by
  have spells := spells_writeIndented value integral 0 endsWord_nil .done
  rw [List.append_nil] at spells
  rw [indented, parse?_eq_some_iff, String.toList_ofList]
  exact spells

end ReplicaSync.Json
