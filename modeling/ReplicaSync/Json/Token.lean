import ReplicaSync.Json.Value
import ReplicaSync.Text.Units

/-!
# Tokens of JSON documents

A document is a sequence of tokens with white space between them: brackets, commas, colons and
atoms, where an atom is a value without parts. A machine cuts the characters into tokens. It is
between tokens, inside a bare word, or at some place inside a string, and every character moves
it on. A bare word is a number or one of the three names, and ends where another token begins.

A string is read as a sequence of units, since an escape may stand for half of a character.
-/

set_option autoImplicit false

namespace ReplicaSync.Json

/-- A token of a document. -/
inductive Token where
  | openArray
  | closeArray
  | openObject
  | closeObject
  | comma
  | colon
  | atom (value : Json)
  deriving Inhabited

/-! ## The machine -/

/-- Where in a token the machine is. What it has taken of the token comes newest first. -/
inductive Mode where
  | between
  | word (taken : List Char)
  | quoted (units : List TextUnit)
  | escape (units : List TextUnit)
  /-- Inside a code of four hexadecimal digits, of which so many are to come. -/
  | code (units : List TextUnit) (left value : Nat)
  deriving DecidableEq, Repr

/-- A machine and the tokens it has found, newest first. -/
structure Scanner where
  mode : Mode := .between
  tokens : List Token := []

/-- Whether a character may stand between tokens. -/
def isSpace (c : Char) : Bool :=
  c == ' ' || c == '\t' || c == '\n' || c == '\r'

/-- The token of a punctuation character. -/
def punctuation? : Char → Option Token
  | '[' => some .openArray
  | ']' => some .closeArray
  | '\x7b' => some .openObject
  | '\x7d' => some .closeObject
  | ',' => some .comma
  | ':' => some .colon
  | _ => none

/-- The value of a bare word. -/
def ofWord (characters : List Char) : Option Json :=
  if characters = ['n', 'u', 'l', 'l'] then some .null
  else if characters = ['t', 'r', 'u', 'e'] then some (.bool true)
  else if characters = ['f', 'a', 'l', 's', 'e'] then some (.bool false)
  else (Number.read characters).map .number

/-- The character of an escape without digits. -/
def simpleEscape? : Char → Option Char
  | '"' => some '"'
  | '\\' => some '\\'
  | '/' => some '/'
  | 'b' => some '\x08'
  | 'f' => some '\x0c'
  | 'n' => some '\n'
  | 'r' => some '\r'
  | 't' => some '\t'
  | _ => none

/-- The value of a hexadecimal digit of either case. -/
def hexValue? (c : Char) : Option Nat :=
  if '0' ≤ c ∧ c ≤ '9' then some (c.toNat - 48)
  else if 'a' ≤ c ∧ c ≤ 'f' then some (c.toNat - 87)
  else if 'A' ≤ c ∧ c ≤ 'F' then some (c.toNat - 55)
  else none

namespace Scanner

/-- Takes a character that stands between tokens or begins one. -/
def begin (tokens : List Token) (c : Char) : Scanner :=
  if isSpace c then ⟨.between, tokens⟩
  else if c = '"' then ⟨.quoted [], tokens⟩
  else
    match punctuation? c with
    | some token => ⟨.between, token :: tokens⟩
    | none => ⟨.word [c], tokens⟩

/-- Takes one character. -/
def step (scanner : Scanner) (c : Char) : Option Scanner :=
  match scanner.mode with
  | .between => some (begin scanner.tokens c)
  | .word taken =>
      if isSpace c || c == '"' || (punctuation? c).isSome then
        (ofWord taken.reverse).map fun value => begin (.atom value :: scanner.tokens) c
      else some ⟨.word (c :: taken), scanner.tokens⟩
  | .quoted units =>
      if c = '"' then some ⟨.between, .atom (.string (joinUnits units)) :: scanner.tokens⟩
      else if c = '\\' then some ⟨.escape units, scanner.tokens⟩
      else if c.toNat < 0x20 then none
      else some ⟨.quoted (.scalar c :: units), scanner.tokens⟩
  | .escape units =>
      if c = 'u' then some ⟨.code units 4 0, scanner.tokens⟩
      else (simpleEscape? c).map fun meant => ⟨.quoted (.scalar meant :: units), scanner.tokens⟩
  | .code units left value =>
      (hexValue? c).map fun digit =>
        let code := 16 * value + digit
        if left ≤ 1 then ⟨.quoted (TextUnit.ofCode code :: units), scanner.tokens⟩
        else ⟨.code units (left - 1) code, scanner.tokens⟩

/-- Takes one character after the other. -/
def run : Scanner → List Char → Option Scanner
  | scanner, [] => some scanner
  | scanner, c :: rest =>
      match scanner.step c with
      | none => none
      | some next => run next rest

/-- The tokens of a document that ends here. -/
def finish (scanner : Scanner) : Option (List Token) :=
  match scanner.mode with
  | .between => some scanner.tokens.reverse
  | .word taken =>
      (ofWord taken.reverse).map fun value => (.atom value :: scanner.tokens).reverse
  | _ => none

end Scanner

/-- The tokens of a document. -/
def tokens? (characters : List Char) : Option (List Token) :=
  match Scanner.run {} characters with
  | none => none
  | some scanner => scanner.finish

end ReplicaSync.Json
