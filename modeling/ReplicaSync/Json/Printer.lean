import ReplicaSync.Json.Value
import ReplicaSync.Text.Quoted

/-!
# Writing JSON documents

The compact form has no white space. The indented form puts every item and every member on a
line of its own, two spaces further in than the brackets around it. Empty arrays and objects
are written without a break in either form.

Strings are written between quotation marks. Only the quotation mark, the backslash and the
control characters below the space are escaped. A string that denotes no text is written as the
escape of a surrogate that stands alone.

Both forms are written in front of the characters that follow, so that writing takes time in
proportion to the length of what is written.
-/

set_option autoImplicit false

namespace ReplicaSync.Json

/-! ## Strings -/

/-- How a character is written inside a string. -/
def escapeChar (c : Char) : List Char :=
  if c = '"' then ['\\', '"']
  else if c = '\\' then ['\\', '\\']
  else if c = '\x08' then ['\\', 'b']
  else if c = '\t' then ['\\', 't']
  else if c = '\n' then ['\\', 'n']
  else if c = '\x0c' then ['\\', 'f']
  else if c = '\r' then ['\\', 'r']
  else if c.toNat < 0x20 then
    ['\\', 'u', '0', '0', Text.hexDigit (c.toNat / 16), Text.hexDigit (c.toNat % 16)]
  else [c]

/-- A string literal in front of other characters. -/
def writeText (text : JsonText) (rest : List Char) : List Char :=
  match text with
  | none => ['"', '\\', 'u', 'd', '8', '0', '0', '"'] ++ rest
  | some text => '"' :: (text.toList.flatMap escapeChar ++ '"' :: rest)

/-! ## The compact form -/

mutual

/-- A value in front of other characters. -/
def write : Json → List Char → List Char
  | .null, rest => 'n' :: 'u' :: 'l' :: 'l' :: rest
  | .bool true, rest => 't' :: 'r' :: 'u' :: 'e' :: rest
  | .bool false, rest => 'f' :: 'a' :: 'l' :: 's' :: 'e' :: rest
  | .number value, rest => value.text ++ rest
  | .string text, rest => writeText text rest
  | .array [], rest => '[' :: ']' :: rest
  | .array (first :: items), rest => '[' :: write first (writeItems items (']' :: rest))
  | .object [], rest => '\x7b' :: '\x7d' :: rest
  | .object ((key, value) :: members), rest =>
      '\x7b' :: writeText key (':' :: write value (writeMembers members ('\x7d' :: rest)))

/-- Items after the first one, each with the comma before it. -/
def writeItems : List Json → List Char → List Char
  | [], rest => rest
  | item :: items, rest => ',' :: write item (writeItems items rest)

/-- Members after the first one, each with the comma before it. -/
def writeMembers : List (JsonText × Json) → List Char → List Char
  | [], rest => rest
  | (key, value) :: members, rest =>
      ',' :: writeText key (':' :: write value (writeMembers members rest))

end

/-- The compact form of a value. -/
def compact (value : Json) : String :=
  String.ofList (value.write [])

/-! ## The indented form -/

/-- A line break and the spaces of the given level in front of other characters. -/
def breakLine (level : Nat) (rest : List Char) : List Char :=
  '\n' :: (List.replicate (2 * level) ' ' ++ rest)

mutual

/-- A value at the given level in front of other characters. -/
def writeIndented (level : Nat) : Json → List Char → List Char
  | .array [], rest => '[' :: ']' :: rest
  | .array (first :: items), rest =>
      '[' :: breakLine (level + 1) (writeIndented (level + 1) first
        (writeIndentedItems (level + 1) items (breakLine level (']' :: rest))))
  | .object [], rest => '\x7b' :: '\x7d' :: rest
  | .object ((key, value) :: members), rest =>
      '\x7b' :: breakLine (level + 1) (writeText key (':' :: ' ' :: writeIndented (level + 1) value
        (writeIndentedMembers (level + 1) members (breakLine level ('\x7d' :: rest)))))
  | scalar, rest => write scalar rest

/-- Items after the first one, each with the comma and the line break before it. -/
def writeIndentedItems (level : Nat) : List Json → List Char → List Char
  | [], rest => rest
  | item :: items, rest =>
      ',' :: breakLine level (writeIndented level item (writeIndentedItems level items rest))

/-- Members after the first one, each with the comma and the line break before it. -/
def writeIndentedMembers (level : Nat) : List (JsonText × Json) → List Char → List Char
  | [], rest => rest
  | (key, value) :: members, rest =>
      ',' :: breakLine level (writeText key (':' :: ' ' :: writeIndented level value
        (writeIndentedMembers level members rest)))

end

/-- The indented form of a value. -/
def indented (value : Json) : String :=
  String.ofList (value.writeIndented 0 [])

end ReplicaSync.Json
