import ReplicaSync.Text.Concealed

/-!
# Quoted characters and texts

A quoted text stands between quotation marks on one line and shows every character it holds.
Null, tab, line feed, carriage return and the backslash have short escapes, the quotation mark
in use is escaped, and a concealed character is shown by its code point. A character alone is
quoted with apostrophes, a text with double quotation marks.
-/

set_option autoImplicit false

namespace ReplicaSync.Text

/-- The digit of a value below sixteen, in lower case. -/
def hexDigit (value : Nat) : Char :=
  if value < 10 then Char.ofNat (48 + value) else Char.ofNat (87 + value)

/-- A character shown by its code point. -/
def codePointEscape (c : Char) : List Char :=
  '\\' :: 'u' :: '\x7b' :: (Nat.toDigits 16 c.toNat ++ ['\x7d'])

/-- How a character is written between the given quotation marks. -/
def quoteChar (mark : Char) (c : Char) : List Char :=
  if c = '\x00' then ['\\', '0']
  else if c = '\t' then ['\\', 't']
  else if c = '\n' then ['\\', 'n']
  else if c = '\r' then ['\\', 'r']
  else if c = '\\' then ['\\', '\\']
  else if c = mark then ['\\', mark]
  else if isConcealed c then codePointEscape c
  else [c]

/-- Characters between quotation marks. -/
def quoteWith (mark : Char) (characters : List Char) : List Char :=
  mark :: (characters.flatMap (quoteChar mark) ++ [mark])

/-- A character between apostrophes. -/
def quotedChar (c : Char) : String :=
  String.ofList (quoteWith '\'' [c])

/-- A text between double quotation marks. -/
def quoted (text : String) : String :=
  String.ofList (quoteWith '"' text.toList)

end ReplicaSync.Text
