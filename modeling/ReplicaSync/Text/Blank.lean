/-!
# Blank characters and trimming

A character is blank when it has the Unicode property White_Space. Trimming a text takes
the blank characters off both ends, and a text is blank when nothing else is in it.
-/

set_option autoImplicit false

namespace ReplicaSync.Text

/-- The Unicode property White_Space. -/
def isBlank (c : Char) : Bool :=
  let code := c.toNat
  (9 ≤ code && code ≤ 13) || code == 0x20 || code == 0x85 || code == 0xa0 || code == 0x1680 ||
    (0x2000 ≤ code && code ≤ 0x200a) || code == 0x2028 || code == 0x2029 || code == 0x202f ||
    code == 0x205f || code == 0x3000

/-- The characters without the blank ones at either end. -/
def trim (characters : List Char) : List Char :=
  ((characters.dropWhile isBlank).reverse.dropWhile isBlank).reverse

/-- The text without the blank characters at either end. -/
def trimmed (text : String) : String :=
  String.ofList (trim text.toList)

/-- Whether a text holds nothing but blank characters. -/
def blank (text : String) : Bool :=
  text.toList.all isBlank

end ReplicaSync.Text
