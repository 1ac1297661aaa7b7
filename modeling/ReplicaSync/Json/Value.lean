import ReplicaSync.Json.Number

/-!
# JSON values

A JSON value is a tree. Objects keep their members in the order of the document, repeated keys
included, since what a repeated key means is for the reader of a record to say.

Number literals are kept as they are written. A string is kept as the text it denotes. A string
whose escapes leave a surrogate without its partner denotes no text, which matters only to who
looks at the string.
-/

set_option autoImplicit false

namespace ReplicaSync

/-- What a string literal denotes: a text, or nothing if a surrogate stands alone. -/
abbrev JsonText := Option String

/-- A JSON value. -/
inductive Json where
  | null
  | bool (value : Bool)
  | number (value : Json.Number)
  | string (value : JsonText)
  | array (items : List Json)
  | object (members : List (JsonText × Json))
  deriving Inhabited

namespace Json

/-- The string of a text. -/
def ofText (text : String) : Json := .string (some text)

/-- The number of an integer. -/
def ofInt (value : Int) : Json := .number (.ofInt value)

/-- The number of a natural number. -/
def ofNat (value : Nat) : Json := .ofInt value

/-- The object with the given members. -/
def record (members : List (String × Json)) : Json :=
  .object (members.map fun member => (some member.1, member.2))

/-! ## Nesting and soundness -/

mutual

/-- How many arrays and objects lie within each other. -/
def depth : Json → Nat
  | .array items => depthOfItems items + 1
  | .object members => depthOfMembers members + 1
  | _ => 0

/-- The greatest depth among items. -/
def depthOfItems : List Json → Nat
  | [] => 0
  | item :: rest => max (depth item) (depthOfItems rest)

/-- The greatest depth among members. -/
def depthOfMembers : List (JsonText × Json) → Nat
  | [] => 0
  | (_, value) :: rest => max (depth value) (depthOfMembers rest)

end

mutual

/-- Whether every string in a value denotes a text and no number is out of range. -/
def sound : Json → Bool
  | .number value => ! value.outOfRange
  | .string value => value.isSome
  | .array items => soundItems items
  | .object members => soundMembers members
  | _ => true

/-- Whether all items are sound. -/
def soundItems : List Json → Bool
  | [] => true
  | item :: rest => sound item && soundItems rest

/-- Whether all keys denote texts and all values are sound. -/
def soundMembers : List (JsonText × Json) → Bool
  | [] => true
  | (key, value) :: rest => key.isSome && sound value && soundMembers rest

end

end Json

end ReplicaSync
