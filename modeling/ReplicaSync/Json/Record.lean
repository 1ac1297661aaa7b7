import ReplicaSync.Json.Value

/-!
# Reading values out of JSON

Numbers are read where they are integers within the range of the type. Strings are read where
they denote a text.

A record with named fields may be written as an object or as an array. An object may list its
fields in any order and may hold members that are no fields, but no field twice, and every key
has to denote a text. An array lists the values of the fields in their order, and fields may be
missing at its end. `Json.fields?` answers with the value of every field, or with nothing for
a field that is missing, and leaves it to the type whether a field may be missing.
-/

set_option autoImplicit false

universe u

namespace ReplicaSync.Json

variable {α : Type u}

/-! ## Scalars -/

/-- The text of a string. -/
def text? : Json → Option String
  | .string text => text
  | _ => none

/-- The value of an integer. -/
def integer? : Json → Option Int
  | .number value => value.integer?
  | _ => none

/-- The value of an integer that is not negative and below a bound. -/
def natural? (bound : Nat) (value : Json) : Option Nat :=
  value.integer?.bind fun number =>
    if 0 ≤ number ∧ number < bound then some number.toNat else none

/-- The value of an unsigned 8-bit number. -/
def uint8? (value : Json) : Option UInt8 :=
  (value.natural? UInt8.size).map UInt8.ofNat

/-- The value of an unsigned 32-bit number. -/
def uint32? (value : Json) : Option UInt32 :=
  (value.natural? UInt32.size).map UInt32.ofNat

/-- The value of an unsigned 64-bit number. -/
def uint64? (value : Json) : Option UInt64 :=
  (value.natural? UInt64.size).map UInt64.ofNat

/-- The value of a signed 64-bit number. -/
def int64? (value : Json) : Option Int64 :=
  value.integer?.bind fun number =>
    if Int64.minValue.toInt ≤ number ∧ number ≤ Int64.maxValue.toInt then
      some (Int64.ofInt number)
    else none

/-! ## Lists and records -/

/-- Reads all of some values, or nothing if one of them cannot be read. -/
def readAll (read : Json → Option α) : List Json → Option (List α)
  | [] => some []
  | value :: rest =>
      match read value with
      | none => none
      | some first => (readAll read rest).map (first :: ·)

/-- The items of an array. -/
def list? (read : Json → Option α) : Json → Option (List α)
  | .array items => readAll read items
  | _ => none

/-- The value of a field among the members of an object. The outer option fails if the field
stands there twice. -/
def member? (name : String) (members : List (JsonText × Json)) : Option (Option Json) :=
  match members.filter fun member => member.1 = some name with
  | [] => some none
  | [member] => some (some member.2)
  | _ => none

/-- The values of the named fields among the members of an object. -/
def fieldsOfMembers (members : List (JsonText × Json)) : List String → Option (List (Option Json))
  | [] => some []
  | name :: names =>
      match member? name members with
      | none => none
      | some value => (fieldsOfMembers members names).map (value :: ·)

/-- The values of the fields that an array lists. -/
def fieldsOfItems : List String → List Json → Option (List (Option Json))
  | [], [] => some []
  | [], _ :: _ => none
  | _ :: names, [] => (fieldsOfItems names []).map (none :: ·)
  | _ :: names, item :: items => (fieldsOfItems names items).map (some item :: ·)

/-- The values of the fields of a record. -/
def fields? (names : List String) : Json → Option (List (Option Json))
  | .object members =>
      if members.all fun member => member.1.isSome then fieldsOfMembers members names else none
  | .array items => fieldsOfItems names items
  | _ => none

/-- Reads a field that may be missing. -/
def orDefault (default : α) (read : Json → Option α) : Option Json → Option α
  | none => some default
  | some value => read value

/-- The one of some named choices that a value names, as a string or as the key of an object
with nothing but the value null. -/
def choice? (choices : List (String × α)) : Json → Option α
  | .string (some name) => choices.lookup name
  | .object [(some name, .null)] => choices.lookup name
  | _ => none

end ReplicaSync.Json
