import ReplicaSync.Json.Record
import ReplicaSync.Proofs.Json.RoundTrip

/-!
# Forms of values in JSON

A type has a form in JSON, in which its values are written and from which they are read. The form
is faithful if what is written holds no numbers but integers and is read as the value it was
written from. Then the document of a value is read as that value (`Json.Faithful.parse?_bind`), and
a document that has been read and printed again does not change any more
(`Json.Faithful.normal?_bind`).

A form is faithful if those of the parts are, so the parts have laws here: words, numbers with a
sign, and lists.
-/

set_option autoImplicit false

universe u

namespace ReplicaSync.Json

/-! ## Words and numbers with a sign -/

theorem natural?_ofNat {bound value : Nat} (below : value < bound) :
    (ofNat value).natural? bound = some value := by
  have integer : (ofNat value).integer? = some (value : Int) := Number.integer?_ofInt _
  rw [natural?, integer, Option.bind_some, if_pos ⟨by omega, by omega⟩, Int.toNat_natCast]

theorem uint8?_ofNat (word : UInt8) : (ofNat word.toNat).uint8? = some word := by
  rw [uint8?, natural?_ofNat word.toNat_lt, Option.map_some, UInt8.ofNat_toNat]

theorem uint32?_ofNat (word : UInt32) : (ofNat word.toNat).uint32? = some word := by
  rw [uint32?, natural?_ofNat word.toNat_lt, Option.map_some, UInt32.ofNat_toNat]

theorem uint64?_ofNat (word : UInt64) : (ofNat word.toNat).uint64? = some word := by
  rw [uint64?, natural?_ofNat word.toNat_lt, Option.map_some, UInt64.ofNat_toNat]

theorem int64?_ofInt (number : Int64) : (ofInt number.toInt).int64? = some number := by
  have least := number.le_toInt
  have most := number.toInt_lt
  have bounds : Int64.minValue.toInt ≤ number.toInt ∧ number.toInt ≤ Int64.maxValue.toInt := by
    rw [Int64.toInt_minValue, Int64.toInt_maxValue]
    omega
  have integer : (ofInt number.toInt).integer? = some number.toInt := Number.integer?_ofInt _
  rw [int64?, integer, Option.bind_some, if_pos bounds, Int64.ofInt_toInt]

theorem integral_ofNat (value : Nat) : (ofNat value).Integral := ⟨value, rfl⟩

theorem integral_ofInt (value : Int) : (ofInt value).Integral := ⟨value, rfl⟩

/-! ## Fields and lists -/

section Parts

variable {α : Type u} {write : α → Json} {read : Json → Option α}

theorem orDefault_some (default : α) (value : Json) :
    orDefault default read (some value) = read value := rfl

theorem integral_array_map (integral : ∀ value, (write value).Integral) (values : List α) :
    (array (values.map write)).Integral := by
  change IntegralItems (values.map write)
  induction values with
  | nil => trivial
  | cons value rest ih => exact ⟨integral value, ih⟩

/-- A list is read back if its items are. -/
theorem list?_array_map (back : ∀ value, read (write value) = some value) (values : List α) :
    (array (values.map write)).list? read = some values := by
  rw [list?]
  induction values with
  | nil => rfl
  | cons value rest ih =>
      rw [List.map_cons, readAll, back value]
      dsimp only
      rw [ih]
      rfl

end Parts

/-! ## Forms -/

section Forms

variable {α : Type u}

/-- The document of what a document is read as. -/
def normal? (write : α → Json) (read : Json → Option α) (document : String) : Option String :=
  ((parse? document).bind read).map fun value => (write value).compact

/-- Whatever is written holds no numbers but integers and is read back. -/
structure Faithful (write : α → Json) (read : Json → Option α) : Prop where
  integral : ∀ value, (write value).Integral
  read_write : ∀ value, read (write value) = some value

namespace Faithful

variable {write : α → Json} {read : Json → Option α} (faithful : Faithful write read)
include faithful

/-- **The document of a value is read as that value.** -/
theorem parse?_bind (value : α) : (parse? (write value).compact).bind read = some value := by
  rw [parse?_compact (faithful.integral value), Option.bind_some, faithful.read_write]

/-- Reading a document and printing it again changes nothing the second time. -/
theorem normal?_bind (document : String) :
    (normal? write read document).bind (normal? write read) = normal? write read document := by
  rw [normal?]
  cases (parse? document).bind read with
  | none => rfl
  | some value =>
      rw [Option.map_some, Option.bind_some, normal?, faithful.parse?_bind, Option.map_some]

end Faithful

end Forms

end ReplicaSync.Json
