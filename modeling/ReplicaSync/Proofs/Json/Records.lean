import Mathlib.Data.List.Forall2
import ReplicaSync.Json.Record
import ReplicaSync.Proofs.Json.Literals

/-!
# Which values are records

A record with named fields is an object or an array (`Json.HasFields`). In an object every field
stands once, among other members in any order, and all keys denote texts. An array lists the fields
in their order. The fields of a record are found exactly if it has them
(`Json.fields?_eq_some_iff`), where none of them is missing. The texts and the words in them are
read exactly as well.
-/

set_option autoImplicit false

universe u

namespace ReplicaSync.Json

/-! ## Scalars -/

theorem text?_eq_some_iff {value : Json} {text : String} :
    value.text? = some text ↔ value = ofText text := by
  constructor
  · intro found
    unfold text? at found
    split at found
    · rw [found]
      rfl
    · cases found
  · rintro rfl
    rfl

/-- A word with a sign is a number literal of it. -/
theorem int64?_eq_some_iff {value : Json} {word : Int64} :
    value.int64? = some word ↔ ∃ number, value = .number number ∧ number.Denotes word.toInt := by
  have least := word.le_toInt
  have most := word.toInt_lt
  rw [int64?, Option.bind_eq_some_iff]
  constructor
  · rintro ⟨integer, found, fits⟩
    obtain ⟨⟨above, below⟩, same⟩ := Option.ite_none_right_eq_some.mp fits
    obtain rfl := Option.some.inj same
    rw [Int64.toInt_minValue] at above
    rw [Int64.toInt_maxValue] at below
    rw [Int64.toInt_ofInt_of_le above (by omega)]
    unfold integer? at found
    split at found
    · next number => exact ⟨number, rfl, Number.integer?_eq_some_iff.mp found⟩
    · cases found
  · rintro ⟨number, rfl, denotes⟩
    refine ⟨word.toInt, Number.integer?_eq_some_iff.mpr denotes, ?_⟩
    rw [if_pos, Int64.ofInt_toInt]
    rw [Int64.toInt_minValue, Int64.toInt_maxValue]
    omega

/-! ## Lists -/

section Lists

variable {α : Type u} {read : Json → Option α} {Form : Json → α → Prop}

theorem readAll_eq_some_iff (exact_form : ∀ item value, read item = some value ↔ Form item value)
    {items : List Json} {values : List α} :
    readAll read items = some values ↔ List.Forall₂ Form items values := by
  induction items generalizing values with
  | nil =>
      rw [readAll, Option.some.injEq, eq_comm, List.forall₂_nil_left_iff]
  | cons item items ih =>
      rw [List.forall₂_cons_left_iff, readAll]
      cases first : read item with
      | none =>
          constructor
          · rintro ⟨⟩
          · rintro ⟨value, _, form, -⟩
            rw [← exact_form, first] at form
            cases form
      | some value =>
          rw [Option.map_eq_some_iff]
          constructor
          · rintro ⟨rest, found, rfl⟩
            exact ⟨value, rest, (exact_form item value).mp first, ih.mp found, rfl⟩
          · rintro ⟨_, rest, form, forms, rfl⟩
            rw [← exact_form, first] at form
            cases form
            exact ⟨rest, ih.mpr forms, rfl⟩

/-- A list is an array of its items. -/
theorem list?_eq_some_iff (exact_form : ∀ item value, read item = some value ↔ Form item value)
    {value : Json} {values : List α} :
    value.list? read = some values ↔
      ∃ items, value = .array items ∧ List.Forall₂ Form items values := by
  constructor
  · intro found
    unfold list? at found
    split at found
    · next items => exact ⟨items, rfl, (readAll_eq_some_iff exact_form).mp found⟩
    · cases found
  · rintro ⟨items, rfl, forms⟩
    exact (readAll_eq_some_iff exact_form).mpr forms

end Lists

/-! ## Records -/

/-- Whether a name is the key of one member only, and what its value is. -/
def StandsOnce (members : List (JsonText × Json)) (name : String) (value : Json) : Prop :=
  (members.filter fun member => member.1 = some name) = [(some name, value)]

/-- A record that has the named fields with the given values, each of them once. -/
inductive HasFields (names : List String) (values : List Json) : Json → Prop
  | object {members : List (JsonText × Json)} (texts : ∀ member ∈ members, member.1.isSome = true)
      (once : List.Forall₂ (StandsOnce members) names values) :
      HasFields names values (.object members)
  | array (each : values.length = names.length) : HasFields names values (.array values)

theorem member?_eq_some_some_iff {name : String} {members : List (JsonText × Json)} {value : Json} :
    member? name members = some (some value) ↔ StandsOnce members name value := by
  rw [StandsOnce]
  constructor
  · intro found
    unfold member? at found
    split at found
    · cases found
    · next member only =>
      have named : member.1 = some name := by
        have kept : member ∈ members.filter fun member => member.1 = some name := by
          rw [only]
          exact List.mem_singleton_self member
        exact of_decide_eq_true (List.mem_filter.mp kept).2
      obtain ⟨key, held⟩ := member
      obtain rfl := Option.some.inj (Option.some.inj found)
      rw [only]
      exact congrArg (fun key => [(key, held)]) named
    · cases found
  · intro only
    rw [member?, only]

theorem fieldsOfMembers_eq_some_iff {members : List (JsonText × Json)} {names : List String}
    {values : List Json} :
    fieldsOfMembers members names = some (values.map some) ↔
      List.Forall₂ (StandsOnce members) names values := by
  induction names generalizing values with
  | nil =>
      rw [fieldsOfMembers, Option.some.injEq, eq_comm, List.map_eq_nil_iff,
        List.forall₂_nil_left_iff]
  | cons name names ih =>
      rw [List.forall₂_cons_left_iff, fieldsOfMembers]
      cases found : member? name members with
      | none =>
          constructor
          · rintro ⟨⟩
          · rintro ⟨value, _, only, -⟩
            rw [member?_eq_some_some_iff.mpr only] at found
            cases found
      | some held =>
          rw [Option.map_eq_some_iff]
          constructor
          · rintro ⟨rest, others, same⟩
            obtain ⟨value, values, rfl, rfl, rfl⟩ := List.map_eq_cons_iff.mp same.symm
            exact ⟨value, values, member?_eq_some_some_iff.mp found, ih.mp others, rfl⟩
          · rintro ⟨value, values, only, others, rfl⟩
            rw [member?_eq_some_some_iff.mpr only] at found
            cases found
            exact ⟨values.map some, ih.mpr others, rfl⟩

theorem fieldsOfItems_eq_some_iff {names : List String} {items values : List Json} :
    fieldsOfItems names items = some (values.map some) ↔
      items = values ∧ values.length = names.length := by
  induction names generalizing items values with
  | nil =>
      cases items with
      | nil =>
          rw [fieldsOfItems, Option.some.injEq, eq_comm, List.map_eq_nil_iff, eq_comm]
          constructor
          · rintro rfl
            exact ⟨rfl, rfl⟩
          · exact And.left
      | cons item items =>
          constructor
          · rintro ⟨⟩
          · rintro ⟨rfl, ⟨⟩⟩
  | cons name names ih =>
      cases items with
      | nil =>
          rw [fieldsOfItems, Option.map_eq_some_iff]
          constructor
          · rintro ⟨rest, -, same⟩
            obtain ⟨_, _, -, ⟨⟩, -⟩ := List.map_eq_cons_iff.mp same.symm
          · rintro ⟨rfl, ⟨⟩⟩
      | cons item items =>
          rw [fieldsOfItems, Option.map_eq_some_iff]
          constructor
          · rintro ⟨rest, found, same⟩
            obtain ⟨value, values, rfl, held, rfl⟩ := List.map_eq_cons_iff.mp same.symm
            obtain rfl := Option.some.inj held
            obtain ⟨rfl, many⟩ := ih.mp found
            exact ⟨rfl, congrArg Nat.succ many⟩
          · rintro ⟨rfl, many⟩
            exact ⟨items.map some, ih.mpr ⟨rfl, Nat.succ.inj many⟩, rfl⟩

/-- **The fields of a record are found exactly if it has them.** -/
theorem fields?_eq_some_iff {names : List String} {values : List Json} {value : Json} :
    value.fields? names = some (values.map some) ↔ HasFields names values value := by
  constructor
  · intro found
    unfold fields? at found
    split at found
    · next members =>
      obtain ⟨texts, found⟩ := Option.ite_none_right_eq_some.mp found
      exact .object (List.all_eq_true.mp texts) (fieldsOfMembers_eq_some_iff.mp found)
    · next items =>
      obtain ⟨rfl, each⟩ := fieldsOfItems_eq_some_iff.mp found
      exact .array each
    · cases found
  · intro has
    cases has with
    | object texts once =>
        rw [fields?, if_pos (List.all_eq_true.mpr texts)]
        exact fieldsOfMembers_eq_some_iff.mpr once
    | array each => exact fieldsOfItems_eq_some_iff.mpr ⟨rfl, each⟩

end ReplicaSync.Json
