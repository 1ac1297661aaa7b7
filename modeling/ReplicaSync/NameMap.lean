/-!
# Maps keyed by names

A finite map from names to values, kept as a list of entries in the order of the names. Names
are ordered by their characters, code point by code point, which is also the order of their
UTF-8 bytes. No name occurs twice, so a map is determined by its entries, and listing it needs
no sorting.

Each operation is described by what it does to looking a name up: `get?_insert` and
`get?_erase`.
-/

set_option autoImplicit false

universe u

namespace ReplicaSync

/-- A finite map from names to values. -/
structure NameMap (α : Type u) where
  entries : List (String × α)
  sorted : entries.Pairwise fun left right => left.1 < right.1

namespace NameMap

variable {α : Type u}

/-- The map without entries. -/
def empty : NameMap α := ⟨[], .nil⟩

instance : Inhabited (NameMap α) := ⟨empty⟩

instance [DecidableEq α] : DecidableEq (NameMap α) := fun left right =>
  match decEq left.entries right.entries with
  | isTrue same => isTrue (by cases left; cases right; cases same; rfl)
  | isFalse different => isFalse fun same => different (congrArg entries same)

/-- The value a name is mapped to. -/
def get? (map : NameMap α) (name : String) : Option α :=
  (map.entries.find? fun entry => entry.1 == name).map Prod.snd

/-- Whether a name is mapped to a value. -/
def contains (map : NameMap α) (name : String) : Bool :=
  (map.get? name).isSome

/-- The names in ascending order. -/
def names (map : NameMap α) : List String :=
  map.entries.map Prod.fst

/-- The number of names. -/
def size (map : NameMap α) : Nat :=
  map.entries.length

/-! ## Insertion -/

/-- Puts an entry into its place, instead of an entry of the same name. -/
def insertEntry (name : String) (value : α) : List (String × α) → List (String × α)
  | [] => [(name, value)]
  | entry :: rest =>
      if name < entry.1 then (name, value) :: entry :: rest
      else if entry.1 < name then entry :: insertEntry name value rest
      else (name, value) :: rest

theorem mem_insertEntry {name : String} {value : α} {entries : List (String × α)}
    {entry : String × α} (member : entry ∈ insertEntry name value entries) :
    entry = (name, value) ∨ entry ∈ entries := by
  induction entries with
  | nil => simpa [insertEntry] using member
  | cons first rest ih =>
      simp only [insertEntry] at member
      split at member
      · simpa using member
      · split at member
        · rcases List.mem_cons.mp member with same | later
          · exact .inr (same ▸ List.mem_cons_self)
          · exact (ih later).imp_right (List.mem_cons_of_mem first)
        · exact (List.mem_cons.mp member).imp_right (List.mem_cons_of_mem first)

theorem sorted_insertEntry (name : String) (value : α) {entries : List (String × α)}
    (sorted : entries.Pairwise fun left right => left.1 < right.1) :
    (insertEntry name value entries).Pairwise fun left right => left.1 < right.1 := by
  induction entries with
  | nil => simp [insertEntry]
  | cons first rest ih =>
      have tail := List.pairwise_cons.mp sorted
      simp only [insertEntry]
      split
      · next before =>
        refine List.pairwise_cons.mpr ⟨fun entry member => ?_, sorted⟩
        rcases List.mem_cons.mp member with rfl | later
        · exact before
        · exact String.lt_trans before (tail.1 entry later)
      · split
        · next after =>
          refine List.pairwise_cons.mpr ⟨fun entry member => ?_, ih tail.2⟩
          rcases mem_insertEntry member with rfl | later
          · exact after
          · exact tail.1 entry later
        · next notBefore notAfter =>
          have same : name = first.1 := String.le_antisymm notAfter notBefore
          exact List.pairwise_cons.mpr ⟨same ▸ tail.1, tail.2⟩

/-- Maps a name to a value, in place of any other value. -/
def insert (map : NameMap α) (name : String) (value : α) : NameMap α :=
  ⟨insertEntry name value map.entries, sorted_insertEntry name value map.sorted⟩

/-- Removes a name. -/
def erase (map : NameMap α) (name : String) : NameMap α :=
  ⟨map.entries.filter fun entry => entry.1 != name, map.sorted.filter _⟩

/-- The map of a list of entries, in which the last entry of a name counts. -/
def ofList (entries : List (String × α)) : NameMap α :=
  entries.foldl (fun map entry => map.insert entry.1 entry.2) empty

/-! ## Laws of looking up -/

@[simp] theorem get?_empty (name : String) : (empty : NameMap α).get? name = none := rfl

theorem find?_insertEntry (name other : String) (value : α) (entries : List (String × α))
    (sorted : entries.Pairwise fun left right => left.1 < right.1) :
    ((insertEntry name value entries).find? fun entry => entry.1 == other) =
      if other = name then some (name, value)
      else entries.find? fun entry => entry.1 == other := by
  induction entries with
  | nil =>
      by_cases same : other = name
      · simp [insertEntry, same]
      · simp [insertEntry, same, Ne.symm same]
  | cons first rest ih =>
      have tail := List.pairwise_cons.mp sorted
      simp only [insertEntry]
      split
      · next before =>
        by_cases same : other = name
        · simp [same]
        · simp [List.find?_cons, same, Ne.symm same]
      · split
        · next after =>
          rw [List.find?_cons, ih tail.2, List.find?_cons]
          by_cases here : first.1 = other
          · have different : other ≠ name := fun same => by
              rw [here, same] at after
              exact String.lt_irrefl name after
            simp [here, different]
          · have elsewhere : (first.1 == other) = false := by simpa using here
            simp only [elsewhere]
        · next notBefore notAfter =>
          have same : name = first.1 := String.le_antisymm notAfter notBefore
          by_cases here : other = name
          · simp [here]
          · have different : ¬ first.1 = other := fun equal => here (same ▸ equal.symm)
            simp [here, Ne.symm here, different]

/-- After an insertion the name has the new value, and every other name the old one. -/
theorem get?_insert (map : NameMap α) (name other : String) (value : α) :
    (map.insert name value).get? other = if other = name then some value else map.get? other := by
  simp only [get?, insert, find?_insertEntry name other value map.entries map.sorted]
  split <;> rfl

theorem find?_erase (name other : String) (entries : List (String × α)) :
    ((entries.filter fun entry => entry.1 != name).find? fun entry => entry.1 == other) =
      if other = name then none else entries.find? fun entry => entry.1 == other := by
  induction entries with
  | nil => simp
  | cons first rest ih =>
      by_cases removed : first.1 = name
      · by_cases same : other = name
        · simp [same]
        · simp [removed, ih, same, Ne.symm same]
      · by_cases same : other = name
        · simp [same]
        · simp [List.find?_cons, removed, ih, same]

/-- After a removal the name has no value, and every other name the old one. -/
theorem get?_erase (map : NameMap α) (name other : String) :
    (map.erase name).get? other = if other = name then none else map.get? other := by
  simp only [get?, erase, find?_erase]
  split <;> rfl

end NameMap

end ReplicaSync
