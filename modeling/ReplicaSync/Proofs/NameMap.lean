import ReplicaSync.NameMap

/-!
# Maps from their entries

Inserting the entries of a map one after the other gives the map again. They come in the order
of the names, so each of them goes to the end.
-/

set_option autoImplicit false

universe u

namespace ReplicaSync.NameMap

variable {α : Type u}

theorem insertEntry_of_last {name : String} {value : α} {entries : List (String × α)}
    (last : ∀ entry ∈ entries, entry.1 < name) :
    insertEntry name value entries = entries ++ [(name, value)] := by
  induction entries with
  | nil => rfl
  | cons first rest ih =>
      have before : first.1 < name := last first List.mem_cons_self
      rw [insertEntry, if_neg (fun after => String.lt_irrefl _ (String.lt_trans after before)),
        if_pos before, ih fun entry member => last entry (List.mem_cons_of_mem _ member)]
      rfl

theorem entries_foldl_insert (map : NameMap α) (entries : List (String × α))
    (sorted : (map.entries ++ entries).Pairwise fun left right => left.1 < right.1) :
    (entries.foldl (fun map entry => map.insert entry.1 entry.2) map).entries =
      map.entries ++ entries := by
  induction entries generalizing map with
  | nil => rw [List.append_nil]; rfl
  | cons entry rest ih =>
      have last : ∀ other ∈ map.entries, other.1 < entry.1 := fun other member =>
        (List.pairwise_append.mp sorted).2.2 other member entry List.mem_cons_self
      have added : (map.insert entry.1 entry.2).entries = map.entries ++ [entry] :=
        insertEntry_of_last last
      rw [List.foldl_cons, ih]
      · rw [added, List.append_assoc, List.singleton_append]
      · rw [added, List.append_assoc, List.singleton_append]
        exact sorted

theorem eq_of_entries_eq {left right : NameMap α} (same : left.entries = right.entries) :
    left = right := by
  obtain ⟨entries, sorted⟩ := left
  obtain ⟨others, others_sorted⟩ := right
  obtain rfl : entries = others := same
  rfl

/-- **A map is the map of its entries.** -/
theorem ofList_entries (map : NameMap α) : ofList map.entries = map :=
  eq_of_entries_eq (entries_foldl_insert empty map.entries map.sorted)

/-- A map has the entries that looking up finds. -/
theorem mem_entries_iff {map : NameMap α} {name : String} {value : α} :
    (name, value) ∈ map.entries ↔ map.get? name = some value := by
  obtain ⟨entries, sorted⟩ := map
  rw [get?]
  dsimp only
  induction entries with
  | nil => simp
  | cons first rest ih =>
      have tail := List.pairwise_cons.mp sorted
      rw [List.mem_cons, List.find?_cons]
      by_cases here : first.1 = name
      · have later : (name, value) ∉ rest := fun member => by
          have before := tail.1 _ member
          rw [here] at before
          exact String.lt_irrefl _ before
        simp [here, later, Prod.ext_iff, eq_comm]
      · have elsewhere : (first.1 == name) = false := beq_eq_false_iff_ne.mpr here
        rw [elsewhere, ih tail.2, or_iff_right]
        rintro rfl
        exact here rfl

/-- The names of some entries are in ascending order. -/
theorem sorted_names_filter (map : NameMap α) (select : String × α → Bool) :
    ((map.entries.filter select).map Prod.fst).Pairwise (· < ·) :=
  List.pairwise_map.mpr (map.sorted.filter select)

end ReplicaSync.NameMap
