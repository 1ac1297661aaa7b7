import Mathlib.Data.List.DropRight
import ReplicaSync.Text.Blank

/-!
# What trimming leaves

Trimming a text takes blank characters off both ends and stops at the first one that is not blank.
So a text is blank characters around what trimming leaves, and what it leaves neither begins nor
ends with a blank one. There is only one such part of a text (`Text.trims_iff`). Trimming a second
time changes nothing, and nothing is left exactly of a blank text.
-/

set_option autoImplicit false

namespace ReplicaSync.Text

theorem trim_eq_rdropWhile (characters : List Char) :
    trim characters = (characters.dropWhile isBlank).rdropWhile isBlank := rfl

/-- Characters that neither begin nor end with a blank one. -/
structure Tight (characters : List Char) : Prop where
  first : ∀ c ∈ characters.head?, isBlank c = false
  last : ∀ c ∈ characters.getLast?, isBlank c = false

/-- What trimming leaves is tight. -/
theorem tight_trim (characters : List Char) : Tight (trim characters) where
  first := by
    intro c begins
    -- dropping from the end leaves the beginning of what was left in front
    have kept : (characters.dropWhile isBlank).head? = some c := by
      obtain ⟨dropped, whole⟩ := List.rdropWhile_prefix isBlank (characters.dropWhile isBlank)
      rw [← whole, ← trim_eq_rdropWhile, List.head?_append, Option.mem_def.mp begins,
        Option.some_or]
    have stopped := List.head?_dropWhile_not isBlank characters
    rw [kept] at stopped
    exact stopped
  last := by
    intro c ends
    have some_left : trim characters ≠ [] := by
      intro nothing
      rw [nothing] at ends
      cases ends
    have stopped := List.rdropWhile_last_not isBlank (characters.dropWhile isBlank) some_left
    rw [List.getLast?_eq_some_getLast some_left] at ends
    obtain rfl := Option.some.inj ends
    exact Bool.eq_false_iff.mpr stopped

/-- Trimming takes blank characters off the front and off the end. -/
theorem exists_trim_append (characters : List Char) :
    ∃ front back, (∀ c ∈ front ++ back, isBlank c = true) ∧
      characters = front ++ trim characters ++ back := by
  refine ⟨characters.takeWhile isBlank, (characters.dropWhile isBlank).rtakeWhile isBlank, ?_, ?_⟩
  · intro c member
    rcases List.mem_append.mp member with before | after
    · exact List.mem_takeWhile_imp before
    · exact List.mem_rtakeWhile_imp after
  · rw [List.append_assoc, trim_eq_rdropWhile, List.rdropWhile_append_rtakeWhile,
      List.takeWhile_append_dropWhile]

/-- Tight characters are left as they are, and blank ones behind them are trimmed away. -/
theorem trim_append_blank {inner back : List Char} (tight : Tight inner)
    (blank : ∀ c ∈ back, isBlank c = true) : trim (inner ++ back) = inner := by
  have behind : ∀ c ∈ back.reverse, isBlank c = true := fun c member =>
    blank c (List.mem_reverse.mp member)
  cases inner with
  | nil =>
      rw [trim, List.nil_append, List.dropWhile_eq_nil_iff.mpr blank]
      rfl
  | cons first rest =>
      have visible : isBlank first = false := tight.first first rfl
      have kept : ((first :: rest) ++ back).dropWhile isBlank = (first :: rest) ++ back := by
        rw [List.cons_append, List.dropWhile_cons, visible]
        rfl
      have ends : (first :: rest).rdropWhile isBlank = first :: rest := by
        refine List.rdropWhile_eq_self_iff.mpr fun nonempty => ?_
        rw [tight.last _ (List.getLast?_eq_some_getLast nonempty)]
        exact Bool.false_ne_true
      rw [trim, kept, List.reverse_append, List.dropWhile_append_of_pos behind]
      exact ends

/-- **Blank characters around tight ones are trimmed away, and nothing else is.** -/
theorem trim_append_of_tight {front inner back : List Char} (tight : Tight inner)
    (blank : ∀ c ∈ front ++ back, isBlank c = true) : trim (front ++ inner ++ back) = inner := by
  have front_blank : ∀ c ∈ front, isBlank c = true := fun c member =>
    blank c (List.mem_append_left _ member)
  have back_blank : ∀ c ∈ back, isBlank c = true := fun c member =>
    blank c (List.mem_append_right _ member)
  have dropped : trim (front ++ inner ++ back) = trim (inner ++ back) := by
    rw [trim, List.append_assoc, List.dropWhile_append_of_pos front_blank]
    rfl
  rw [dropped, trim_append_blank tight back_blank]

theorem trim_of_tight {characters : List Char} (tight : Tight characters) :
    trim characters = characters := by
  have nothing_around := @trim_append_of_tight [] characters [] tight nofun
  rwa [List.nil_append, List.append_nil] at nothing_around

/-! ## Texts -/

/-- How a text stands to what is left of it when the blank characters around that are taken off. -/
structure Trims (text inner : String) : Prop where
  tight : Tight inner.toList
  around : ∃ front back, (∀ c ∈ front ++ back, isBlank c = true) ∧
    text.toList = front ++ inner.toList ++ back

theorem trims_trimmed (text : String) : Trims text (trimmed text) := by
  have inner : (trimmed text).toList = trim text.toList := String.toList_ofList
  constructor
  · rw [inner]
    exact tight_trim text.toList
  · rw [inner]
    exact exists_trim_append text.toList

/-- **Trimming leaves the one text that has blank characters around it and none at its ends.** -/
theorem trims_iff {text inner : String} : Trims text inner ↔ inner = trimmed text := by
  constructor
  · rintro ⟨tight, front, back, blank, whole⟩
    rw [trimmed, whole, trim_append_of_tight tight blank, String.ofList_toList]
  · rintro rfl
    exact trims_trimmed text

theorem trimmed_trimmed (text : String) : trimmed (trimmed text) = trimmed text := by
  rw [trimmed, trim_of_tight (trims_trimmed text).tight, String.ofList_toList]

/-- A text is blank exactly if trimming leaves nothing of it. -/
theorem blank_iff {text : String} : blank text = true ↔ trimmed text = "" := by
  rw [blank, List.all_eq_true]
  constructor
  · intro all_blank
    have nothing : Trims text "" := by
      refine ⟨⟨nofun, nofun⟩, text.toList, [], ?_, ?_⟩
      · rwa [List.append_nil]
      · rw [List.append_nil]
        exact (List.append_nil _).symm
    exact (trims_iff.mp nothing).symm
  · intro nothing c member
    obtain ⟨front, back, blank, whole⟩ := (trims_trimmed text).around
    rw [nothing] at whole
    have around : text.toList = front ++ back := by
      rw [whole]
      exact congrArg (· ++ back) (List.append_nil front)
    exact blank c (around ▸ member)

end ReplicaSync.Text
