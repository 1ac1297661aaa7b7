import ReplicaSync.Revision.Basic

/-!
# The number of a write

A write gives the number after the greatest one that the lineage shows for the server, so the
new number is above all numbers shown for it (`Lineage.number_lt_of_write`). It is one where the
lineage shows none, and one more than a number shown otherwise (`Lineage.number_of_write`).
-/

set_option autoImplicit false

namespace ReplicaSync

/-! ## The greatest of some numbers -/

/-- There is no greatest number only where there is no number. -/
theorem greatest_eq_none_iff {numbers : List Int64} : greatest numbers = none ↔ numbers = [] := by
  cases numbers with
  | nil => exact iff_of_true rfl rfl
  | cons number rest =>
      rw [greatest]
      cases greatest rest <;> simp

/-- The greatest of some numbers is one of them, and none of them is above it. -/
theorem mem_and_le_of_greatest {numbers : List Int64} {most : Int64}
    (found : greatest numbers = some most) :
    most ∈ numbers ∧ ∀ number ∈ numbers, number ≤ most := by
  induction numbers generalizing most with
  | nil => cases found
  | cons number rest ih =>
      rw [greatest] at found
      cases below : greatest rest with
      | none =>
          rw [below] at found
          cases found
          rw [greatest_eq_none_iff.mp below]
          simp
      | some other =>
          rw [below] at found
          cases found
          obtain ⟨member, bound⟩ := ih below
          by_cases less : number < other
          · rw [if_pos less]
            refine ⟨List.mem_cons_of_mem _ member, ?_⟩
            rintro candidate (_ | ⟨_, later⟩)
            · exact Int64.le_of_lt less
            · exact bound candidate later
          · rw [if_neg less]
            refine ⟨List.mem_cons_self, ?_⟩
            rintro candidate (_ | ⟨_, later⟩)
            · exact Int64.le_refl _
            · exact Int64.le_trans (bound candidate later) (Int64.not_lt.mp less)

/-- The number after one that is not the greatest signed 64-bit number. -/
theorem toInt_add_one {number : Int64} (fits : number ≠ Int64.maxValue) :
    (number + 1).toInt = number.toInt + 1 := by
  have below : number.toInt ≠ Int64.maxValue.toInt := fun same => fits (Int64.toInt_inj.mp same)
  have least := number.le_toInt
  have most := number.toInt_lt
  rw [Int64.toInt_maxValue] at below
  rw [Int64.toInt_add]
  exact Int.bmod_eq_of_le (by simp; omega) (by simp; omega)

theorem pos_iff_toInt {number : Int64} : 0 < number ↔ 0 < number.toInt := by
  rw [Int64.lt_iff_toInt_lt, Int64.toInt_zero]

/-- One is the only number above zero that is not above one. -/
theorem eq_one_of_pos {number : Int64} (positive : 0 < number) (low : number ≤ 1) :
    number = 1 := by
  have positive := pos_iff_toInt.mp positive
  have low := Int64.le_iff_toInt_le.mp low
  rw [Int64.toInt_one] at low
  apply Int64.toInt_inj.mp
  rw [Int64.toInt_one]
  omega

namespace Lineage

variable {lineage next : Lineage} {server : String} {retention : Retention} {number : Int64}

/-! ## The numbers shown -/

/-- A lineage shows a number for a server in a revision of that name. -/
theorem mem_numbersOf :
    number ∈ lineage.numbersOf server ↔ ⟨server, number⟩ ∈ lineage.revisions := by
  rw [numbersOf, List.mem_map]
  constructor
  · rintro ⟨revision, member, rfl⟩
    obtain ⟨member, same⟩ := List.mem_filter.mp member
    rw [← of_decide_eq_true same]
    exact member
  · intro member
    exact ⟨_, List.mem_filter.mpr ⟨member, decide_eq_true rfl⟩, rfl⟩

/-- The latest number is zero where none is shown, and the greatest shown otherwise. -/
theorem latest_cases (lineage : Lineage) (server : String) :
    (lineage.latest server = 0 ∧ ∀ number, ⟨server, number⟩ ∉ lineage.revisions) ∨
      (⟨server, lineage.latest server⟩ ∈ lineage.revisions ∧
        ∀ number, ⟨server, number⟩ ∈ lineage.revisions → number ≤ lineage.latest server) := by
  cases found : greatest (lineage.numbersOf server) with
  | none =>
      refine .inl ⟨by rw [latest, found]; rfl, fun number member => ?_⟩
      have listed := mem_numbersOf.mpr member
      rw [greatest_eq_none_iff.mp found] at listed
      cases listed
  | some most =>
      have is_most : lineage.latest server = most := by
        rw [latest, found]
        rfl
      obtain ⟨member, bound⟩ := mem_and_le_of_greatest found
      rw [is_most]
      exact .inr ⟨mem_numbersOf.mp member, fun number listed => bound _ (mem_numbersOf.mpr listed)⟩

/-! ## The number given -/

/-- What a write does when it succeeds. -/
theorem write_eq_ok_iff :
    lineage.write server retention = .ok next ↔
      lineage.latest server ≠ Int64.maxValue ∧
        next = ⟨⟨server, lineage.latest server + 1⟩, retention.apply lineage.revisions⟩ := by
  rw [write]
  by_cases last : lineage.latest server = Int64.maxValue
  · simp [last]
  · simp [last, eq_comm]

variable (written : lineage.write server retention = .ok next)
include written

/-- The revision after a write is one of the writer's. -/
theorem server_of_write : next.current.server = server := by
  rw [(write_eq_ok_iff.mp written).2]

/-- The history after a write. -/
theorem history_of_write : next.history = retention.apply lineage.revisions := by
  rw [(write_eq_ok_iff.mp written).2]

/-- A write gives one more than the latest number. -/
theorem toInt_number_of_write :
    next.current.number.toInt = (lineage.latest server).toInt + 1 := by
  obtain ⟨fits, rfl⟩ := write_eq_ok_iff.mp written
  exact toInt_add_one fits

/-- **A write gives a number above all that the lineage shows for the server.** -/
theorem number_lt_of_write (shown : ⟨server, number⟩ ∈ lineage.revisions) :
    number < next.current.number := by
  rw [Int64.lt_iff_toInt_lt, toInt_number_of_write written]
  obtain ⟨-, none_shown⟩ | ⟨-, bound⟩ := lineage.latest_cases server
  · exact absurd shown (none_shown number)
  · have := Int64.le_iff_toInt_le.mp (bound number shown)
    omega

/-- A write gives the number one, or the number after one that the lineage shows. -/
theorem number_of_write :
    ((∀ number, ⟨server, number⟩ ∉ lineage.revisions) ∧ next.current.number = 1) ∨
      ∃ number, ⟨server, number⟩ ∈ lineage.revisions ∧
        next.current.number.toInt = number.toInt + 1 := by
  obtain ⟨zero, none_shown⟩ | ⟨shown, -⟩ := lineage.latest_cases server
  · refine .inl ⟨none_shown, ?_⟩
    rw [(write_eq_ok_iff.mp written).2, zero]
    rfl
  · exact .inr ⟨_, shown, toInt_number_of_write written⟩

end Lineage

end ReplicaSync
