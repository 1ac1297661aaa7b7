import Mathlib.Order.Bounds.Basic
import ReplicaSync.Proofs.Revision.Numbers

/-!
# Advancing or standing still

A write looks at the numbers that the lineage shows for the server, in the current revision and in
the history, in any order. If the greatest of them is the greatest signed 64-bit number, the write
fails and the lineage at hand stays as it is. In every other case it succeeds, and the lineage has
advanced (`Lineage.Advanced`): the number is the one after the greatest in unbounded arithmetic, or
one where none is shown, and the history is the end of the old one with the old current revision
behind it (`Lineage.record_advances_or_fails`).
-/

set_option autoImplicit false

namespace ReplicaSync.Lineage

/-- The numbers that a lineage shows for a server, in unbounded arithmetic. -/
def shown (lineage : Lineage) (server : String) : Set Int :=
  { value | ∃ number : Int64, ⟨server, number⟩ ∈ lineage.revisions ∧ number.toInt = value }

variable {lineage next : Lineage} {server : String} {retention : Retention}

/-- The latest number is the greatest of those shown, unless none is. -/
theorem isGreatest_latest (some_shown : (lineage.shown server).Nonempty) :
    IsGreatest (lineage.shown server) (lineage.latest server).toInt := by
  obtain ⟨_, number, listed, rfl⟩ := some_shown
  obtain ⟨-, none_shown⟩ | ⟨member, bound⟩ := lineage.latest_cases server
  · exact absurd listed (none_shown number)
  · refine ⟨⟨_, member, rfl⟩, ?_⟩
    rintro _ ⟨other, shown, rfl⟩
    exact Int64.le_iff_toInt_le.mp (bound other shown)

/-- The latest number is zero where none is shown. -/
theorem latest_of_shown_eq_empty (none_shown : lineage.shown server = ∅) :
    lineage.latest server = 0 := by
  obtain ⟨zero, -⟩ | ⟨member, -⟩ := lineage.latest_cases server
  · exact zero
  · have shown : (lineage.latest server).toInt ∈ lineage.shown server := ⟨_, member, rfl⟩
    rw [none_shown] at shown
    cases shown

/-- The latest number is the last there is exactly if that is the greatest number shown. -/
theorem latest_eq_maxValue_iff :
    lineage.latest server = Int64.maxValue ↔
      IsGreatest (lineage.shown server) Int64.maxValue.toInt := by
  constructor
  · intro last
    rw [← last]
    refine isGreatest_latest (Set.nonempty_iff_ne_empty.mpr fun none_shown => ?_)
    rw [latest_of_shown_eq_empty none_shown] at last
    cases last
  · intro greatest
    exact Int64.toInt_inj.mp ((isGreatest_latest ⟨_, greatest.1⟩).unique greatest)

/-- Recording a write leaves the lineage after it in place, or the one before it if it fails. -/
theorem record_eq (lineage : Lineage) (server : String) (retention : Retention) :
    lineage.record server retention =
      match lineage.write server retention with
      | .ok next => (.ok (), next)
      | .error fault => (.error fault, lineage) := by
  rw [record, write]
  dsimp only
  by_cases last : lineage.latest server = Int64.maxValue
  · rw [if_pos last, if_pos last]
  · rw [if_neg last, if_neg last]
    rfl

/-- What a write on a server has made of a lineage. -/
structure Advanced (lineage : Lineage) (server : String) (retention : Retention)
    (next : Lineage) : Prop where
  server_eq : next.current.server = server
  /-- The number comes after the greatest one shown, or is one if none was. -/
  number_eq : (lineage.shown server = ∅ ∧ next.current.number.toInt = 1) ∨
    ∃ greatest, IsGreatest (lineage.shown server) greatest ∧
      next.current.number.toInt = greatest + 1
  above : ∀ value ∈ lineage.shown server, value < next.current.number.toInt
  /-- The history is the newest part of what there was, as long as is kept. -/
  history_suffix : next.history <:+ lineage.history ++ [lineage.current]
  history_length : next.history.length = min retention.limit.toNat (lineage.history.length + 1)

theorem advanced_of_write (written : lineage.write server retention = .ok next) :
    Advanced lineage server retention next where
  server_eq := server_of_write written
  number_eq := by
    rw [toInt_number_of_write written]
    rcases Set.eq_empty_or_nonempty (lineage.shown server) with none_shown | some_shown
    · refine .inl ⟨none_shown, ?_⟩
      rw [latest_of_shown_eq_empty none_shown]
      rfl
    · exact .inr ⟨_, isGreatest_latest some_shown, rfl⟩
  above := by
    rintro _ ⟨number, listed, rfl⟩
    exact Int64.lt_iff_toInt_lt.mp (number_lt_of_write written listed)
  history_suffix := by
    rw [history_of_write written]
    exact List.drop_suffix _ _
  history_length := by
    rw [history_of_write written, Retention.apply, revisions, List.length_drop,
      List.length_append, List.length_singleton]
    omega

/-- **A write advances the lineage at hand or leaves it alone.** It fails exactly if the greatest
number shown for the server is the last there is. -/
theorem record_advances_or_fails (lineage : Lineage) (server : String) (retention : Retention) :
    (IsGreatest (lineage.shown server) Int64.maxValue.toInt ∧
      lineage.record server retention =
        (.error (.metadata (.exhausted Int64.maxValue server)), lineage)) ∨
    (¬ IsGreatest (lineage.shown server) Int64.maxValue.toInt ∧
      ∃ next, lineage.record server retention = (.ok (), next) ∧
        Advanced lineage server retention next) := by
  rw [record_eq, ← latest_eq_maxValue_iff]
  by_cases last : lineage.latest server = Int64.maxValue
  · refine .inl ⟨last, ?_⟩
    rw [write, if_pos last, last]
  · have written : lineage.write server retention = .ok _ := write_eq_ok_iff.mpr ⟨last, rfl⟩
    refine .inr ⟨last, _, ?_, advanced_of_write written⟩
    rw [written]

end ReplicaSync.Lineage
