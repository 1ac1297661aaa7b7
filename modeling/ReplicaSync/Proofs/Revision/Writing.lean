import Mathlib.Data.List.DropRight
import ReplicaSync.Proofs.Revision.Numbers

/-!
# Runs of writes

Writes follow one another on a lineage, on any servers in any order. What was current before
goes to the end of the history and the oldest revisions leave it, and leaving some out early
makes no difference later on. So the history is always the newest part of the history at the
start followed by all that has been current since (`Lineage.Writes.history_eq`).
-/

set_option autoImplicit false

namespace ReplicaSync

namespace Retention

/-- What is kept is the newest part. -/
theorem apply_eq_rtake (retention : Retention) (history : List Revision) :
    retention.apply history = history.rtake retention.limit.toNat :=
  rfl

/-- What has been dropped before makes no difference to what is kept. -/
theorem apply_apply_append (retention : Retention) (history later : List Revision) :
    retention.apply (retention.apply history ++ later) = retention.apply (history ++ later) := by
  have dropped : history.length - retention.limit.toNat ≤ history.length := Nat.sub_le _ _
  rw [apply, apply, apply, ← List.drop_append_of_le_length dropped, List.drop_drop,
    List.length_drop, List.length_append]
  congr 1
  omega

end Retention

namespace Lineage

/-- The newest revisions kept and the current one are the newest of all, one more. -/
theorem rtake_append_current (retention : Retention) (passed : List Revision)
    (current : Revision) :
    (passed ++ [current]).rtake (retention.limit.toNat + 1) =
      retention.apply passed ++ [current] := by
  rw [List.rtake_concat_succ, Retention.apply_eq_rtake]

/-- Some writes, one after the other: the revisions that were current before the last one,
oldest first, and the lineage at the end. -/
inductive Writes (retention : Retention) (origin : Lineage) : List Revision → Lineage → Prop
  | start : Writes retention origin [] origin
  | write {passed : List Revision} {lineage next : Lineage} {server : String}
      (earlier : Writes retention origin passed lineage)
      (written : lineage.write server retention = .ok next) :
      Writes retention origin (passed ++ [lineage.current]) next

namespace Writes

variable {retention : Retention} {origin lineage : Lineage} {passed : List Revision}

/-- What is kept at the end of a run is the newest of the history at its start and of all
that has been current in it. -/
theorem apply_revisions (run : Writes retention origin passed lineage) :
    retention.apply lineage.revisions =
      retention.apply (origin.history ++ passed ++ [lineage.current]) := by
  induction run with
  | start =>
      rw [List.append_nil]
      rfl
  | write earlier written ih =>
      rw [revisions, history_of_write written, Retention.apply_apply_append,
        ← Retention.apply_apply_append, ih, Retention.apply_apply_append, ← List.append_assoc]

/-- The history at the end of a run with a write in it. -/
theorem history_eq_of_write (run : Writes retention origin passed lineage)
    (some_write : passed ≠ []) :
    lineage.history = retention.apply (origin.history ++ passed) := by
  cases run with
  | start => exact absurd rfl some_write
  | write earlier written =>
      rw [history_of_write written, earlier.apply_revisions, List.append_assoc]

/-- The history at the end of a run, as long as there was nothing to leave out at its start. -/
theorem history_eq (run : Writes retention origin passed lineage)
    (kept : retention.apply origin.history = origin.history) :
    lineage.history = retention.apply (origin.history ++ passed) := by
  cases run with
  | start => rw [List.append_nil, kept]
  | write earlier written =>
      exact (earlier.write written).history_eq_of_write (List.append_ne_nil_of_right_ne_nil _
        (List.cons_ne_nil _ _))

/-- A run that has gone through no revision is where it started. -/
theorem eq_origin (run : Writes retention origin passed lineage) (no_write : passed = []) :
    lineage = origin := by
  cases run with
  | start => rfl
  | write => exact absurd no_write (List.append_ne_nil_of_right_ne_nil _ (List.cons_ne_nil _ _))

/-- A run with a write in it has gone through the revision at its start. -/
theorem current_mem (run : Writes retention origin passed lineage) (some_write : passed ≠ []) :
    origin.current ∈ passed := by
  induction run with
  | start => exact absurd rfl some_write
  | @write passed _ _ _ earlier _ ih =>
      by_cases first : passed = []
      · rw [earlier.eq_origin first]
        exact List.mem_append_right _ List.mem_cons_self
      · exact List.mem_append_left _ (ih first)

end Writes

end Lineage

end ReplicaSync
