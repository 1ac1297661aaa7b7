import Mathlib.Data.List.Chain
import ReplicaSync.Proofs.Revision.Writing
import ReplicaSync.Proofs.Round.Evaluation

/-!
# Peers that are not too far behind

Along a run of writes the history is a window over everything there has been: the newest part of
the history at the start and of all revisions since, as much of it as is kept. A lineage of the
run that is no more writes behind than revisions are kept is still in that window, so it is found
in the history at the end (`Lineage.Writes.mem_history_of_near`). The revision at the end is
another one, since the last write counted on from everything in the window before it
(`Lineage.Writes.current_ne_of_near`). So a peer that holds such a lineage is told to go forward
(`Lineage.fastForward_of_run`).
-/

set_option autoImplicit false

namespace ReplicaSync.Lineage

variable {retention : Retention} {origin final held lineage : Lineage} {passed : List Revision}

namespace Writes

/-- A revision that the run went through is still shown, if not too many have come since. -/
theorem mem_history_of_near (run : Writes retention held passed lineage) (some_write : passed ≠ [])
    (near : passed.length ≤ retention.limit.toNat) : held.current ∈ lineage.history := by
  have inside : (held.history ++ passed).length - retention.limit.toNat ≤ held.history.length := by
    rw [List.length_append]
    omega
  rw [run.history_eq_of_write some_write, Retention.apply, List.drop_append_of_le_length inside]
  exact List.mem_append_right _ (run.current_mem some_write)

/-- No write gives the revision at the start again while it is still shown. -/
theorem current_ne_of_near (run : Writes retention held passed lineage) (some_write : passed ≠ [])
    (near : passed.length ≤ retention.limit.toNat) : held.current ≠ lineage.current := by
  cases run with
  | start => exact absurd rfl some_write
  | @write passed before _ server earlier written =>
      have shown : held.current ∈ before.revisions := by
        by_cases first : passed = []
        · rw [earlier.eq_origin first]
          exact List.mem_append_right _ List.mem_cons_self
        · rw [List.length_append] at near
          exact List.mem_append_left _ (earlier.mem_history_of_near first (by omega))
      intro same
      have own : (⟨server, lineage.current.number⟩ : Revision) ∈ before.revisions := by
        rw [← server_of_write written, ← same]
        exact shown
      exact Int64.lt_irrefl (number_lt_of_write written own)

end Writes

/-! ## Runs as lists of lineages -/

/-- One lineage comes from another by a write on some server. -/
def Precedes (retention : Retention) (before after : Lineage) : Prop :=
  ∃ server, before.write server retention = .ok after

/-- Lineages that come one from the other make up a run of writes. -/
theorem writes_of_isChain {past : List Lineage}
    (chain : (origin :: past ++ [final]).IsChain (Precedes retention)) :
    Writes retention origin ((origin :: past).map current) final := by
  induction past using List.reverseRecOn generalizing final with
  | nil =>
      obtain ⟨server, written⟩ := List.isChain_pair.mp chain
      exact .write .start written
  | append_singleton past last ih =>
      rw [← List.cons_append, List.isChain_append] at chain
      obtain ⟨earlier, -, follows⟩ := chain
      obtain ⟨server, written⟩ := follows last List.getLast?_concat final rfl
      have run := (ih earlier).write written
      simpa using run

/-- What is kept of a list is the newest part of it, at most the whole. -/
theorem apply_eq_rtake_min (retention : Retention) (history : List Revision) :
    retention.apply history = history.rtake (min retention.limit.toNat history.length) := by
  rw [Retention.apply, List.rtake]
  congr 1
  omega

/-- **Detection is right for peers within the retention.** Take a run of writes on any servers,
from any lineage on. Its last history is the newest part of the first history and of all that has
been current before the end, as much as is kept. A lineage of the run that is at most as many
writes behind the last one as revisions are kept is at another revision and in no conflict with
it, and a round that brings the last lineage in over it finds a fast forward. -/
theorem fastForward_of_run {past : List Lineage}
    (run : (origin :: past ++ [final]).IsChain (Precedes retention)) :
    final.history = (origin.history ++ (origin :: past).map current).rtake
        (min retention.limit.toNat (origin.history.length + (past.length + 1))) ∧
      ∀ index held, (origin :: past)[index]? = some held →
        past.length + 1 - index ≤ retention.limit.toNat →
          Conflict.between held final = none ∧ held.current ≠ final.current ∧
          ∀ (σ ι : Type) [TransactionalStorage σ] [SearchIndex ι] (workspace : Workspace σ ι)
            (name : String) (here there : Properties),
            Legible held.current.server → Legible final.current.server →
              Round.evaluate name (some (held.writeTo here)) (final.writeTo there) workspace =
                (.ok .fastForward, workspace) := by
  refine ⟨?_, fun index held listed near => ?_⟩
  · rw [(writes_of_isChain run).history_eq_of_write (List.cons_ne_nil _ _), apply_eq_rtake_min,
      List.length_append, List.length_map, List.length_cons]
  · obtain ⟨inside, rfl⟩ := List.getElem?_eq_some_iff.mp listed
    -- from the lineage held on, the rest of the run is a run of its own
    have rest := run.drop index
    rw [List.drop_append_of_le_length (Nat.le_of_lt inside), List.drop_eq_getElem_cons inside]
      at rest
    have later := writes_of_isChain rest
    have near_enough :
        (((origin :: past)[index] :: (origin :: past).drop (index + 1)).map current).length ≤
          retention.limit.toNat := by
      simp only [List.length_map, List.length_cons, List.length_drop] at inside ⊢
      omega
    have known := later.mem_history_of_near (List.cons_ne_nil _ _) near_enough
    have different := later.current_ne_of_near (List.cons_ne_nil _ _) near_enough
    refine ⟨Conflict.between_eq_none_iff.mpr (.inr known), different, ?_⟩
    intro σ ι _ _ workspace name here there held_legible legible
    exact Round.evaluate_of_descends (ofProperties_writeTo held_legible here)
      (ofProperties_writeTo legible there) different known

/-- Three writes on two servers, from a lineage that has more history than the two revisions
that are kept. The lineage after the first write is just near enough. -/
theorem fastForward_of_run_of_alternation :
    ∃ origin first second final : Lineage,
      origin = ⟨⟨"a", 1⟩, [⟨"x", 5⟩, ⟨"b", 3⟩, ⟨"y", 1⟩]⟩ ∧
      [origin, first, second, final].IsChain (Precedes ⟨2⟩) ∧
      final = ⟨⟨"b", 5⟩, [⟨"b", 4⟩, ⟨"a", 2⟩]⟩ ∧
      final.history = (origin.history ++ [origin.current, first.current, second.current]).rtake 2 ∧
      Conflict.between first final = none ∧ first.current ≠ final.current ∧
      Round.evaluate "doc" (some (first.writeTo .empty)) (final.writeTo .empty)
        (⟨{}, {}⟩ : Workspace Store Index) = (.ok .fastForward, ⟨{}, {}⟩) := by
  let origin : Lineage := ⟨⟨"a", 1⟩, [⟨"x", 5⟩, ⟨"b", 3⟩, ⟨"y", 1⟩]⟩
  have run : (origin :: [⟨⟨"b", 4⟩, [⟨"y", 1⟩, ⟨"a", 1⟩]⟩, ⟨⟨"a", 2⟩, [⟨"a", 1⟩, ⟨"b", 4⟩]⟩] ++
      [(⟨⟨"b", 5⟩, [⟨"b", 4⟩, ⟨"a", 2⟩]⟩ : Lineage)]).IsChain (Precedes ⟨2⟩) := by
    refine .cons_cons ⟨"b", rfl⟩ (.cons_cons ⟨"a", rfl⟩ (.cons_cons ⟨"b", rfl⟩ (.singleton _)))
  obtain ⟨history, forward⟩ := fastForward_of_run run
  obtain ⟨agreed, different, decides⟩ := forward 1 _ rfl (by decide)
  exact ⟨origin, _, _, _, rfl, run, rfl, history, agreed, different,
    decides Store Index _ "doc" .empty .empty (by decide) (by decide)⟩

/-- A lineage that is one write further behind than revisions are kept has left the window, and is
in conflict. -/
example : Conflict.between ⟨⟨"a", 1⟩, [⟨"x", 5⟩, ⟨"b", 3⟩, ⟨"y", 1⟩]⟩
    ⟨⟨"b", 5⟩, [⟨"b", 4⟩, ⟨"a", 2⟩]⟩ =
      some ⟨⟨"a", 1⟩, ⟨"b", 5⟩, [⟨"b", 4⟩, ⟨"a", 2⟩]⟩ := by decide

end ReplicaSync.Lineage
