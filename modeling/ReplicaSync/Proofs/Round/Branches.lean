import ReplicaSync.Proofs.Revision.Numbers
import ReplicaSync.Proofs.Round.Evaluation

/-!
# Branches of a common base

Two servers that go on from the same lineage, each by writes of its own, are on different
branches. A branch shows nothing but what the base showed and what its own server wrote
(`Lineage.mem_revisions_of_writeEach`), and its number is above all that the base showed for its
server (`Lineage.number_lt_of_writeEach`). The retention plays no part in either: a write only
ever leaves revisions out. So neither branch shows the current revision of the other, and they
are in conflict both ways (`Lineage.conflict_of_branches`).
-/

set_option autoImplicit false

namespace ReplicaSync

namespace Lineage

/-- The lineage after writes on one server, one for each of some retentions. -/
def writeEach (server : String) : List Retention → Lineage → Except Fault Lineage
  | [], lineage => .ok lineage
  | retention :: later, lineage =>
      match lineage.write server retention with
      | .error fault => .error fault
      | .ok next => writeEach server later next

section Branch

variable {base branch : Lineage} {server : String} {retentions : List Retention}

theorem writeEach_cons {retention : Retention}
    (written : base.writeEach server (retention :: retentions) = .ok branch) :
    ∃ next, base.write server retention = .ok next ∧
      next.writeEach server retentions = .ok branch := by
  rw [writeEach] at written
  split at written
  · cases written
  · next next here => exact ⟨next, here, written⟩

/-- A write leaves only revisions that the lineage showed before. -/
theorem mem_of_write {lineage next : Lineage} {retention : Retention} {revision : Revision}
    (written : lineage.write server retention = .ok next) (kept : revision ∈ next.history) :
    revision ∈ lineage.revisions := by
  rw [history_of_write written] at kept
  exact List.mem_of_mem_drop kept

/-- What a branch shows, its base showed or its server wrote. -/
theorem mem_revisions_of_writeEach {revision : Revision}
    (written : base.writeEach server retentions = .ok branch)
    (shown : revision ∈ branch.revisions) :
    revision ∈ base.revisions ∨ revision.server = server := by
  induction retentions generalizing base with
  | nil =>
      cases written
      exact .inl shown
  | cons retention later ih =>
      obtain ⟨next, first, rest⟩ := writeEach_cons written
      rcases ih rest with early | own
      · rcases List.mem_append.mp early with kept | current
        · exact .inl (mem_of_write first kept)
        · rw [List.mem_singleton.mp current]
          exact .inr (server_of_write first)
      · exact .inr own

/-- A branch with a write on it is at a revision of its server. -/
theorem server_of_writeEach (some_write : retentions ≠ [])
    (written : base.writeEach server retentions = .ok branch) :
    branch.current.server = server := by
  induction retentions generalizing base with
  | nil => exact absurd rfl some_write
  | cons retention later ih =>
      obtain ⟨next, first, rest⟩ := writeEach_cons written
      cases later with
      | nil =>
          cases rest
          exact server_of_write first
      | cons => exact ih (List.cons_ne_nil _ _) rest

/-- **The number of a branch is above all that its base showed for its server**, whatever has
been left out of the history on the way. -/
theorem number_lt_of_writeEach {number : Int64} (some_write : retentions ≠ [])
    (written : base.writeEach server retentions = .ok branch)
    (shown : ⟨server, number⟩ ∈ base.revisions) : number < branch.current.number := by
  induction retentions generalizing base number with
  | nil => exact absurd rfl some_write
  | cons retention later ih =>
      obtain ⟨next, first, rest⟩ := writeEach_cons written
      have above : number < next.current.number := number_lt_of_write first shown
      cases later with
      | nil =>
          cases rest
          exact above
      | cons =>
          -- the revision of the first write stands for all that the base showed
          have still_shown : ⟨server, next.current.number⟩ ∈ next.revisions := by
            rw [← server_of_write first]
            exact List.mem_append_right _ List.mem_cons_self
          exact Int64.lt_trans above (ih (List.cons_ne_nil _ _) rest still_shown)

end Branch

section Branches

variable {base left right : Lineage} {leftServer rightServer : String}
variable {leftRetentions rightRetentions : List Retention}

/-- Of two branches, neither shows where the other one is. -/
theorem current_notMem_of_branches (different : leftServer ≠ rightServer)
    (some_write : leftRetentions ≠ [])
    (left_written : base.writeEach leftServer leftRetentions = .ok left)
    (right_written : base.writeEach rightServer rightRetentions = .ok right) :
    left.current ∉ right.history := by
  intro shown
  have own : left.current.server = leftServer := server_of_writeEach some_write left_written
  rcases mem_revisions_of_writeEach right_written (List.mem_append_left _ shown) with
    early | others
  · have named : (⟨leftServer, left.current.number⟩ : Revision) ∈ base.revisions := by
      rw [← own]
      exact early
    exact Int64.lt_irrefl (number_lt_of_writeEach some_write left_written named)
  · exact different (own.symm.trans others)

/-- The conflict that the one branch finds when the other one comes in. -/
theorem between_of_branches (different : leftServer ≠ rightServer)
    (left_writes : leftRetentions ≠ []) (right_writes : rightRetentions ≠ [])
    (left_written : base.writeEach leftServer leftRetentions = .ok left)
    (right_written : base.writeEach rightServer rightRetentions = .ok right) :
    Conflict.between left right = some ⟨left.current, right.current, right.history⟩ := by
  refine Conflict.between_of_apart (fun same => different ?_)
    (current_notMem_of_branches different left_writes left_written right_written)
  rw [← server_of_writeEach left_writes left_written, same,
    server_of_writeEach right_writes right_written]

end Branches

/-- **Branches of a common base that were written on different servers are in conflict both
ways**, however many writes there are on either and however much of the history each of them
keeps. The conflict names the two current revisions and the history of the side that comes in,
and a round can only decide about it, so it never finds either branch up to date with the other
or a fast forward of it. -/
theorem conflict_of_branches {base left right : Lineage} {leftServer rightServer : String}
    {leftRetentions rightRetentions : List Retention} (different : leftServer ≠ rightServer)
    (left_writes : leftRetentions ≠ []) (right_writes : rightRetentions ≠ [])
    (left_written : base.writeEach leftServer leftRetentions = .ok left)
    (right_written : base.writeEach rightServer rightRetentions = .ok right) :
    Conflict.between left right = some ⟨left.current, right.current, right.history⟩ ∧
    Conflict.between right left = some ⟨right.current, left.current, left.history⟩ ∧
    ∀ (σ ι : Type) [TransactionalStorage σ] [SearchIndex ι] (workspace : Workspace σ ι)
      (name : String) (leftProperties rightProperties : Properties) (decided : Decision),
      ofProperties leftProperties = .ok left → ofProperties rightProperties = .ok right →
        ((Round.evaluate name (some leftProperties) rightProperties workspace).1 = .ok decided →
          decided.conflict? = some ⟨left.current, right.current, right.history⟩) ∧
        ((Round.evaluate name (some rightProperties) leftProperties workspace).1 = .ok decided →
          decided.conflict? = some ⟨right.current, left.current, left.history⟩) := by
  have rightwards :=
    between_of_branches different left_writes right_writes left_written right_written
  have leftwards :=
    between_of_branches different.symm right_writes left_writes right_written left_written
  refine ⟨rightwards, leftwards, ?_⟩
  intro σ ι _ _ workspace name leftProperties rightProperties decided left_read right_read
  exact ⟨Round.conflict?_of_between left_read right_read rightwards,
    Round.conflict?_of_between right_read left_read leftwards⟩

/-- A base with a number below zero shows both servers, the later one of them out of order. One
branch drops all of that and the other one most of it. -/
theorem conflict_of_branches_of_shortened :
    ∃ base left right : Lineage,
      base = ⟨⟨"c", -3⟩, [⟨"b", 7⟩, ⟨"a", 4⟩, ⟨"b", 2⟩]⟩ ∧
      base.writeEach "a" [⟨0⟩, ⟨2⟩] = .ok left ∧ base.writeEach "b" [⟨2⟩] = .ok right ∧
      Conflict.between left right = some ⟨⟨"a", 6⟩, ⟨"b", 8⟩, [⟨"b", 2⟩, ⟨"c", -3⟩]⟩ ∧
      Conflict.between right left = some ⟨⟨"b", 8⟩, ⟨"a", 6⟩, [⟨"a", 5⟩]⟩ := by
  let base : Lineage := ⟨⟨"c", -3⟩, [⟨"b", 7⟩, ⟨"a", 4⟩, ⟨"b", 2⟩]⟩
  have left_written : base.writeEach "a" [⟨0⟩, ⟨2⟩] = .ok ⟨⟨"a", 6⟩, [⟨"a", 5⟩]⟩ := rfl
  have right_written : base.writeEach "b" [⟨2⟩] = .ok ⟨⟨"b", 8⟩, [⟨"b", 2⟩, ⟨"c", -3⟩]⟩ := rfl
  obtain ⟨rightwards, leftwards, -⟩ :=
    conflict_of_branches (by decide) (by decide) (by decide) left_written right_written
  exact ⟨base, _, _, rfl, left_written, right_written, rightwards, leftwards⟩

end Lineage

end ReplicaSync
