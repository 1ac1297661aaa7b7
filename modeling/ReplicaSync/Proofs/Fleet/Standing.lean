import ReplicaSync.Proofs.Fleet.Continuity

/-!
# How two nodes stand to each other

Two lineages are the same, or one is behind the other, which goes on from it, or neither knows
the revision of the other. They stand to each other in one of these ways at most
(`Standing.between_unique`). Where all writes are continued, any two copies do in one of them
(`Account.exists_between`), and a round decides by it (`Account.decision_of_between`).
-/

set_option autoImplicit false

namespace ReplicaSync

/-- How a lineage that is held stands to one that comes in. -/
inductive Standing where
  | same
  | behind
  | ahead
  | apart
  deriving DecidableEq

namespace Standing

/-- Whether two lineages stand to each other in a way. -/
def Between (held incoming : Lineage) : Standing → Prop
  | .same => held = incoming
  | .behind => held.revisions <+: incoming.history
  | .ahead => incoming.revisions <+: held.history
  | .apart => held.current ∉ incoming.revisions ∧ incoming.current ∉ held.revisions

/-- What becomes of a lineage that comes in. -/
def decision (held incoming : Lineage) : Standing → Decision
  | .same => .upToDate
  | .behind => .fastForward
  | .ahead | .apart => .conflict ⟨held.current, incoming.current, incoming.history⟩

/-- The standing seen from the other side. -/
def mirror : Standing → Standing
  | .same => .same
  | .behind => .ahead
  | .ahead => .behind
  | .apart => .apart

variable {held incoming : Lineage}

theorem shorter_of_behind (starts : held.revisions <+: incoming.history) :
    held.history.length < incoming.history.length := by
  have := starts.length_le
  rw [Lineage.revisions, List.length_append, List.length_singleton] at this
  omega

theorem mem_of_behind (starts : held.revisions <+: incoming.history) :
    held.current ∈ incoming.history :=
  starts.subset held.current_mem

theorem between_mirror {standing : Standing} (between : standing.Between held incoming) :
    standing.mirror.Between incoming held := by
  cases standing with
  | same => exact Eq.symm between
  | behind => exact between
  | ahead => exact between
  | apart => exact ⟨between.2, between.1⟩

theorem mirror_mirror (standing : Standing) : standing.mirror.mirror = standing := by
  cases standing <;> rfl

/-- A lineage that is behind another stands to it in no other way. -/
theorem eq_behind {standing : Standing} (starts : held.revisions <+: incoming.history)
    (between : standing.Between held incoming) : standing = .behind := by
  have shorter := shorter_of_behind starts
  cases standing with
  | same =>
      obtain rfl : held = incoming := between
      exact absurd shorter (Nat.lt_irrefl _)
  | behind => rfl
  | ahead => exact absurd shorter (Nat.lt_asymm (shorter_of_behind between))
  | apart =>
      exact absurd (incoming.history_prefix.subset (mem_of_behind starts)) between.1

/-- **Two lineages stand to each other in one way at most.** -/
theorem between_unique {left right : Standing} (first : left.Between held incoming)
    (second : right.Between held incoming) : left = right := by
  cases left with
  | behind => exact (eq_behind first second).symm
  | ahead =>
      have mirrored := eq_behind first (between_mirror second)
      rw [← mirror_mirror right, mirrored]
      rfl
  | same =>
      obtain rfl : held = incoming := first
      cases right with
      | same => rfl
      | behind => exact absurd (shorter_of_behind second) (Nat.lt_irrefl _)
      | ahead => exact absurd (shorter_of_behind second) (Nat.lt_irrefl _)
      | apart => exact absurd held.current_mem second.1
  | apart =>
      cases right with
      | same =>
          obtain rfl : held = incoming := second
          exact absurd held.current_mem first.1
      | behind => exact eq_behind second first
      | ahead =>
          have mirrored := eq_behind second (between_mirror first)
          cases mirrored
      | apart => rfl

end Standing

namespace Account

variable {account : Account} (consistent : Consistent account)
variable (continued : Continued account.issues)
include consistent continued

/-- A copy whose revision another one descends from is behind it. -/
theorem prefix_of_current_mem {left right : String} {copy other : Copy}
    (left_held : account.copies left = some copy) (right_held : account.copies right = some other)
    (known : copy.lineage.current ∈ other.lineage.history) :
    copy.lineage.revisions <+: other.lineage.history := by
  obtain ⟨issue, member, rfl⟩ := consistent.held left copy left_held
  obtain ⟨rival, rival_member, rfl⟩ := consistent.held right other right_held
  exact continued.prefix_of_mem consistent rival_member rival.copy.lineage.history_prefix member
    known

/-- **Two copies stand to each other in some way.** -/
theorem exists_between {left right : String} {copy other : Copy}
    (left_held : account.copies left = some copy)
    (right_held : account.copies right = some other) :
    ∃ standing : Standing, standing.Between copy.lineage other.lineage := by
  by_cases same : copy.lineage.current = other.lineage.current
  · refine ⟨.same, ?_⟩
    rw [continued.copy_eq consistent left_held right_held same]
    rfl
  by_cases known : copy.lineage.current ∈ other.lineage.history
  · exact ⟨.behind, prefix_of_current_mem consistent continued left_held right_held known⟩
  by_cases knows : other.lineage.current ∈ copy.lineage.history
  · exact ⟨.ahead, prefix_of_current_mem consistent continued right_held left_held knows⟩
  refine ⟨.apart, fun shown => ?_, fun shown => ?_⟩
  · rcases List.mem_append.mp shown with old | current
    · exact known old
    · exact same (List.mem_singleton.mp current)
  · rcases List.mem_append.mp shown with old | current
    · exact knows old
    · exact same (List.mem_singleton.mp current).symm

/-- **A round decides by how the copies stand to each other.** -/
theorem decision_of_between {left right : String} {copy other : Copy}
    (left_held : account.copies left = some copy) (right_held : account.copies right = some other)
    {standing : Standing} (between : standing.Between copy.lineage other.lineage) :
    Round.decision copy.lineage none other.lineage =
      standing.decision copy.lineage other.lineage := by
  have different_of_shorter {first second : String} {one two : Copy}
      (first_held : account.copies first = some one)
      (second_held : account.copies second = some two)
      (shorter : one.lineage.history.length < two.lineage.history.length) :
      one.lineage.current ≠ two.lineage.current := by
    intro same
    rw [continued.copy_eq consistent first_held second_held same] at shorter
    exact Nat.lt_irrefl _ shorter
  cases standing with
  | same =>
      have equal : copy.lineage = other.lineage := between
      exact Round.decision_of_same (by rw [equal])
  | behind =>
      have shorter := Standing.shorter_of_behind between
      exact Round.decision_of_descends (different_of_shorter left_held right_held shorter)
        (Standing.mem_of_behind between)
  | ahead =>
      have shorter := Standing.shorter_of_behind between
      refine Round.decision_of_apart (different_of_shorter right_held left_held shorter).symm ?_
      intro known
      have starts := prefix_of_current_mem consistent continued left_held right_held known
      exact Nat.lt_asymm shorter (Standing.shorter_of_behind starts)
  | apart =>
      obtain ⟨unknown, -⟩ := between
      refine Round.decision_of_apart ?_ ?_
      · intro same
        rw [same] at unknown
        exact unknown other.lineage.current_mem
      · intro known
        exact unknown (other.lineage.history_prefix.subset known)

end Account

end ReplicaSync
