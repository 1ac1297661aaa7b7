import Mathlib.Data.List.Nodup
import ReplicaSync.Proofs.Fleet.Account
import ReplicaSync.Proofs.Revision.Numbers

/-!
# What the writes of a run have in common

As long as no history has to be shortened, every write has all that it was made on for its
history, and whatever comes before a revision in some lineage is the lineage that this revision
was given out with (`Account.Consistent`). Every copy that a node holds comes from a write.

A write is continued if it was made on a lineage that shows all that its server gave out before.
If all writes are, no revision is given out twice (`Account.Continued.distinct`). A revision then
stands for one write, with one history and one content, and of two lineages one is the start of
the history of the other as soon as this shows its current revision.
-/

set_option autoImplicit false

namespace ReplicaSync

namespace Lineage

theorem revisions_injective {left right : Lineage} (same : left.revisions = right.revisions) :
    left = right := by
  obtain ⟨history, current⟩ := List.append_inj' same rfl
  obtain ⟨left_current, left_history⟩ := left
  obtain ⟨right_current, right_history⟩ := right
  obtain rfl : left_history = right_history := history
  obtain rfl : left_current = right_current := List.singleton_injective current
  rfl

/-- A revision that is shown ends a lineage, which the others go on from. -/
theorem exists_prefix_of_mem {revisions : List Revision} {revision : Revision}
    (member : revision ∈ revisions) :
    ∃ lineage : Lineage, lineage.current = revision ∧ lineage.revisions <+: revisions := by
  obtain ⟨before, after, rfl⟩ := List.append_of_mem member
  refine ⟨⟨revision, before⟩, rfl, ⟨after, ?_⟩⟩
  rw [Lineage.revisions, List.append_assoc]
  rfl

theorem history_prefix (lineage : Lineage) : lineage.history <+: lineage.revisions :=
  List.prefix_append _ _

theorem current_mem (lineage : Lineage) : lineage.current ∈ lineage.revisions :=
  List.mem_append_right _ List.mem_cons_self

end Lineage

/-! ## One write -/

namespace Issue

/-- A write that has all that it saw for its history, and the number after the greatest one that
it saw for its server. -/
structure Proper (issue : Issue) : Prop where
  history_eq : issue.copy.lineage.history = issue.seen
  positive : 0 < issue.revision.number.toInt
  number_lt : ∀ number, ⟨issue.revision.server, number⟩ ∈ issue.seen →
    number.toInt < issue.revision.number.toInt
  number_eq : 1 < issue.revision.number.toInt →
    ∃ number, ⟨issue.revision.server, number⟩ ∈ issue.seen ∧
      issue.revision.number.toInt = number.toInt + 1

theorem Proper.revisions_eq {issue : Issue} (proper : issue.Proper) :
    issue.copy.lineage.revisions = issue.seen ++ [issue.revision] := by
  rw [Lineage.revisions, proper.history_eq]
  rfl

variable {retention : Retention} {server : String} {base : Option Lineage} {lineage : Lineage}

theorem server_of_written (written : Account.lineageAfter retention server base = .ok lineage) :
    lineage.current.server = server := by
  cases base with
  | none =>
      cases written
      rfl
  | some before => exact Lineage.server_of_write written

/-- A write on a lineage that needs no shortening is proper. -/
theorem proper_of_written (written : Account.lineageAfter retention server base = .ok lineage)
    (content : Bytes) (fits : (base.elim [] Lineage.revisions).length ≤ retention.limit.toNat)
    (positive : ∀ revision ∈ base.elim [] Lineage.revisions, 0 < revision.number.toInt) :
    Proper ⟨base, lineage, content⟩ := by
  have same_server := server_of_written written
  cases base with
  | none =>
      cases written
      refine ⟨rfl, ?_, ?_, fun above => ?_⟩
      · change 0 < (1 : Int64).toInt
        decide
      · intro number seen
        cases seen
      · have above : 1 < (1 : Int64).toInt := above
        exact absurd above (by decide)
  | some before =>
      have written : before.write server retention = .ok lineage := written
      have kept : retention.apply before.revisions = before.revisions := by
        have nothing_over : before.revisions.length - retention.limit.toNat = 0 :=
          Nat.sub_eq_zero_of_le fits
        rw [Retention.apply, nothing_over, List.drop_zero]
      refine ⟨?_, ?_, ?_, ?_⟩
      · rw [Lineage.history_of_write written, kept]
        rfl
      · obtain ⟨-, is_one⟩ | ⟨number, shown, successor⟩ := Lineage.number_of_write written
        · change 0 < lineage.current.number.toInt
          rw [is_one]
          decide
        · change 0 < lineage.current.number.toInt
          have := positive _ shown
          dsimp only at this
          omega
      · intro number seen
        have seen : ⟨lineage.current.server, number⟩ ∈ before.revisions := seen
        rw [same_server] at seen
        exact Int64.lt_iff_toInt_lt.mp (Lineage.number_lt_of_write written seen)
      · intro above
        have above : 1 < lineage.current.number.toInt := above
        obtain ⟨-, is_one⟩ | ⟨number, shown, successor⟩ := Lineage.number_of_write written
        · rw [is_one] at above
          exact absurd above (by decide)
        · refine ⟨number, ?_, successor⟩
          change ⟨lineage.current.server, number⟩ ∈ before.revisions
          rw [same_server]
          exact shown

end Issue

namespace Account

/-! ## All writes -/

/-- Whether no write had to shorten the history. -/
def Unshortened (retention : Retention) (issues : List Issue) : Prop :=
  ∀ issue ∈ issues, issue.seen.length ≤ retention.limit.toNat

/-- An account in which every copy comes from a write, every write is proper, and every start of
a lineage is the lineage of a write. -/
structure Consistent (account : Account) : Prop where
  held : ∀ server copy, account.copies server = some copy →
    ∃ issue ∈ account.issues, issue.copy = copy
  proper : ∀ issue ∈ account.issues, issue.Proper
  closed : ∀ issue ∈ account.issues, ∀ lineage : Lineage,
    lineage.revisions <+: issue.copy.lineage.revisions →
      ∃ origin ∈ account.issues, origin.copy.lineage = lineage

theorem consistent_empty : Consistent empty where
  held := fun _ _ held => by cases held
  proper := fun _ member => by cases member
  closed := fun _ member => by cases member

namespace Consistent

variable {retention : Retention} {account next : Account} {step : Step}

/-- A lineage that a node holds is that of a write. -/
theorem lineage_issued (consistent : Consistent account) {server : String} {lineage : Lineage}
    (held : account.lineage server = some lineage) :
    ∃ issue ∈ account.issues, issue.copy.lineage = lineage := by
  obtain ⟨copy, held_copy, rfl⟩ := Option.map_eq_some_iff.mp held
  obtain ⟨issue, member, rfl⟩ := consistent.held server copy held_copy
  exact ⟨issue, member, rfl⟩

/-- A revision that some lineage shows has been given out. -/
theorem revision_issued (consistent : Consistent account) {issue : Issue}
    (member : issue ∈ account.issues) {revision : Revision}
    (shown : revision ∈ issue.copy.lineage.revisions) :
    ∃ origin ∈ account.issues, origin.revision = revision ∧
      origin.copy.lineage.revisions <+: issue.copy.lineage.revisions := by
  obtain ⟨lineage, rfl, starts⟩ := Lineage.exists_prefix_of_mem shown
  obtain ⟨origin, listed, rfl⟩ := consistent.closed issue member lineage starts
  exact ⟨origin, listed, rfl, starts⟩

/-- A write on what a node holds sees only lineages of writes. -/
theorem closed_seen (consistent : Consistent account) (server : String) {lineage : Lineage}
    (starts : lineage.revisions <+: (account.lineage server).elim [] Lineage.revisions) :
    ∃ origin ∈ account.issues, origin.copy.lineage = lineage := by
  cases held : account.lineage server with
  | none =>
      rw [held] at starts
      have nothing : lineage.revisions = [] := List.prefix_nil.mp starts
      exact absurd (lineage.current_mem) (by rw [nothing]; exact List.not_mem_nil)
  | some base =>
      rw [held] at starts
      obtain ⟨issue, member, rfl⟩ := consistent.lineage_issued held
      exact consistent.closed issue member lineage starts

theorem seen_issued (consistent : Consistent account) (server : String) {revision : Revision}
    (seen : revision ∈ (account.lineage server).elim [] Lineage.revisions) :
    ∃ origin ∈ account.issues, origin.revision = revision ∧
      origin.copy.lineage.revisions <+: (account.lineage server).elim [] Lineage.revisions := by
  obtain ⟨lineage, rfl, starts⟩ := Lineage.exists_prefix_of_mem seen
  obtain ⟨origin, listed, rfl⟩ := consistent.closed_seen server starts
  exact ⟨origin, listed, rfl, starts⟩

/-- Another copy on a node keeps an account consistent if it comes from a write. -/
theorem hold (consistent : Consistent account) {server : String} {copy : Copy}
    (issued : ∃ issue ∈ account.issues, issue.copy = copy) :
    Consistent (account.hold server copy) where
  held := by
    intro other held_copy found
    rcases held_of_hold found with rfl | before
    · exact issued
    · exact consistent.held other held_copy before
  proper := consistent.proper
  closed := consistent.closed

/-- **A write keeps an account consistent.** -/
theorem issue (consistent : Consistent account) {server : String} {lineage : Lineage}
    (written : lineageAfter retention server (account.lineage server) = .ok lineage)
    (content : Bytes)
    (fits : ((account.lineage server).elim [] Lineage.revisions).length ≤
      retention.limit.toNat) :
    Consistent (account.issue server ⟨lineage, content⟩) := by
  have positive : ∀ revision ∈ (account.lineage server).elim [] Lineage.revisions,
      0 < revision.number.toInt := by
    intro revision seen
    obtain ⟨origin, member, rfl, -⟩ := consistent.seen_issued server seen
    exact (consistent.proper origin member).positive
  have proper := Issue.proper_of_written written content fits positive
  refine ⟨?_, ?_, ?_⟩
  · intro other copy found
    rw [copies_issue] at found
    rcases held_of_hold found with rfl | before
    · exact ⟨_, List.mem_append_right _ List.mem_cons_self, rfl⟩
    · obtain ⟨issue, member, rfl⟩ := consistent.held other copy before
      exact ⟨issue, List.mem_append_left _ member, rfl⟩
  · intro issue member
    rcases List.mem_append.mp member with old | new
    · exact consistent.proper issue old
    · rw [List.mem_singleton.mp new]
      exact proper
  · intro issue member start starts
    rcases List.mem_append.mp member with old | new
    · obtain ⟨origin, listed, same⟩ := consistent.closed issue old start starts
      exact ⟨origin, List.mem_append_left _ listed, same⟩
    · rw [List.mem_singleton.mp new, proper.revisions_eq] at starts
      rcases List.prefix_concat_iff.mp starts with whole | part
      · refine ⟨_, List.mem_append_right _ List.mem_cons_self, ?_⟩
        apply Lineage.revisions_injective
        rw [whole, ← proper.revisions_eq]
      · obtain ⟨origin, listed, same⟩ := consistent.closed_seen server part
        exact ⟨origin, List.mem_append_left _ listed, same⟩

/-- **A step keeps an account consistent.** -/
theorem of_moves (consistent : Consistent account) (moved : Moves retention account step next)
    (unshortened : Unshortened retention next.issues) : Consistent next := by
  cases moved with
  | write written =>
      exact consistent.issue written _
        (unshortened _ (List.mem_append_right _ List.mem_cons_self))
  | take held taken =>
      obtain ⟨kept, proper, closed⟩ := consistent.hold (consistent.held _ _ held)
      exact ⟨kept, proper, closed⟩
  | keep => exact consistent
  | decide => exact ⟨consistent.held, consistent.proper, consistent.closed⟩

end Consistent

end Account

end ReplicaSync
