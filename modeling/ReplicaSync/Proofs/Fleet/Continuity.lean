import Mathlib.Data.List.Induction
import ReplicaSync.Proofs.Fleet.Ancestry

/-!
# Continued writes

A write is continued if it saw all that its server gave out before. If all writes of a run are,
no revision is given out twice: a revision then stands for one write, with one history and one
content. The converse holds as well, since a write that did not see the last revision of its
server gives out a number that the server has given out before
(`Account.continued_iff_distinct`).
-/

set_option autoImplicit false

namespace ReplicaSync.Account

variable {retention : Retention} {account next : Account} {step : Step}

/-- Whether every write saw all that its server gave out before. -/
def Continued (issues : List Issue) : Prop :=
  issues.Pairwise fun earlier later =>
    earlier.revision.server = later.revision.server → earlier.revision ∈ later.seen

/-- Whether no revision was given out twice. -/
def Distinct (issues : List Issue) : Prop :=
  (issues.map Issue.revision).Nodup

theorem continued_concat {issues : List Issue} {issue : Issue} :
    Continued (issues ++ [issue]) ↔ Continued issues ∧
      ∀ earlier ∈ issues, earlier.revision.server = issue.revision.server →
        earlier.revision ∈ issue.seen := by
  rw [Continued, List.pairwise_append]
  simp [Continued]

theorem distinct_concat {issues : List Issue} {issue : Issue} :
    Distinct (issues ++ [issue]) ↔ Distinct issues ∧
      ∀ earlier ∈ issues, earlier.revision ≠ issue.revision := by
  rw [Distinct, List.map_append, List.nodup_append]
  simp [Distinct]

/-- Whether one write shows the revision of another of its server if that has a smaller number. -/
def ShowsSmaller (smaller greater : Issue) : Prop :=
  smaller.revision.server = greater.revision.server →
    smaller.revision.number.toInt < greater.revision.number.toInt →
      smaller.revision ∈ greater.copy.lineage.revisions

/-! ## What follows where all writes are continued -/

namespace Continued

variable (consistent : Consistent account) (continued : Continued account.issues)
include consistent continued

/-- **Where all writes are continued, no revision is given out twice.** -/
theorem distinct : Distinct account.issues := by
  rw [Distinct, List.Nodup, List.pairwise_map]
  refine List.Pairwise.imp_of_mem ?_ continued
  intro earlier later _ member seen same
  have shown := seen (congrArg Revision.server same)
  rw [same] at shown
  exact Int.lt_irrefl _ ((consistent.proper later member).number_lt _ shown)

theorem eq_of_revision_eq {left right : Issue} (left_member : left ∈ account.issues)
    (right_member : right ∈ account.issues) (same : left.revision = right.revision) :
    left = right :=
  List.inj_on_of_nodup_map (distinct consistent continued) left_member right_member same

/-- **Copies of the same revision are the same.** -/
theorem copy_eq {left right : String} {copy other : Copy}
    (left_held : account.copies left = some copy) (right_held : account.copies right = some other)
    (same : copy.lineage.current = other.lineage.current) : copy = other := by
  obtain ⟨issue, member, rfl⟩ := consistent.held left copy left_held
  obtain ⟨rival, rival_member, rfl⟩ := consistent.held right other right_held
  rw [eq_of_revision_eq consistent continued member rival_member same]

/-- A lineage goes on from the lineage of every revision that it shows. -/
theorem prefix_of_mem {issue : Issue} (member : issue ∈ account.issues)
    {revisions : List Revision} (part : revisions <+: issue.copy.lineage.revisions)
    {origin : Issue} (listed : origin ∈ account.issues) (shown : origin.revision ∈ revisions) :
    origin.copy.lineage.revisions <+: revisions := by
  obtain ⟨lineage, same, starts⟩ := Lineage.exists_prefix_of_mem shown
  obtain ⟨parent, parent_listed, rfl⟩ := consistent.closed issue member lineage (starts.trans part)
  rw [eq_of_revision_eq consistent continued listed parent_listed same.symm]
  exact starts

/-- A write shows all that its server gave out with smaller numbers. -/
theorem showsSmaller {smaller greater : Issue} (smaller_member : smaller ∈ account.issues)
    (greater_member : greater ∈ account.issues) : ShowsSmaller smaller greater := by
  have in_order : account.issues.Pairwise ShowsSmaller := by
    refine List.Pairwise.imp_of_mem ?_ continued
    intro earlier later _ member seen same _
    rw [(consistent.proper later member).revisions_eq]
    exact List.mem_append_left _ (seen same)
  -- against the order of the writes the numbers do not rise
  have against_order : account.issues.Pairwise (flip ShowsSmaller) := by
    refine List.Pairwise.imp_of_mem ?_ continued
    intro earlier later _ member seen same fewer
    have shown : ⟨later.revision.server, earlier.revision.number⟩ ∈ later.seen := by
      rw [same]
      exact seen same.symm
    have := (consistent.proper later member).number_lt _ shown
    omega
  have itself : ∀ issue ∈ account.issues, ShowsSmaller issue issue :=
    fun issue _ _ fewer => absurd fewer (Int.lt_irrefl _)
  exact List.Pairwise.forall_of_forall_of_flip itself in_order against_order smaller_member
    greater_member

end Continued

/-! ## Numbers given out -/

/-- With a number, a server has given out every smaller one above zero. -/
theorem exists_smaller (consistent : Consistent account) {issue : Issue}
    (member : issue ∈ account.issues) {number : Int} (positive : 0 < number)
    (small : number ≤ issue.revision.number.toInt) :
    ∃ origin ∈ account.issues, origin.revision.server = issue.revision.server ∧
      origin.revision.number.toInt = number := by
  induction size : issue.revision.number.toInt.toNat using Nat.strongRecOn generalizing issue with
  | ind size ih =>
      by_cases here : issue.revision.number.toInt = number
      · exact ⟨issue, member, rfl, here⟩
      · have above : 1 < issue.revision.number.toInt := by omega
        have proper := consistent.proper issue member
        obtain ⟨previous, seen, successor⟩ := proper.number_eq above
        have shown : ⟨issue.revision.server, previous⟩ ∈ issue.copy.lineage.revisions := by
          rw [proper.revisions_eq]
          exact List.mem_append_left _ seen
        obtain ⟨parent, listed, same, -⟩ := consistent.revision_issued member shown
        have parent_server : parent.revision.server = issue.revision.server := by rw [same]
        have parent_number : parent.revision.number = previous := by rw [same]
        obtain ⟨origin, origin_listed, origin_server, origin_number⟩ :=
          ih parent.revision.number.toInt.toNat (by rw [parent_number]; omega) listed
            (by rw [parent_number]; omega) rfl
        exact ⟨origin, origin_listed, origin_server.trans parent_server, origin_number⟩

theorem revision_eq {left right : Revision} (server : left.server = right.server)
    (number : left.number.toInt = right.number.toInt) : left = right := by
  obtain ⟨left_server, left_number⟩ := left
  obtain ⟨right_server, right_number⟩ := right
  obtain rfl : left_server = right_server := server
  obtain rfl : left_number = right_number := Int64.toInt_inj.mp number
  rfl

/-- **A write that gives out a new revision is continued, if those before it are.** -/
theorem seen_of_fresh (consistent : Consistent account) (continued : Continued account.issues)
    {server : String} {copy : Copy} (proper : Issue.Proper ⟨account.lineage server, copy⟩)
    (fresh : ∀ earlier ∈ account.issues, earlier.revision ≠ copy.lineage.current) :
    ∀ earlier ∈ account.issues, earlier.revision.server = copy.lineage.current.server →
      earlier.revision ∈ (account.lineage server).elim [] Lineage.revisions := by
  intro earlier member same_server
  have earlier_positive := (consistent.proper earlier member).positive
  have positive : 0 < copy.lineage.current.number.toInt := proper.positive
  rcases Int.lt_or_le earlier.revision.number.toInt copy.lineage.current.number.toInt with
    smaller | greater
  · have above : 1 < copy.lineage.current.number.toInt := by omega
    obtain ⟨previous, seen, successor⟩ := proper.number_eq above
    have successor : copy.lineage.current.number.toInt = previous.toInt + 1 := successor
    obtain ⟨origin, listed, same, starts⟩ := consistent.seen_issued server seen
    have origin_server : earlier.revision.server = origin.revision.server := by
      rw [same]
      exact same_server
    have origin_number : origin.revision.number = previous := by rw [same]
    by_cases last : earlier.revision.number.toInt = previous.toInt
    · rw [revision_eq origin_server (by rw [origin_number, last])]
      exact starts.subset origin.copy.lineage.current_mem
    · refine starts.subset ?_
      exact continued.showsSmaller consistent member listed origin_server
        (by rw [origin_number]; omega)
  · obtain ⟨origin, listed, origin_server, origin_number⟩ :=
      exists_smaller consistent member positive greater
    exact absurd (revision_eq (origin_server.trans same_server) origin_number)
      (fresh origin listed)

/-! ## Runs -/

theorem run_append_eq_ok {first second : List Step} :
    account.run retention (first ++ second) = .ok next ↔
      ∃ middle, account.run retention first = .ok middle ∧
        middle.run retention second = .ok next := by
  rw [run, List.foldlM_append]
  change (account.run retention first).bind _ = _ ↔ _
  cases account.run retention first with
  | error fault => exact iff_of_false (fun failed => by cases failed) (by rintro ⟨_, ⟨⟩, _⟩)
  | ok middle =>
      constructor
      · intro rest
        exact ⟨middle, rfl, rest⟩
      · rintro ⟨_, ⟨⟩, rest⟩
        exact rest

theorem run_singleton : account.run retention [step] = account.step retention step := by
  rw [run, List.foldlM_cons]
  change (account.step retention step).bind _ = _
  cases account.step retention step <;> rfl

/-- What a run from the start leads to, step by step. -/
theorem run_induction {motive : List Step → Account → Prop} (start : motive [] empty)
    (each : ∀ {steps account step next}, empty.run retention steps = .ok account →
      motive steps account → account.step retention step = .ok next →
        motive (steps ++ [step]) next)
    {steps : List Step} (ran : empty.run retention steps = .ok account) : motive steps account := by
  induction steps using List.reverseRecOn generalizing account with
  | nil =>
      cases ran
      exact start
  | append_singleton steps step ih =>
      obtain ⟨middle, before, after⟩ := run_append_eq_ok.mp ran
      rw [run_singleton] at after
      exact each before (ih before) after

theorem issues_of_moves (moved : Moves retention account step next) :
    account.issues <+: next.issues := by
  cases moved with
  | write => exact List.prefix_append _ _
  | take | keep | decide => exact List.prefix_refl _

/-- **Every account of a run without shortening is consistent.** -/
theorem consistent_of_run {steps : List Step} (ran : empty.run retention steps = .ok account)
    (unshortened : Unshortened retention account.issues) : Consistent account := by
  revert unshortened
  refine run_induction (motive := fun _ account =>
    Unshortened retention account.issues → Consistent account) ?_ ?_ ran
  · intro _
    exact consistent_empty
  · intro _ account _ next _ ih stepped unshortened
    have moved := moves_of_step stepped
    have before : Unshortened retention account.issues := fun issue member =>
      unshortened issue ((issues_of_moves moved).subset member)
    exact (ih before).of_moves moved unshortened

/-- **The writes of a run are continued exactly if no revision is given out twice.** -/
theorem continued_iff_distinct {steps : List Step}
    (ran : empty.run retention steps = .ok account)
    (unshortened : Unshortened retention account.issues) :
    Continued account.issues ↔ Distinct account.issues := by
  refine ⟨fun continued => continued.distinct (consistent_of_run ran unshortened), ?_⟩
  revert unshortened
  refine run_induction (motive := fun _ account =>
    Unshortened retention account.issues → Distinct account.issues →
      Continued account.issues) ?_ ?_ ran
  · intro _ _
    exact List.Pairwise.nil
  · intro _ account _ next earlier_ran ih stepped unshortened distinct
    have moved := moves_of_step stepped
    have before : Unshortened retention account.issues := fun issue member =>
      unshortened issue ((issues_of_moves moved).subset member)
    have consistent := consistent_of_run earlier_ran before
    have consistent_next := consistent.of_moves moved unshortened
    cases moved with
    | write written =>
        obtain ⟨distinct_before, fresh⟩ := distinct_concat.mp distinct
        have continued := ih before distinct_before
        have proper := consistent_next.proper _ (List.mem_append_right _ List.mem_cons_self)
        exact continued_concat.mpr
          ⟨continued, seen_of_fresh consistent continued proper fresh⟩
    | take | keep | decide => exact ih before distinct

end ReplicaSync.Account
