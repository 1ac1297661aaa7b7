import ReplicaSync.Proofs.Fleet.Continuity
import ReplicaSync.Proofs.Fleet.Simulation

/-!
# One more node that looks on

A node that pulls once and is left alone otherwise changes nothing for the others, and it keeps
what it pulled (`Account.exists_observed_run`). So whatever a node held at some moment of a run
can be confronted with what any node holds later.
-/

set_option autoImplicit false

namespace ReplicaSync

/-- Whether a step leaves a node alone. -/
def Step.Spares (observer : String) : Step → Prop
  | .write server _ => server ≠ observer
  | .pull destination source => destination ≠ observer ∧ source ≠ observer
  | .resolve server _ => server ≠ observer

instance (observer : String) (step : Step) : Decidable (step.Spares observer) :=
  match step with
  | .write .. | .resolve .. => inferInstanceAs (Decidable (_ ≠ _))
  | .pull .. => inferInstanceAs (Decidable (_ ∧ _))

namespace Account

variable {retention : Retention} {account next : Account} {observer : String}

/-- Two accounts that differ at most in one node, and what the second one says of that node. -/
structure Beside (observer : String) (seen : Option Copy) (resolution : Option Resolution)
    (left right : Account) : Prop where
  copies_eq : ∀ server, server ≠ observer → right.copies server = left.copies server
  decided_eq : ∀ server, server ≠ observer → right.decided server = left.decided server
  issues_eq : right.issues = left.issues
  seen_eq : right.copies observer = seen
  resolution_eq : right.decided observer = resolution

namespace Beside

variable {seen : Option Copy} {resolution : Option Resolution} {left right : Account}

theorem hold (beside : Beside observer seen resolution left right) {server : String}
    (other : server ≠ observer) (copy : Copy) :
    Beside observer seen resolution (left.hold server copy) (right.hold server copy) where
  copies_eq := by
    intro node different
    by_cases same : node = server
    · rw [same, copies_hold_self, copies_hold_self]
    · rw [copies_hold_of_ne same, copies_hold_of_ne same]
      exact beside.copies_eq node different
  decided_eq := beside.decided_eq
  issues_eq := beside.issues_eq
  seen_eq := (copies_hold_of_ne other.symm).trans beside.seen_eq
  resolution_eq := beside.resolution_eq

theorem decide (beside : Beside observer seen resolution left right) {server : String}
    (other : server ≠ observer) (decision : Option Resolution) :
    Beside observer seen resolution (left.decide server decision)
      (right.decide server decision) where
  copies_eq := beside.copies_eq
  decided_eq := by
    intro node different
    by_cases same : node = server
    · rw [same, decided_decide_self, decided_decide_self]
    · rw [decided_decide_of_ne same, decided_decide_of_ne same]
      exact beside.decided_eq node different
  issues_eq := beside.issues_eq
  seen_eq := beside.seen_eq
  resolution_eq := (decided_decide_of_ne other.symm).trans beside.resolution_eq

/-- **A step that leaves a node alone does the same beside it.** -/
theorem tally_step (beside : Beside observer seen resolution left right) {step : Step}
    (spares : step.Spares observer) :
    Tally (Beside observer seen resolution) (left.step retention step)
      (right.step retention step) := by
  cases step with
  | write server content =>
      have other : server ≠ observer := spares
      have same : right.lineage server = left.lineage server := by
        rw [lineage, lineage, beside.copies_eq server other]
      rw [Account.step, Account.step, same]
      cases lineageAfter retention server (left.lineage server) with
      | error fault => exact .error fault
      | ok written =>
          obtain ⟨copies_eq, decided_eq, issues_eq, seen_eq, resolution_eq⟩ :=
            beside.hold other ⟨written, content⟩
          refine .ok ⟨copies_eq, decided_eq, ?_, seen_eq, resolution_eq⟩
          rw [issues_issue, issues_issue, same, beside.issues_eq]
  | pull destination source =>
      obtain ⟨destination_other, source_other⟩ := spares
      rw [Account.step, Account.step, beside.copies_eq source source_other,
        beside.decided_eq source source_other, beside.copies_eq destination destination_other,
        beside.decided_eq destination destination_other]
      cases left.copies source with
      | none =>
          cases left.decided source with
          | none => exact .ok beside
          | some decision => exact .error noLineage
      | some incoming =>
          dsimp only
          cases takes (left.copies destination) (left.decided destination) incoming with
          | error fault => exact .error fault
          | ok taken =>
              refine .ok ?_
              cases taken with
              | false => exact beside
              | true =>
                  change Beside observer seen resolution (left.take destination source incoming)
                    (right.take destination source incoming)
                  rw [take, take, beside.decided_eq source source_other]
                  exact (beside.hold destination_other incoming).decide destination_other _
  | resolve server decision => exact .ok (beside.decide spares _)

theorem tally_run (beside : Beside observer seen resolution left right) {steps : List Step}
    (spares : ∀ step ∈ steps, step.Spares observer) :
    Tally (Beside observer seen resolution) (left.run retention steps)
      (right.run retention steps) :=
  Tally.foldlM (f := Account.step retention) (g := Account.step retention)
    (fun step member _ _ beside => beside.tally_step (spares step member)) beside

end Beside

/-- A pull changes nothing but the node that pulls. -/
theorem beside_of_pull {server : String}
    (pulled : account.step retention (.pull observer server) = .ok next) :
    Beside observer (next.copies observer) (next.decided observer) account next := by
  cases moves_of_step pulled with
  | take =>
      exact ⟨fun _ different => copies_hold_of_ne different,
        fun _ different => decided_decide_of_ne different, rfl, rfl, rfl⟩
  | keep => exact ⟨fun _ _ => rfl, fun _ _ => rfl, rfl, rfl, rfl⟩

/-- A node that has been left alone holds nothing. -/
theorem spared_of_run {steps : List Step} (ran : empty.run retention steps = .ok account)
    (spares : ∀ step ∈ steps, step.Spares observer) :
    account.copies observer = none ∧ account.decided observer = none := by
  have start : Beside observer none none empty empty :=
    ⟨fun _ _ => rfl, fun _ _ => rfl, rfl, rfl, rfl⟩
  have tally : Tally (Beside observer none none) (empty.run retention steps)
      (empty.run retention steps) := start.tally_run spares
  rw [ran] at tally
  cases tally with
  | ok beside => exact ⟨beside.seen_eq, beside.resolution_eq⟩

/-- **What a node holds at some moment can be pulled by a node that keeps it to the end.** -/
theorem exists_observed_run {first second : List Step} {middle final : Account}
    (ran_first : empty.run retention first = .ok middle)
    (ran_second : middle.run retention second = .ok final)
    (spares : ∀ step ∈ first ++ second, step.Spares observer)
    {server : String} {copy : Copy} (held : middle.copies server = some copy) :
    ∃ seen, empty.run retention (first ++ .pull observer server :: second) = .ok seen ∧
      Beside observer (some copy) (middle.decided server) final seen := by
  obtain ⟨nothing, undecided⟩ := spared_of_run ran_first fun step member =>
    spares step (List.mem_append_left _ member)
  have pulled : middle.step retention (.pull observer server) =
      .ok (middle.take observer server copy) := by
    rw [Account.step, held, nothing, undecided]
    rfl
  have beside := beside_of_pull pulled
  rw [copies_take, copies_hold_self, decided_take, decided_decide_self] at beside
  have tally : Tally (Beside observer (some copy) (middle.decided server))
      (middle.run retention second) ((middle.take observer server copy).run retention second) :=
    beside.tally_run fun step member => spares step (List.mem_append_right _ member)
  rw [ran_second] at tally
  obtain ⟨seen, ran_seen, beside_final⟩ := tally.of_ok
  refine ⟨seen, ?_, beside_final⟩
  rw [← List.singleton_append, run_append_eq_ok]
  refine ⟨middle, ran_first, run_append_eq_ok.mpr ⟨_, ?_, ran_seen⟩⟩
  rw [run_singleton, pulled]

end Account

end ReplicaSync
