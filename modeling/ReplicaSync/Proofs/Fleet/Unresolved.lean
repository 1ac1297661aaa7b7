import ReplicaSync.Proofs.Fleet.Simulation
import ReplicaSync.Proofs.Fleet.Standing

/-!
# Runs without resolutions

While nobody decides about conflicts and no history is shortened, a node keeps all that it has
given out, since it takes over only what goes on from what it holds. So all writes are continued.
Two nodes that hold the file then stand to each other in one way, and a round says so on either
side (`Fleet.standing_of_run`): a node that is behind takes over what it lacks, and wherever
something would be lost there is a conflict.
-/

set_option autoImplicit false

namespace ReplicaSync

namespace Account

variable {retention : Retention} {account next : Account} {step : Step}

/-- An account of writes and pulls alone: every node shows all that it has given out, and neither
lineages nor numbers have grown beyond the number of writes. -/
structure Unresolved (account : Account) : Prop where
  undecided : ∀ server, account.decided server = none
  continued : Continued account.issues
  owned : ∀ issue ∈ account.issues, ∃ copy, account.copies issue.revision.server = some copy ∧
    issue.revision ∈ copy.lineage.revisions
  short : ∀ issue ∈ account.issues, issue.copy.lineage.revisions.length ≤ account.issues.length
  low : ∀ issue ∈ account.issues, issue.revision.number.toInt ≤ account.issues.length

theorem unresolved_empty : Unresolved empty where
  undecided := fun _ => rfl
  continued := List.Pairwise.nil
  owned := fun _ member => by cases member
  short := fun _ member => by cases member
  low := fun _ member => by cases member

namespace Unresolved

/-- What a node has given out it sees when it writes. -/
theorem mem_seen (unresolved : Unresolved account) {issue : Issue}
    (member : issue ∈ account.issues) {server : String}
    (same_server : issue.revision.server = server) :
    issue.revision ∈ (account.lineage server).elim [] Lineage.revisions := by
  obtain ⟨copy, held, shown⟩ := unresolved.owned issue member
  rw [same_server] at held
  rw [lineage, held]
  exact shown

/-- No node sees more revisions than there were writes. -/
theorem length_seen (unresolved : Unresolved account) (consistent : Consistent account)
    (server : String) :
    ((account.lineage server).elim [] Lineage.revisions).length ≤ account.issues.length := by
  cases held : account.lineage server with
  | none => exact Nat.zero_le _
  | some lineage =>
      obtain ⟨issue, member, rfl⟩ := consistent.lineage_issued held
      exact unresolved.short issue member

theorem low_seen (unresolved : Unresolved account) (consistent : Consistent account)
    {server : String} {revision : Revision}
    (seen : revision ∈ (account.lineage server).elim [] Lineage.revisions) :
    revision.number.toInt ≤ account.issues.length := by
  obtain ⟨origin, member, rfl, -⟩ := consistent.seen_issued server seen
  exact unresolved.low origin member

/-- After a write every node still shows all that it has given out. -/
theorem owned_issue (unresolved : Unresolved account) {server : String} {copy : Copy}
    (proper : Issue.Proper ⟨account.lineage server, copy⟩)
    (same_server : copy.lineage.current.server = server) :
    ∀ issue ∈ (account.issue server copy).issues, ∃ held,
      (account.issue server copy).copies issue.revision.server = some held ∧
        issue.revision ∈ held.lineage.revisions := by
  intro issue member
  rw [copies_issue]
  rcases List.mem_append.mp member with old | new
  · by_cases own : issue.revision.server = server
    · refine ⟨copy, ?_, ?_⟩
      · rw [own, copies_hold_self]
      · rw [proper.revisions_eq]
        exact List.mem_append_left _ (unresolved.mem_seen old own)
    · obtain ⟨held_copy, held, shown⟩ := unresolved.owned issue old
      exact ⟨held_copy, (copies_hold_of_ne own).trans held, shown⟩
  · rw [List.mem_singleton.mp new]
    refine ⟨copy, ?_, copy.lineage.current_mem⟩
    rw [Issue.revision, same_server, copies_hold_self]

/-- A write keeps an account free of resolutions. -/
theorem issue (unresolved : Unresolved account) (consistent : Consistent account)
    {server : String} {copy : Copy} (proper : Issue.Proper ⟨account.lineage server, copy⟩)
    (same_server : copy.lineage.current.server = server) :
    Unresolved (account.issue server copy) := by
  have more : (account.issue server copy).issues.length = account.issues.length + 1 := by
    rw [issues_issue, List.length_append, List.length_singleton]
  have revisions_eq : copy.lineage.revisions =
      (account.lineage server).elim [] Lineage.revisions ++ [copy.lineage.current] :=
    proper.revisions_eq
  refine ⟨unresolved.undecided, ?_, unresolved.owned_issue proper same_server, ?_, ?_⟩
  · refine continued_concat.mpr ⟨unresolved.continued, fun earlier member same => ?_⟩
    exact unresolved.mem_seen member (same.trans same_server)
  · intro issue member
    rw [more]
    rcases List.mem_append.mp member with old | new
    · exact Nat.le_succ_of_le (unresolved.short issue old)
    · rw [List.mem_singleton.mp new, revisions_eq, List.length_append, List.length_singleton]
      exact Nat.succ_le_succ (unresolved.length_seen consistent server)
  · intro issue member
    rw [more]
    rcases List.mem_append.mp member with old | new
    · have := unresolved.low issue old
      omega
    · rw [List.mem_singleton.mp new]
      by_cases above : 1 < copy.lineage.current.number.toInt
      · obtain ⟨previous, seen, successor⟩ := proper.number_eq above
        have bound := unresolved.low_seen consistent seen
        dsimp only at bound
        omega
      · change copy.lineage.current.number.toInt ≤ _
        omega

/-- Taking a copy over keeps an account free of resolutions, as nothing that the node has given
out is lost. -/
theorem take (unresolved : Unresolved account) (consistent : Consistent account)
    {destination source : String} {incoming : Copy}
    (held : account.copies source = some incoming)
    (taken : takes (account.copies destination) (account.decided destination) incoming =
      .ok true) :
    Unresolved (account.take destination source incoming) := by
  refine ⟨?_, unresolved.continued, ?_, unresolved.short, unresolved.low⟩
  · intro server
    rw [decided_take]
    by_cases same : server = destination
    · rw [same, decided_decide_self]
      exact unresolved.undecided source
    · rw [decided_decide_of_ne same]
      exact unresolved.undecided server
  · intro issue member
    obtain ⟨copy, own_held, shown⟩ := unresolved.owned issue member
    rw [copies_take]
    by_cases same : issue.revision.server = destination
    · refine ⟨incoming, ?_, ?_⟩
      · rw [same, copies_hold_self]
      · rw [same] at own_held
        rw [own_held, unresolved.undecided, takes] at taken
        have known := Round.mem_of_mayTransfer (Except.ok.inj taken)
        have starts := prefix_of_current_mem consistent unresolved.continued own_held held known
        exact incoming.lineage.history_prefix.subset (starts.subset shown)
    · exact ⟨copy, (copies_hold_of_ne same).trans own_held, shown⟩

end Unresolved

/-! ## Runs -/

theorem length_issues_of_moves (moved : Moves retention account step next) :
    next.issues.length = account.issues.length + writes [step] := by
  cases moved with
  | write => exact List.length_append
  | take | keep | decide => rfl

/-- What is known of an account after a run without resolutions. -/
structure Settled (steps : List Step) (account : Account) : Prop where
  consistent : Consistent account
  unresolved : Unresolved account
  length_issues : account.issues.length = writes steps

/-- **A write or a pull keeps all that is known, while no history needs shortening.** -/
theorem Settled.of_moves {steps : List Step} (settled : Settled steps account)
    (moved : Moves retention account step next) (undecided : step.isResolve = false)
    (room : writes (steps ++ [step]) ≤ retention.limit.toNat) :
    Settled (steps ++ [step]) next := by
  obtain ⟨consistent, unresolved, counted⟩ := settled
  have total : writes (steps ++ [step]) = writes steps + writes [step] := List.countP_append
  have counted_next : next.issues.length = writes (steps ++ [step]) := by
    rw [length_issues_of_moves moved, counted, total]
  cases moved with
  | @write server content lineage written =>
      have fits : ((account.lineage server).elim [] Lineage.revisions).length ≤
          retention.limit.toNat := by
        have := unresolved.length_seen consistent server
        omega
      have consistent_next := consistent.issue written content fits
      have proper := consistent_next.proper _ (List.mem_append_right _ List.mem_cons_self)
      exact ⟨consistent_next,
        unresolved.issue consistent proper (Issue.server_of_written written), counted_next⟩
  | take held taken =>
      obtain ⟨kept, proper, closed⟩ := consistent.hold (consistent.held _ _ held)
      exact ⟨⟨kept, proper, closed⟩, unresolved.take consistent held taken, counted_next⟩
  | keep => exact ⟨consistent, unresolved, counted_next⟩
  | decide => cases undecided

theorem settled_of_run {steps : List Step} (ran : empty.run retention steps = .ok account)
    (undecided : ∀ step ∈ steps, step.isResolve = false)
    (room : writes steps ≤ retention.limit.toNat) : Settled steps account := by
  revert undecided room
  refine run_induction (motive := fun steps account =>
    (∀ step ∈ steps, step.isResolve = false) → writes steps ≤ retention.limit.toNat →
      Settled steps account) ?_ ?_ ran
  · intro _ _
    exact ⟨consistent_empty, unresolved_empty, rfl⟩
  · intro steps account step next _ ih stepped undecided room
    have fewer : writes steps ≤ writes (steps ++ [step]) := by
      rw [writes, writes, List.countP_append]
      exact Nat.le_add_right _ _
    have settled := ih (fun earlier member => undecided earlier (List.mem_append_left _ member))
      (Nat.le_trans fewer room)
    exact settled.of_moves (moves_of_step stepped)
      (undecided step (List.mem_append_right _ List.mem_cons_self)) room

theorem writes_concat (steps : List Step) (step : Step) :
    writes (steps ++ [step]) = writes steps + writes [step] :=
  List.countP_append

/-- A write finds a number to give out, while there were few writes. -/
theorem exists_write (consistent : Consistent account) (unresolved : Unresolved account)
    (server : String) (few : (account.issues.length : Int) < Int64.maxValue.toInt) :
    ∃ lineage, lineageAfter retention server (account.lineage server) = .ok lineage := by
  cases held : account.lineage server with
  | none => exact ⟨_, rfl⟩
  | some lineage =>
      refine ⟨_, Lineage.write_eq_ok_iff.mpr ⟨fun exhausted => ?_, rfl⟩⟩
      obtain ⟨zero, -⟩ | ⟨shown, -⟩ := lineage.latest_cases server
      · rw [zero] at exhausted
        exact absurd exhausted (by decide)
      · have seen : ⟨server, lineage.latest server⟩ ∈
            (account.lineage server).elim [] Lineage.revisions := by
          rw [held]
          exact shown
        have bound := unresolved.low_seen consistent seen
        dsimp only at bound
        rw [exhausted] at bound
        omega

/-- **Without resolutions no step fails, while there are numbers left.** -/
theorem exists_step {steps : List Step} (settled : Settled steps account)
    (undecided : step.isResolve = false)
    (few : (writes (steps ++ [step]) : Int) ≤ Int64.maxValue.toInt) :
    ∃ next, account.step retention step = .ok next := by
  obtain ⟨consistent, unresolved, counted⟩ := settled
  cases step with
  | write server content =>
      have one : writes [.write server content] = 1 := rfl
      rw [writes_concat, one, ← counted] at few
      obtain ⟨lineage, written⟩ : ∃ lineage,
          lineageAfter retention server (account.lineage server) = .ok lineage :=
        exists_write consistent unresolved server (by omega)
      rw [Account.step, written]
      exact ⟨_, rfl⟩
  | pull destination source =>
      rw [Account.step, unresolved.undecided source, unresolved.undecided destination]
      cases account.copies source with
      | none => exact ⟨_, rfl⟩
      | some incoming =>
          cases account.copies destination with
          | none => exact ⟨_, rfl⟩
          | some held => exact ⟨_, rfl⟩
  | resolve => cases undecided

theorem exists_run {steps : List Step} (undecided : ∀ step ∈ steps, step.isResolve = false)
    (room : writes steps ≤ retention.limit.toNat)
    (few : (writes steps : Int) ≤ Int64.maxValue.toInt) :
    ∃ account, empty.run retention steps = .ok account := by
  induction steps using List.reverseRecOn with
  | nil => exact ⟨_, rfl⟩
  | append_singleton steps step ih =>
      have total := writes_concat steps step
      have undecided_before : ∀ earlier ∈ steps, earlier.isResolve = false :=
        fun earlier member => undecided earlier (List.mem_append_left _ member)
      obtain ⟨account, ran⟩ := ih undecided_before (by omega) (by omega)
      have settled := settled_of_run ran undecided_before (by omega)
      obtain ⟨next, stepped⟩ := exists_step settled
        (undecided step (List.mem_append_right _ List.mem_cons_self)) few
      exact ⟨next, run_append_eq_ok.mpr ⟨account, ran, by rw [run_singleton, stepped]⟩⟩

end Account

/-! ## Fleets -/

namespace Fleet

variable {name : String} {retention : Retention} {start fleet : Fleet} {account : Account}

/-- What a node without a resolution has stored shows its copy. -/
theorem exists_copy_of_undecided (shows : fleet.Shows name account) {server : String}
    (undecided : account.decided server = none) {properties : Properties}
    (stored : (fleet server).properties name = .ok (some properties)) :
    ∃ copy, account.copies server = some copy ∧
      Lineage.ofProperties properties = .ok copy.lineage := by
  cases held : account.copies server with
  | none =>
      obtain ⟨found, matching, -, load⟩ := (shows server).load
      rw [Replica.properties, load] at stored
      cases stored
      rw [held, undecided] at matching
      obtain ⟨-, -, decided⟩ := matching
      cases decided
  | some copy =>
      obtain ⟨others, others_stored, shown, -⟩ := shows.exists_properties held
      rw [stored] at others_stored
      cases others_stored
      exact ⟨copy, rfl, shown.lineage_eq⟩

/-- **How two nodes stand to each other after writes and pulls in any order.** No step fails, as
long as there are numbers left. After a run any two nodes with the file hold lineages that stand
to each other in one way, and a round on either side decides by it. -/
theorem standing_of_run (lacks : start.Lacks name) {steps : List Step}
    (legible : ∀ step ∈ steps, step.Legible)
    (undecided : ∀ step ∈ steps, step.isResolve = false)
    (room : writes steps ≤ retention.limit.toNat) :
    ((writes steps : Int) ≤ Int64.maxValue.toInt →
      ∃ fleet, start.run name retention steps = .ok fleet) ∧
    ∀ fleet, start.run name retention steps = .ok fleet →
      ∀ left right held incoming,
        (fleet left).properties name = .ok (some held) →
        (fleet right).properties name = .ok (some incoming) →
        ∃ lineage other,
          Lineage.ofProperties held = .ok lineage ∧ Lineage.ofProperties incoming = .ok other ∧
          ∃! standing : Standing, standing.Between lineage other ∧
            (Round.evaluate name (some held) incoming (fleet left).workspace).1 =
              .ok (standing.decision lineage other) ∧
            (Round.evaluate name (some incoming) held (fleet right).workspace).1 =
              .ok (standing.mirror.decision other lineage) := by
  constructor
  · intro few
    obtain ⟨account, ran⟩ := Account.exists_run undecided room few
    obtain ⟨fleet, fleet_ran, -⟩ := lacks.exists_fleet legible ran
    exact ⟨fleet, fleet_ran⟩
  · intro fleet ran left right held incoming left_stored right_stored
    obtain ⟨account, account_ran, shows⟩ := lacks.exists_account legible ran
    obtain ⟨consistent, unresolved, -⟩ := Account.settled_of_run account_ran undecided room
    obtain ⟨copy, left_held, left_read⟩ :=
      exists_copy_of_undecided shows (unresolved.undecided left) left_stored
    obtain ⟨other, right_held, right_read⟩ :=
      exists_copy_of_undecided shows (unresolved.undecided right) right_stored
    refine ⟨copy.lineage, other.lineage, left_read, right_read, ?_⟩
    obtain ⟨standing, between⟩ :=
      Account.exists_between consistent unresolved.continued left_held right_held
    have decides := Account.decision_of_between consistent unresolved.continued left_held
      right_held between
    have decides_back := Account.decision_of_between consistent unresolved.continued right_held
      left_held (Standing.between_mirror between)
    refine ⟨standing, ⟨between, ?_, ?_⟩, fun rival holds => Standing.between_unique holds.1 between⟩
    · rw [shows.decision_eq left_stored left_read right_read, unresolved.undecided, decides]
    · rw [shows.decision_eq right_stored right_read left_read, unresolved.undecided, decides_back]

/-- Two nodes that write after the one has pulled from the other. -/
def diverged : List Step :=
  [.write "a" [1], .pull "b" "a", .write "a" [2], .write "b" [3]]

theorem standing_of_diverged :
    ∃ fleet held incoming, new.run "doc" .standard diverged = .ok fleet ∧
      (fleet "a").properties "doc" = .ok (some held) ∧
      (fleet "b").properties "doc" = .ok (some incoming) ∧
      (Round.evaluate "doc" (some held) incoming (fleet "a").workspace).1 =
        .ok (.conflict ⟨⟨"a", 2⟩, ⟨"b", 1⟩, [⟨"a", 1⟩]⟩) ∧
      (Round.evaluate "doc" (some incoming) held (fleet "b").workspace).1 =
        .ok (.conflict ⟨⟨"b", 1⟩, ⟨"a", 2⟩, [⟨"a", 1⟩]⟩) := by
  have legible : ∀ step ∈ diverged, step.Legible := by decide
  obtain ⟨succeeds, stand⟩ :=
    @standing_of_run "doc" .standard new (lacks_new "doc") diverged legible (by decide) (by decide)
  obtain ⟨fleet, ran⟩ := succeeds (by decide)
  obtain ⟨account, noted, left_held, right_held⟩ :
      ∃ account, Account.empty.run .standard diverged = .ok account ∧
        account.copies "a" = some ⟨⟨⟨"a", 2⟩, [⟨"a", 1⟩]⟩, [2]⟩ ∧
        account.copies "b" = some ⟨⟨⟨"b", 1⟩, [⟨"a", 1⟩]⟩, [3]⟩ :=
    ⟨_, rfl, rfl, rfl⟩
  obtain ⟨found, found_noted, shows⟩ := (lacks_new "doc").exists_account legible ran
  obtain rfl : found = account := Except.ok.inj (found_noted.symm.trans noted)
  obtain ⟨held, left_stored, left_shown, -⟩ := shows.exists_properties left_held
  obtain ⟨incoming, right_stored, right_shown, -⟩ := shows.exists_properties right_held
  obtain ⟨lineage, other, left_read, right_read, standing, ⟨between, decides, mirrored⟩, -⟩ :=
    stand fleet ran "a" "b" held incoming left_stored right_stored
  obtain rfl : _ = lineage := Except.ok.inj (left_shown.lineage_eq.symm.trans left_read)
  obtain rfl : _ = other := Except.ok.inj (right_shown.lineage_eq.symm.trans right_read)
  have apart : Standing.Between ⟨⟨"a", 2⟩, [⟨"a", 1⟩]⟩ ⟨⟨"b", 1⟩, [⟨"a", 1⟩]⟩ .apart := by
    unfold Standing.Between
    decide
  obtain rfl : standing = .apart := Standing.between_unique between apart
  exact ⟨fleet, held, incoming, ran, left_stored, right_stored, decides, mirrored⟩

end Fleet

end ReplicaSync
