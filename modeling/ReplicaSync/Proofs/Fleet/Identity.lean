import ReplicaSync.Proofs.Fleet.Observer

/-!
# Whether a revision names one content

A node that settles a conflict for the other side takes over a lineage that may not mention what
the node itself has given out. Its next write then gives a revision out again, with another
content, and a round takes the two for the same. So whether nodes at the same revision always hold
the same content depends on the writes: it is certain if all of them are continued, and only then,
as far as one more node can tell that pulls the file once (`Fleet.agree_iff_continued`).
-/

set_option autoImplicit false

namespace ReplicaSync

namespace Account

variable {retention : Retention} {account next : Account} {observer : String}

/-- Whether nodes at the same revision hold the same content. -/
def Agree (account : Account) : Prop :=
  ∀ left right copy other, account.copies left = some copy → account.copies right = some other →
    copy.lineage.current = other.lineage.current → copy.content = other.content

/-! ## Where all writes are continued -/

theorem issues_of_run {steps : List Step} {start : Account}
    (ran : start.run retention steps = .ok account) : start.issues <+: account.issues := by
  induction steps generalizing start with
  | nil =>
      cases ran
      exact List.prefix_refl _
  | cons step rest ih =>
      rw [← List.singleton_append, run_append_eq_ok] at ran
      obtain ⟨middle, first, others⟩ := ran
      rw [run_singleton] at first
      exact (issues_of_moves (moves_of_step first)).trans (ih others)

/-- **Where all writes are continued, nodes at the same revision hold the same content.** -/
theorem agree_of_continued {steps : List Step} (ran : empty.run retention steps = .ok account)
    (unshortened : Unshortened retention account.issues)
    (continued : Continued account.issues) : account.Agree := by
  intro left right copy other left_held right_held same
  rw [continued.copy_eq (consistent_of_run ran unshortened) left_held right_held same]

/-- A pull adds nothing to the writes, whoever pulls. -/
theorem issues_of_observed_run {first second : List Step} {server : String} {seen final : Account}
    (spares : ∀ step ∈ first ++ second, step.Spares observer)
    (ran_seen : empty.run retention (first ++ .pull observer server :: second) = .ok seen)
    (ran : empty.run retention (first ++ second) = .ok final) : seen.issues = final.issues := by
  rw [← List.singleton_append, run_append_eq_ok] at ran_seen
  obtain ⟨middle, ran_first, ran_rest⟩ := ran_seen
  obtain ⟨pulled, ran_pull, ran_beside⟩ := run_append_eq_ok.mp ran_rest
  obtain ⟨same_middle, ran_again, ran_second⟩ := run_append_eq_ok.mp ran
  obtain rfl : same_middle = middle := Except.ok.inj (ran_again.symm.trans ran_first)
  rw [run_singleton] at ran_pull
  have beside := beside_of_pull ran_pull
  have tally : Tally (Beside observer (pulled.copies observer) (pulled.decided observer))
      (same_middle.run retention second) (pulled.run retention second) :=
    beside.tally_run fun step member => spares step (List.mem_append_right _ member)
  rw [ran_second, ran_beside] at tally
  cases tally with
  | ok beside => exact beside.issues_eq

/-! ## Where a write is not continued -/

/-- Right after a write the writer holds what it wrote. -/
theorem exists_moment {steps : List Step} {earlier later : List Issue} {issue : Issue}
    (ran : empty.run retention steps = .ok account)
    (split : account.issues = earlier ++ issue :: later) :
    ∃ first rest middle, steps = first ++ rest ∧ empty.run retention first = .ok middle ∧
      middle.issues = earlier ++ [issue] ∧
      middle.copies issue.revision.server = some issue.copy ∧
      middle.run retention rest = .ok account := by
  induction steps using List.reverseRecOn generalizing account later with
  | nil =>
      cases ran
      simp [empty] at split
  | append_singleton steps step ih =>
      obtain ⟨before, ran_before, stepped⟩ := run_append_eq_ok.mp ran
      have goes_on : ∀ {later}, before.issues = earlier ++ issue :: later →
          ∃ first rest middle, steps ++ [step] = first ++ rest ∧
            empty.run retention first = .ok middle ∧ middle.issues = earlier ++ [issue] ∧
            middle.copies issue.revision.server = some issue.copy ∧
            middle.run retention rest = .ok account := by
        intro later split_before
        obtain ⟨first, rest, middle, rfl, ran_first, issues, held, ran_rest⟩ :=
          ih ran_before split_before
        exact ⟨first, rest ++ [step], middle, List.append_assoc _ _ _, ran_first, issues, held,
          run_append_eq_ok.mpr ⟨before, ran_rest, stepped⟩⟩
      rw [run_singleton] at stepped
      cases moves_of_step stepped with
      | @write server content lineage written =>
          have split : before.issues ++ [⟨before.lineage server, lineage, content⟩] =
            earlier ++ issue :: later := split
          rcases List.eq_nil_or_concat later with rfl | ⟨others, last, rfl⟩
          · obtain ⟨same, new⟩ := List.append_inj' split rfl
            obtain rfl : _ = issue := List.singleton_injective new
            refine ⟨steps ++ [.write server content], [], _, (List.append_nil _).symm, ran, ?_, ?_,
              rfl⟩
            · rw [← same]
              rfl
            · have same_server : lineage.current.server = server :=
                Issue.server_of_written written
              rw [copies_issue, Issue.revision, same_server, copies_hold_self]
          · rw [List.concat_eq_append, ← List.cons_append, ← List.append_assoc] at split
            exact goes_on (List.append_inj' split rfl).1
      | take | keep | decide => exact goes_on split

/-- Some write gives out a revision that was given out before. -/
theorem exists_repeated {issues : List Issue} (repeats : ¬ Distinct issues) :
    ∃ before rival after, issues = before ++ rival :: after ∧
      ∃ issue ∈ before, issue.revision = rival.revision := by
  induction issues using List.reverseRecOn with
  | nil => exact absurd List.nodup_nil repeats
  | append_singleton issues last ih =>
      by_cases distinct : Distinct issues
      · rw [distinct_concat] at repeats
        have repeated : ∃ issue ∈ issues, issue.revision = last.revision := by
          by_contra fresh
          exact repeats ⟨distinct, fun issue member same => fresh ⟨issue, member, same⟩⟩
        exact ⟨issues, last, [], rfl, repeated⟩
      · obtain ⟨before, rival, after, rfl, repeated⟩ := ih distinct
        exact ⟨before, rival, after ++ [last], by rw [List.append_assoc]; rfl, repeated⟩

/-- **A write that is not continued shows to a node that pulled at the right moment.** -/
theorem exists_disagreement {steps : List Step} (ran : empty.run retention steps = .ok account)
    (spares : ∀ step ∈ steps, step.Spares observer)
    (contents : (account.issues.map fun issue => issue.copy.content).Nodup)
    (repeats : ¬ Distinct account.issues) :
    ∃ first second server seen, first ++ second <+: steps ∧
      empty.run retention (first ++ .pull observer server :: second) = .ok seen ∧
      ¬ seen.Agree := by
  obtain ⟨before, rival, after, split, issue, member, same⟩ := exists_repeated repeats
  obtain ⟨earlier, between, rfl⟩ := List.append_of_mem member
  obtain ⟨whole, rest, final, rfl, ran_whole, final_issues, rival_held, -⟩ :=
    exists_moment ran split
  have split_whole : final.issues = earlier ++ issue :: (between ++ [rival]) := by
    rw [final_issues, List.append_assoc]
    rfl
  obtain ⟨first, second, middle, rfl, ran_first, -, issue_held, ran_second⟩ :=
    exists_moment ran_whole split_whole
  have spares_whole : ∀ step ∈ first ++ second, step.Spares observer := fun step member =>
    spares step (List.mem_append_left _ member)
  obtain ⟨seen, ran_seen, beside⟩ :=
    exists_observed_run ran_first ran_second spares_whole issue_held
  refine ⟨first, second, issue.revision.server, seen, List.prefix_append _ _, ran_seen, ?_⟩
  intro agree
  have different_node : rival.revision.server ≠ observer := by
    rintro rfl
    rw [(spared_of_run ran_whole spares_whole).1] at rival_held
    cases rival_held
  have rival_seen : seen.copies rival.revision.server = some rival.copy := by
    rw [beside.copies_eq _ different_node, rival_held]
  have same_content := agree observer rival.revision.server issue.copy rival.copy
    beside.seen_eq rival_seen same
  rw [split, List.map_append, List.nodup_append] at contents
  exact contents.2.2 _ (List.mem_map_of_mem member) _ (List.mem_map_of_mem List.mem_cons_self)
    same_content

/-- **All writes are continued exactly if no node that pulls once can see two contents of one
revision.** -/
theorem continued_iff_observed {steps : List Step} (ran : empty.run retention steps = .ok account)
    (unshortened : Unshortened retention account.issues)
    (spares : ∀ step ∈ steps, step.Spares observer)
    (contents : (account.issues.map fun issue => issue.copy.content).Nodup) :
    Continued account.issues ↔
      ∀ first second server seen, first ++ second <+: steps →
        empty.run retention (first ++ .pull observer server :: second) = .ok seen →
          seen.Agree := by
  constructor
  · rintro continued first second server seen ⟨rest, rfl⟩ ran_seen
    obtain ⟨final, ran_final, ran_rest⟩ := run_append_eq_ok.mp ran
    have same_issues : seen.issues = final.issues :=
      issues_of_observed_run (fun step member => spares step (List.mem_append_left _ member))
        ran_seen ran_final
    have part : seen.issues <+: account.issues := by
      rw [same_issues]
      exact issues_of_run ran_rest
    exact agree_of_continued ran_seen (fun issue member => unshortened issue (part.subset member))
      (List.Pairwise.sublist part.sublist continued)
  · intro agrees
    by_contra not_continued
    rw [continued_iff_distinct ran unshortened] at not_continued
    obtain ⟨first, second, server, seen, part, ran_seen, disagree⟩ :=
      exists_disagreement ran spares contents not_continued
    exact disagree (agrees first second server seen part ran_seen)

end Account

/-! ## Fleets -/

namespace Fleet

variable {name : String} {retention : Retention} {start fleet : Fleet} {account : Account}

/-- Whether nodes that have stored the same revision hold the same content. -/
def Agree (name : String) (fleet : Fleet) : Prop :=
  ∀ left right held incoming lineage other,
    (fleet left).properties name = .ok (some held) →
    (fleet right).properties name = .ok (some incoming) →
    Lineage.ofProperties held = .ok lineage → Lineage.ofProperties incoming = .ok other →
      lineage.sameRevision other = true → (fleet left).content = (fleet right).content

/-- Whether a node that a round finds up to date lacks nothing. -/
def Current (name : String) (fleet : Fleet) : Prop :=
  ∀ left right held incoming,
    (fleet left).properties name = .ok (some held) →
    (fleet right).properties name = .ok (some incoming) →
    (Round.evaluate name (some held) incoming (fleet left).workspace).1 = .ok .upToDate →
      (fleet left).content = (fleet right).content

/-- Nodes agree as their account says. -/
theorem Shows.agree_iff (shows : fleet.Shows name account) :
    fleet.Agree name ↔ account.Agree := by
  constructor
  · intro agree left right copy other left_held right_held same
    obtain ⟨held, left_stored, left_shown, -⟩ := shows.exists_properties left_held
    obtain ⟨incoming, right_stored, right_shown, -⟩ := shows.exists_properties right_held
    rw [← (shows left).content_eq copy left_held, ← (shows right).content_eq other right_held]
    exact agree left right held incoming copy.lineage other.lineage left_stored right_stored
      left_shown.lineage_eq right_shown.lineage_eq (decide_eq_true same)
  · intro agree left right held incoming lineage other left_stored right_stored left_read
      right_read same
    obtain ⟨copy, left_held, rfl⟩ := shows.exists_copy left_stored left_read
    obtain ⟨rival, right_held, rfl⟩ := shows.exists_copy right_stored right_read
    rw [(shows left).content_eq copy left_held, (shows right).content_eq rival right_held]
    exact agree left right copy rival left_held right_held (of_decide_eq_true same)

/-- A round takes two nodes for the same exactly if they hold the same revision. -/
theorem Shows.agree_iff_current (shows : fleet.Shows name account) :
    fleet.Agree name ↔ fleet.Current name := by
  constructor
  · intro agree left right held incoming left_stored right_stored evaluated
    cases right_read : Lineage.ofProperties incoming with
    | error fault =>
        rw [Round.evaluate, right_read] at evaluated
        cases evaluated
    | ok other =>
        cases left_read : Lineage.ofProperties held with
        | error fault =>
            rw [Round.evaluate, right_read] at evaluated
            dsimp only at evaluated
            rw [Round.evaluateHeld, left_read] at evaluated
            cases evaluated
        | ok lineage =>
            rw [shows.decision_eq left_stored left_read right_read] at evaluated
            have same := Round.decision_eq_upToDate_iff.mp (Except.ok.inj evaluated)
            exact agree left right held incoming lineage other left_stored right_stored left_read
              right_read (decide_eq_true same)
  · intro current left right held incoming lineage other left_stored right_stored left_read
      right_read same
    refine current left right held incoming left_stored right_stored ?_
    rw [shows.decision_eq left_stored left_read right_read,
      Round.decision_of_same (of_decide_eq_true same)]

/-- **Whether nodes at the same revision hold the same content depends on the writes.** If all of
them are continued, they do, and a node that a round finds up to date lacks nothing. If some write
is not, its revision has been given out before, and a node that pulls at the right moment of the
run and otherwise stays out of it ends with another content than the writer. -/
theorem agree_iff_continued (lacks : start.Lacks name) {steps : List Step}
    (legible : ∀ step ∈ steps, step.Legible)
    (ran : start.run name retention steps = .ok fleet) :
    ∃ account, Account.empty.run retention steps = .ok account ∧ fleet.Shows name account ∧
      (Account.Unshortened retention account.issues →
        (Account.Continued account.issues → fleet.Agree name ∧ fleet.Current name) ∧
        (Account.Continued account.issues ↔ Account.Distinct account.issues) ∧
        ∀ observer, (∀ step ∈ steps, step.Spares observer) →
          (account.issues.map fun issue => issue.copy.content).Nodup →
          (Account.Continued account.issues ↔
            ∀ first second server seen, first ++ second <+: steps →
              start.run name retention (first ++ .pull observer server :: second) = .ok seen →
                seen.Agree name)) := by
  obtain ⟨account, noted, shows⟩ := lacks.exists_account legible ran
  refine ⟨account, noted, shows, fun unshortened => ⟨fun continued => ?_, ?_, ?_⟩⟩
  · have agree := shows.agree_iff.mpr (Account.agree_of_continued noted unshortened continued)
    exact ⟨agree, shows.agree_iff_current.mp agree⟩
  · exact Account.continued_iff_distinct noted unshortened
  · intro observer spares contents
    rw [Account.continued_iff_observed noted unshortened spares contents]
    -- one more pull is legible, so that run is as its account says too
    have legible_observed {first second : List Step} (server : String)
        (part : first ++ second <+: steps) :
        ∀ step ∈ first ++ .pull observer server :: second, step.Legible := by
      intro step member
      rcases List.mem_append.mp member with early | late
      · exact legible step (part.subset (List.mem_append_left _ early))
      · rcases List.mem_cons.mp late with rfl | later
        · trivial
        · exact legible step (part.subset (List.mem_append_right _ later))
    constructor
    · intro agrees first second server seen part seen_ran
      obtain ⟨seen_account, seen_noted, seen_shows⟩ :=
        lacks.exists_account (legible_observed server part) seen_ran
      exact seen_shows.agree_iff.mpr (agrees first second server seen_account part seen_noted)
    · intro agrees first second server seen_account part seen_noted
      obtain ⟨seen, seen_ran, seen_shows⟩ :=
        lacks.exists_fleet (legible_observed server part) seen_noted
      exact seen_shows.agree_iff.mp (agrees first second server seen part seen_ran)

/-- A conflict that is settled for the side that goes on writing. -/
def settled : List Step :=
  [.write "a" [1], .pull "b" "a", .write "a" [2], .write "b" [3], .pull "b" "a",
    .resolve "b" ⟨.takeRemote, "a", 1⟩, .pull "b" "a", .write "a" [4]]

theorem agree_iff_continued_of_settled :
    ∃ fleet, new.run "doc" .standard settled = .ok fleet ∧ fleet.Agree "doc" ∧
      fleet.Current "doc" ∧
      ∀ first second server seen, first ++ second <+: settled →
        new.run "doc" .standard (first ++ .pull "c" server :: second) = .ok seen →
          seen.Agree "doc" := by
  have legible : ∀ step ∈ settled, step.Legible := by decide
  obtain ⟨expected, expected_noted, issues_eq⟩ :
      ∃ account, Account.empty.run .standard settled = .ok account ∧ account.issues =
        [⟨none, ⟨⟨"a", 1⟩, []⟩, [1]⟩,
          ⟨some ⟨⟨"a", 1⟩, []⟩, ⟨⟨"a", 2⟩, [⟨"a", 1⟩]⟩, [2]⟩,
          ⟨some ⟨⟨"a", 1⟩, []⟩, ⟨⟨"b", 1⟩, [⟨"a", 1⟩]⟩, [3]⟩,
          ⟨some ⟨⟨"a", 2⟩, [⟨"a", 1⟩]⟩, ⟨⟨"a", 3⟩, [⟨"a", 1⟩, ⟨"a", 2⟩]⟩, [4]⟩] :=
    ⟨_, rfl, rfl⟩
  obtain ⟨fleet, ran, -⟩ := (lacks_new "doc").exists_fleet legible expected_noted
  obtain ⟨account, noted, -, depends⟩ := agree_iff_continued (lacks_new "doc") legible ran
  obtain rfl : account = expected := Except.ok.inj (noted.symm.trans expected_noted)
  rw [issues_eq] at depends
  obtain ⟨agree, same, observed⟩ := depends (by unfold Account.Unshortened; decide)
  have continued := same.mpr (by unfold Account.Distinct; decide)
  have none_sees := (observed "c" (by decide) (by decide)).mp continued
  exact ⟨fleet, ran, (agree continued).1, (agree continued).2, none_sees⟩

/-- A conflict that is settled for the other side, on a node that then writes on. -/
def reissued : List Step :=
  [.write "a" [1], .pull "c" "a", .write "b" [2], .write "b" [3], .pull "a" "b",
    .resolve "a" ⟨.takeRemote, "b", 1⟩, .pull "a" "b", .write "a" [4]]

theorem not_agree_of_reissued :
    ∃ fleet, new.run "doc" .standard reissued = .ok fleet ∧ ¬ fleet.Agree "doc" ∧
      ¬ fleet.Current "doc" := by
  obtain ⟨account, noted, left_held, right_held⟩ :
      ∃ account, Account.empty.run .standard reissued = .ok account ∧
        account.copies "c" = some ⟨⟨⟨"a", 1⟩, []⟩, [1]⟩ ∧
        account.copies "a" = some ⟨⟨⟨"a", 1⟩, [⟨"b", 1⟩, ⟨"b", 2⟩]⟩, [4]⟩ :=
    ⟨_, rfl, rfl, rfl⟩
  obtain ⟨fleet, ran, shows⟩ := (lacks_new "doc").exists_fleet (by decide) noted
  have disagree : ¬ fleet.Agree "doc" := by
    rw [shows.agree_iff]
    intro agree
    have same_content : ([1] : Bytes) = [4] := agree "c" "a" _ _ left_held right_held rfl
    exact absurd same_content (by decide)
  exact ⟨fleet, ran, disagree, fun current => disagree (shows.agree_iff_current.mpr current)⟩

end Fleet

end ReplicaSync
