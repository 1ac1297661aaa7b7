import Mathlib.Data.List.Chain
import Mathlib.Data.List.Infix
import ReplicaSync.Proofs.Conflict.Runs
import ReplicaSync.Proofs.Round.Evaluation

/-!
# What rounds leave outstanding

A round that finds a conflict sets up its artifact and marks the file, and a round that settles one
clears both away. All other rounds leave them alone. So what a file bears after rounds is the
conflict found last, if no round after it has settled one (`Rounds.bears_outstanding`). It is what
each round decided if and only if no round that finds the file up to date, or a fast forward, comes
directly after one that finds a conflict.

An artifact can thus outlive its conflict. A lineage that goes on from the one held is let through
as a fast forward, whether there is an artifact or not, and the artifact stays
(`Rounds.exists_stale`).
-/

set_option autoImplicit false

namespace ReplicaSync

namespace Decision

/-- The conflict that a decision leaves to be settled. -/
def unsettled? : Decision → Option Conflict
  | .conflict divergence => some divergence
  | _ => none

/-- Whether a decision leaves artifacts alone. -/
def isNeutral : Decision → Bool
  | .newFile | .upToDate | .fastForward => true
  | .settled _ | .conflict _ => false

/-- What is outstanding after a decision. -/
def carry (left : Option Conflict) (decision : Decision) : Option Conflict :=
  if decision.isNeutral then left else decision.unsettled?

/-- What is outstanding after decisions, one after the other. -/
def outstanding (decisions : List Decision) : Option Conflict :=
  decisions.foldl carry none

theorem outstanding_concat (decisions : List Decision) (last : Decision) :
    outstanding (decisions ++ [last]) = last.carry (outstanding decisions) := by
  rw [outstanding, List.foldl_append]
  rfl

/-- The second of two decisions does not leave alone what the first leaves to be settled. -/
def Heeds (first second : Decision) : Prop :=
  first.unsettled?.isSome = true → second.isNeutral = false

/-- At each of some decisions nothing is outstanding but what that decision leaves. -/
def InStep (decisions : List Decision) : Prop :=
  ∀ earlier last, earlier ++ [last] <+: decisions →
    outstanding (earlier ++ [last]) = last.unsettled?

theorem inStep_nil : InStep [] := by
  intro earlier last begins
  have := begins.length_le
  simp at this

theorem inStep_concat {decisions : List Decision} {last : Decision} :
    InStep (decisions ++ [last]) ↔
      InStep decisions ∧ outstanding (decisions ++ [last]) = last.unsettled? := by
  constructor
  · intro current
    refine ⟨fun earlier decision begins => ?_, current decisions last (List.prefix_refl _)⟩
    exact current earlier decision (begins.trans (List.prefix_append _ _))
  · rintro ⟨current, here⟩ earlier decision begins
    rcases List.prefix_concat_iff.mp begins with whole | part
    · rw [whole]
      obtain ⟨-, same⟩ := List.append_inj' whole rfl
      obtain rfl := List.singleton_inj.mp same
      exact here
    · exact current earlier decision part

/-- What is outstanding is then what the last decision leaves. -/
theorem InStep.outstanding_eq {decisions : List Decision} (current : InStep decisions) :
    outstanding decisions = decisions.getLast?.bind unsettled? := by
  rcases List.eq_nil_or_concat decisions with rfl | ⟨earlier, last, rfl⟩
  · rfl
  · rw [List.concat_eq_append] at current ⊢
    rw [List.getLast?_concat, current earlier last (List.prefix_refl _)]
    rfl

theorem carry_eq_unsettled?_iff {left : Option Conflict} {decision : Decision} :
    decision.carry left = decision.unsettled? ↔
      (left.isSome = true → decision.isNeutral = false) := by
  cases left <;> cases decision <;> simp [carry, isNeutral, unsettled?]

/-- **Nothing but the last decision counts, exactly if no decision that leaves artifacts alone comes
directly after one with a conflict.** -/
theorem inStep_iff_isChain {decisions : List Decision} :
    InStep decisions ↔ decisions.IsChain Heeds := by
  induction decisions using List.reverseRecOn with
  | nil => exact ⟨fun _ => List.isChain_nil, fun _ => inStep_nil⟩
  | append_singleton decisions last ih =>
      rw [inStep_concat, outstanding_concat, ih, List.isChain_append]
      refine and_congr_right fun chain => ?_
      -- as long as all are in step, only the decision right before the last can be outstanding
      rw [carry_eq_unsettled?_iff, (ih.mpr chain).outstanding_eq]
      cases decisions.getLast? <;> simp [Heeds]

end Decision

/-! ## What a file bears -/

/-- Whether a stored file bears an outstanding conflict, both as an artifact and by its mark, or
neither if there is none. -/
structure Workspace.Bears {ι : Type} (workspace : Workspace Store ι) (name : String)
    (left : Option Conflict) : Prop where
  artifact : workspace.artifact name = .ok left
  marked : ∃ held, workspace.loaded name = .ok (some held) ∧ held.inConflict = left.isSome

namespace Workspace.Bears

variable {ι : Type} {workspace : Workspace Store ι} {name : String} {left : Option Conflict}

theorem sound (bears : workspace.Bears name left) : workspace.store.poisoned = false :=
  Artifact.sound_of_find bears.artifact

/-- A file bears one thing. -/
theorem unique {other : Option Conflict} (bears : workspace.Bears name left)
    (also : workspace.Bears name other) : left = other :=
  Except.ok.inj (bears.artifact.symm.trans also.artifact)

/-- After a call the file bears the artifact that the call leaves. -/
theorem of_run [SearchIndex ι] (call : ArtifactCall) (bears : workspace.Bears call.file left) :
    (call.run workspace).2.Bears call.file call.artifact? := by
  obtain ⟨held, loaded, -⟩ := bears.marked
  obtain ⟨edited, artifact⟩ := ArtifactCall.readings_of_run bears.sound loaded
  exact ⟨artifact, call.edit held, edited, call.inConflict_edit held⟩

/-- Storing another resolution leaves what the file bears. -/
theorem of_putFile {after : Workspace Store ι} {held : Properties} {text : String}
    (bears : workspace.Bears name left) (read : workspace.loaded name = .ok (some held))
    (sound : after.store.poisoned = false)
    (tables : after.store.tables =
      workspace.store.tables.putFile name (held.insert PropertyName.resolution text)) :
    after.Bears name left := by
  constructor
  · rw [← bears.artifact]
    exact artifact_congr sound bears.sound (by rw [tables]; rfl)
  · obtain ⟨found, loaded, marked⟩ := bears.marked
    obtain rfl := Option.some.inj (Except.ok.inj (read.symm.trans loaded))
    refine ⟨held.insert PropertyName.resolution text, ?_, ?_⟩
    · rw [loaded_eq sound, tables, Tables.getFile_putFile, if_pos rfl]
    · rw [Properties.inConflict, NameMap.get?_insert, if_neg (by decide)]
      exact marked

end Workspace.Bears

/-! ## Runs of rounds -/

/-- A run of rounds on a file: it begins at a workspace, keeps the decisions of the rounds together
with the workspaces that they left, and ends at a workspace. Each round is given the properties that
are then stored. Between rounds another resolution may be stored. -/
inductive Rounds {ι : Type} [SearchIndex ι] (name : String) (start : Workspace Store ι) :
    List (Decision × Workspace Store ι) → Workspace Store ι → Prop
  | start : Rounds name start [] start
  | resolve {log : List (Decision × Workspace Store ι)} {now : Workspace Store ι}
      {held : Properties} {text : String} {store : Store} (earlier : Rounds name start log now)
      (read : now.loaded name = .ok (some held))
      (written : TransactionalStorage.storeFile name (held.insert PropertyName.resolution text)
        now.store = (.ok (), store)) :
      Rounds name start log { now with store }
  | round {log : List (Decision × Workspace Store ι)} {now after : Workspace Store ι}
      {held incoming : Properties} {decision : Decision} (earlier : Rounds name start log now)
      (read : now.loaded name = .ok (some held))
      (evaluated : Round.evaluate name (some held) incoming now = (.ok decision, after)) :
      Rounds name start (log ++ [(decision, after)]) after

namespace Rounds

section Run

variable {ι : Type} [SearchIndex ι] {name : String} {start now : Workspace Store ι}
variable {log : List (Decision × Workspace Store ι)}

/-- **A round carries on what a file bears.** -/
theorem bears_of_evaluate {after : Workspace Store ι} {left : Option Conflict}
    {held incoming : Properties} {decision : Decision} (bears : now.Bears name left)
    (evaluated : Round.evaluate name (some held) incoming now = (.ok decision, after)) :
    after.Bears name (decision.carry left) := by
  obtain ⟨rfl | rfl, rfl⟩ | ⟨conflict, ⟨rfl, rfl⟩ | ⟨rfl, rfl⟩⟩ := Round.evaluate_cases evaluated
  · exact bears
  · exact bears
  · exact Workspace.Bears.of_run (.remove name) bears
  · exact Workspace.Bears.of_run (.create name conflict) bears

/-- After a run a file bears what its rounds leave outstanding. -/
theorem bears_of_rounds (bare : start.Bears name none) (rounds : Rounds name start log now) :
    now.Bears name (Decision.outstanding (log.map Prod.fst)) := by
  induction rounds with
  | start => exact bare
  | resolve earlier read written ih =>
      rw [Store.storeFile_eq ih.sound] at written
      obtain ⟨-, rfl⟩ := Prod.mk.inj written
      exact ih.of_putFile read ih.sound rfl
  | round earlier read evaluated ih =>
      rw [List.map_append, List.map_singleton, Decision.outstanding_concat]
      exact bears_of_evaluate ih evaluated

/-- What is kept of a run is what its rounds left, one after the other. -/
theorem of_begins {earlier : List (Decision × Workspace Store ι)}
    {entry : Decision × Workspace Store ι} (rounds : Rounds name start log now)
    (begins : earlier ++ [entry] <+: log) : Rounds name start (earlier ++ [entry]) entry.2 := by
  induction rounds with
  | start =>
      have := begins.length_le
      simp at this
  | resolve _ _ _ ih => exact ih begins
  | round rounds read evaluated ih =>
      rcases List.prefix_concat_iff.mp begins with whole | part
      · rw [whole]
        obtain ⟨-, same⟩ := List.append_inj' whole rfl
        obtain rfl := List.singleton_inj.mp same
        exact .round rounds read evaluated
      · exact ih part

/-- What a file bears is what each round decided, if and only if nothing else was outstanding at any
of the rounds. -/
theorem bears_unsettled?_iff (bare : start.Bears name none) (rounds : Rounds name start log now) :
    (∀ entry ∈ log, entry.2.Bears name entry.1.unsettled?) ↔
      Decision.InStep (log.map Prod.fst) := by
  induction rounds with
  | start =>
      refine ⟨fun _ => Decision.inStep_nil, fun _ entry member => ?_⟩
      cases member
  | resolve _ _ _ ih => exact ih
  | @round log _ after _ _ decision earlier read evaluated ih =>
      have bears := bears_of_rounds bare (.round earlier read evaluated)
      rw [List.map_append, List.map_singleton] at bears ⊢
      rw [Decision.inStep_concat, List.forall_mem_append, ih, List.forall_mem_singleton]
      refine and_congr_right fun _ => ⟨fun decided => bears.unique decided, fun same => ?_⟩
      rw [← same]
      exact bears

/-- **After every round a file bears the conflict that the rounds so far leave outstanding.** It is
what the round itself decided, at all rounds, if and only if no decision that leaves artifacts alone
comes directly after one with a conflict. -/
theorem bears_outstanding (bare : start.Bears name none) (rounds : Rounds name start log now) :
    (∀ earlier entry, earlier ++ [entry] <+: log →
      entry.2.Bears name (Decision.outstanding ((earlier ++ [entry]).map Prod.fst))) ∧
    ((∀ entry ∈ log, entry.2.Bears name entry.1.unsettled?) ↔
      (log.map Prod.fst).IsChain Decision.Heeds) := by
  constructor
  · intro earlier entry begins
    exact bears_of_rounds bare (rounds.of_begins begins)
  · rw [bears_unsettled?_iff bare rounds, Decision.inStep_iff_isChain]

end Run

/-- **An artifact can outlive its conflict.** A round finds a conflict, and then a lineage comes in
that goes on from the one held. It is let through, and the artifact of the conflict stays. -/
theorem exists_stale {name : String} {start : Workspace Store Index}
    {held first second : Properties} {lineage early late : Lineage}
    (bare : start.Bears name none) (read : start.loaded name = .ok (some held))
    (shown : held.Show lineage none) (first_read : Lineage.ofProperties first = .ok early)
    (second_read : Lineage.ofProperties second = .ok late)
    (apart : lineage.current ≠ early.current) (unknown : lineage.current ∉ early.history)
    (further : lineage.current ≠ late.current) (known : lineage.current ∈ late.history) :
    ∃ after, Rounds name start
      [(.conflict ⟨lineage.current, early.current, early.history⟩, after), (.fastForward, after)]
      after := by
  have stored := (Workspace.loaded_eq bare.sound name).symm.trans read
  obtain ⟨after, sound, files, evaluated⟩ :=
    Round.evaluate_eq bare.sound shown first_read stored
  rw [Round.decision_of_apart apart unknown] at files evaluated
  have marked : after.loaded name = .ok (some (Artifact.mark held)) := by
    rw [Workspace.loaded_eq sound, files, if_pos rfl]
    rfl
  have through : Round.evaluate name (some (Artifact.mark held)) second after =
      (.ok .fastForward, after) :=
    Round.evaluate_of_descends shown.mark.lineage_eq second_read further known
  exact ⟨after, .round (.round .start read evaluated) marked through⟩

/-- A file at the first revision of a server `b`. The first revision of a server `a` is in conflict
with it, and the second one of `a` goes on from both. -/
theorem stale_rounds :
    let held : Properties := (⟨⟨"b", 1⟩, []⟩ : Lineage).writeTo .empty
    let start : Workspace Store Index := ⟨{ tables := ({} : Tables).putFile "file" held }, {}⟩
    start.Bears "file" none ∧ ∃ after, Rounds "file" start
      [(.conflict ⟨⟨"b", 1⟩, ⟨"a", 1⟩, []⟩, after), (.fastForward, after)] after := by
  intro held start
  have unmarked : held.inConflict = false := Lineage.inConflict_writeTo _ _
  have blank : ArtifactCall.Blank start := ArtifactCall.blank_ofFile unmarked "file"
  have read : start.loaded "file" = .ok (some held) := by
    rw [Workspace.loaded_eq rfl, Tables.getFile_putFile, if_pos rfl]
  have bare : start.Bears "file" none := ⟨blank.clear "file", held, read, unmarked⟩
  have shown : held.Show ⟨⟨"b", 1⟩, []⟩ none :=
    Properties.Show.writeTo (by decide) Resolution.ofProperties_empty
  let early : Lineage := ⟨⟨"a", 1⟩, []⟩
  let late : Lineage := ⟨⟨"a", 2⟩, [⟨"a", 1⟩, ⟨"b", 1⟩]⟩
  have early_read : Lineage.ofProperties (early.writeTo .empty) = .ok early :=
    Lineage.ofProperties_writeTo (by decide) .empty
  have late_read : Lineage.ofProperties (late.writeTo .empty) = .ok late :=
    Lineage.ofProperties_writeTo (by decide) .empty
  exact ⟨bare, exists_stale bare read shown early_read late_read (by decide) (by decide)
    (by decide) (by decide)⟩

/-- After the fast forward the file still bears the conflict. -/
theorem bears_outstanding_fastForward :
    let held : Properties := (⟨⟨"b", 1⟩, []⟩ : Lineage).writeTo .empty
    let start : Workspace Store Index := ⟨{ tables := ({} : Tables).putFile "file" held }, {}⟩
    let conflict : Conflict := ⟨⟨"b", 1⟩, ⟨"a", 1⟩, []⟩
    start.Bears "file" none ∧ ∃ after,
      Rounds "file" start [(.conflict conflict, after), (.fastForward, after)] after ∧
        after.Bears "file" (some conflict) := by
  intro held start conflict
  obtain ⟨bare, after, rounds⟩ := stale_rounds
  have bears := (bears_outstanding bare rounds).1 [(.conflict conflict, after)]
    (.fastForward, after) (List.prefix_refl _)
  exact ⟨bare, after, rounds, bears⟩

/-- What a file bears is not always what the last round decided. -/
theorem not_bears_of_fastForward :
    ¬ ∀ (name : String) (start now : Workspace Store Index)
      (log : List (Decision × Workspace Store Index)), start.Bears name none →
        Rounds name start log now → ∀ entry ∈ log, entry.2.Bears name entry.1.unsettled? := by
  intro always
  obtain ⟨bare, after, rounds⟩ := stale_rounds
  have decided : after.Bears "file" none := always "file" _ after _ bare rounds
    (.fastForward, after) (List.mem_cons_of_mem _ List.mem_cons_self)
  have outstanding := bears_of_rounds bare rounds
  cases decided.unique outstanding

end Rounds

end ReplicaSync
