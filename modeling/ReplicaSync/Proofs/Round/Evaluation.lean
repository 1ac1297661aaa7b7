import ReplicaSync.Proofs.Conflict.Artifacts
import ReplicaSync.Round.Decision

/-!
# What a round decides and leaves

What a round decides depends on the two lineages and on the resolution that is held
(`Round.decision`). On a store that is not poisoned, and for properties that can be read, the round
gives that decision. It leaves the store usable, the properties of the file edited as the decision
asks for, and every other file as it was (`Round.evaluate_eq`).
-/

set_option autoImplicit false

namespace ReplicaSync

namespace Conflict

variable {held incoming : Lineage}

theorem between_eq_none_iff :
    between held incoming = none ↔
      held.current = incoming.current ∨ held.current ∈ incoming.history := by
  have fits : (held.sameRevision incoming || incoming.descendsFrom held.current) = true ↔
      held.current = incoming.current ∨ held.current ∈ incoming.history := by
    rw [Bool.or_eq_true, Lineage.sameRevision, Lineage.descendsFrom, decide_eq_true_iff,
      decide_eq_true_iff]
  rw [between, ← fits]
  cases held.sameRevision incoming || incoming.descendsFrom held.current <;> simp

theorem between_of_apart (different : held.current ≠ incoming.current)
    (unknown : held.current ∉ incoming.history) :
    between held incoming = some ⟨held.current, incoming.current, incoming.history⟩ := by
  rw [between]
  simp [Lineage.sameRevision, Lineage.descendsFrom, different, unknown]

end Conflict

namespace Round

/-- What becomes of a lineage that comes in over one that is held with a resolution or none. -/
def decision (held : Lineage) (resolution : Option Resolution) (incoming : Lineage) : Decision :=
  match Conflict.between held incoming with
  | none => if held.sameRevision incoming then .upToDate else .fastForward
  | some conflict =>
      if resolution.any fun decided => decided.settles conflict then .settled conflict
      else .conflict conflict

/-- The properties of a file after a decision about it. -/
def follow : Decision → Properties → Properties
  | .conflict _ => Artifact.mark
  | .settled _ => Artifact.unmark
  | _ => id

section Decision

variable {held incoming : Lineage} {resolution : Option Resolution}

theorem decision_of_same (same : held.current = incoming.current) :
    decision held resolution incoming = .upToDate := by
  have equal : held.sameRevision incoming = true := decide_eq_true same
  rw [decision, Conflict.between_eq_none_iff.mpr (.inl same)]
  dsimp only
  rw [if_pos equal]

theorem decision_of_descends (different : held.current ≠ incoming.current)
    (known : held.current ∈ incoming.history) :
    decision held resolution incoming = .fastForward := by
  have unequal : held.sameRevision incoming = false := decide_eq_false different
  rw [decision, Conflict.between_eq_none_iff.mpr (.inr known)]
  dsimp only
  rw [unequal]
  rfl

theorem decision_of_apart (different : held.current ≠ incoming.current)
    (unknown : held.current ∉ incoming.history) :
    decision held none incoming =
      .conflict ⟨held.current, incoming.current, incoming.history⟩ := by
  rw [decision, Conflict.between_of_apart different unknown]
  rfl

/-- Only a lineage at the same revision is found up to date. -/
theorem decision_eq_upToDate_iff :
    decision held resolution incoming = .upToDate ↔ held.current = incoming.current := by
  refine ⟨fun decided => ?_, decision_of_same⟩
  by_contra different
  have unequal : held.sameRevision incoming = false := decide_eq_false different
  rw [decision] at decided
  cases divergence : Conflict.between held incoming with
  | none =>
      rw [divergence] at decided
      dsimp only at decided
      rw [unequal] at decided
      cases decided
  | some conflict =>
      rw [divergence] at decided
      dsimp only at decided
      split at decided <;> cases decided

/-- Without a resolution only a descendant may be transferred. -/
theorem mem_of_mayTransfer (transfers : (decision held none incoming).mayTransfer = true) :
    held.current ∈ incoming.history := by
  by_cases same : held.current = incoming.current
  · rw [decision_of_same same] at transfers
    cases transfers
  · by_contra unknown
    rw [decision_of_apart same unknown] at transfers
    cases transfers

end Decision

variable {name : String} {held incoming : Properties}
variable {lineage source : Lineage} {resolution : Option Resolution} {stored : Option Properties}

theorem isSettled_of_show (shown : held.Show lineage resolution) (conflict : Conflict) :
    conflict.isSettled held = .ok (resolution.any fun decided => decided.settles conflict) := by
  rw [Conflict.isSettled, shown.resolution_eq]
  cases resolution <;> rfl

section Workspaces

variable {σ ι : Type} [TransactionalStorage σ] [SearchIndex ι] {workspace : Workspace σ ι}

/-- A file that is not held is new. -/
theorem evaluate_none (read : Lineage.ofProperties incoming = .ok source) :
    evaluate name none incoming workspace = (.ok .newFile, workspace) := by
  rw [evaluate, read]

theorem evaluate_of_between_none (held_read : Lineage.ofProperties held = .ok lineage)
    (read : Lineage.ofProperties incoming = .ok source)
    (agreed : Conflict.between lineage source = none) :
    evaluate name (some held) incoming workspace =
      (.ok (if lineage.sameRevision source then .upToDate else .fastForward), workspace) := by
  simp only [evaluate, read, evaluateHeld, held_read, agreed]

theorem evaluate_of_between_some (held_read : Lineage.ofProperties held = .ok lineage)
    (read : Lineage.ofProperties incoming = .ok source) {conflict : Conflict}
    (diverged : Conflict.between lineage source = some conflict) :
    evaluate name (some held) incoming workspace = handle name held conflict workspace := by
  simp only [evaluate, read, evaluateHeld, held_read, diverged]

/-- A round over a lineage that the incoming one descends from finds a fast forward. -/
theorem evaluate_of_descends (held_read : Lineage.ofProperties held = .ok lineage)
    (read : Lineage.ofProperties incoming = .ok source)
    (different : lineage.current ≠ source.current) (known : lineage.current ∈ source.history) :
    evaluate name (some held) incoming workspace = (.ok .fastForward, workspace) := by
  have unequal : lineage.sameRevision source = false := decide_eq_false different
  rw [evaluate_of_between_none held_read read (Conflict.between_eq_none_iff.mpr (.inr known)),
    unequal]
  rfl

theorem decision_of_map {answer : Except Fault Unit} {decision decided : Decision}
    (mapped : (answer.map fun _ => decision) = .ok decided) : decision = decided := by
  cases answer with
  | error fault => cases mapped
  | ok _ => exact Except.ok.inj mapped

/-- Whatever a round decides about lineages in conflict, it decides about their conflict, settled
or not. -/
theorem conflict?_of_between (held_read : Lineage.ofProperties held = .ok lineage)
    (read : Lineage.ofProperties incoming = .ok source) {conflict : Conflict}
    (diverged : Conflict.between lineage source = some conflict) {decided : Decision}
    (decides : (evaluate name (some held) incoming workspace).1 = .ok decided) :
    decided.conflict? = some conflict := by
  rw [evaluate_of_between_some held_read read diverged, handle] at decides
  split at decides
  · cases decides
  · rw [← decision_of_map decides]
    rfl
  · rw [← decision_of_map decides]
    rfl

/-- A round on a file that is held leaves the workspace as it is, or it comes down to one call about
the artifact. -/
theorem evaluate_outcomes (name : String) (held incoming : Properties) (workspace : Workspace σ ι) :
    (∃ answer, evaluate name (some held) incoming workspace = (answer, workspace) ∧
      ∀ decision, answer = .ok decision → decision = .upToDate ∨ decision = .fastForward) ∨
    ∃ conflict,
      evaluate name (some held) incoming workspace =
          ((Artifact.remove name workspace).1.map fun _ => .settled conflict,
            (Artifact.remove name workspace).2) ∨
        evaluate name (some held) incoming workspace =
          ((Artifact.create name conflict workspace).1.map fun _ => .conflict conflict,
            (Artifact.create name conflict workspace).2) := by
  cases read : Lineage.ofProperties incoming with
  | error fault => exact .inl ⟨.error fault, by rw [evaluate, read], nofun⟩
  | ok source =>
      cases held_read : Lineage.ofProperties held with
      | error fault =>
          exact .inl ⟨.error fault, by simp only [evaluate, read, evaluateHeld, held_read], nofun⟩
      | ok lineage =>
          cases divergence : Conflict.between lineage source with
          | none =>
              refine .inl ⟨_, evaluate_of_between_none held_read read divergence, ?_⟩
              rintro _ ⟨⟩
              split
              · exact .inl rfl
              · exact .inr rfl
          | some conflict =>
              rw [evaluate_of_between_some held_read read divergence, handle]
              cases conflict.isSettled held with
              | error fault => exact .inl ⟨.error fault, rfl, nofun⟩
              | ok settled =>
                  cases settled with
                  | true => exact .inr ⟨conflict, .inl rfl⟩
                  | false => exact .inr ⟨conflict, .inr rfl⟩

/-- A round that succeeds on a file that is held leaves the workspace as it is, or settles a
conflict, or finds one. -/
theorem evaluate_cases {after : Workspace σ ι} {decision : Decision}
    (evaluated : evaluate name (some held) incoming workspace = (.ok decision, after)) :
    (decision = .upToDate ∨ decision = .fastForward) ∧ after = workspace ∨
      ∃ conflict, decision = .settled conflict ∧ after = (Artifact.remove name workspace).2 ∨
        decision = .conflict conflict ∧ after = (Artifact.create name conflict workspace).2 := by
  rcases evaluate_outcomes name held incoming workspace with
    ⟨answer, untouched, agreed⟩ | ⟨conflict, removed | created⟩
  · obtain ⟨decided, left⟩ := Prod.mk.inj (evaluated.symm.trans untouched)
    exact .inl ⟨agreed decision decided.symm, left⟩
  · obtain ⟨decided, left⟩ := Prod.mk.inj (evaluated.symm.trans removed)
    exact .inr ⟨conflict, .inl ⟨(decision_of_map decided.symm).symm, left⟩⟩
  · obtain ⟨decided, left⟩ := Prod.mk.inj (evaluated.symm.trans created)
    exact .inr ⟨conflict, .inr ⟨(decision_of_map decided.symm).symm, left⟩⟩

end Workspaces

variable {workspace : Workspace Store Index}

/-- **What a round decides, and what it leaves of the files.** -/
theorem evaluate_eq (sound : workspace.store.poisoned = false)
    (shown : held.Show lineage resolution) (read : Lineage.ofProperties incoming = .ok source)
    (found : workspace.store.tables.getFile name = .ok stored) :
    ∃ after : Workspace Store Index, after.store.poisoned = false ∧
      (∀ other, after.store.tables.getFile other =
        if other = name then .ok (stored.map (follow (decision lineage resolution source)))
        else workspace.store.tables.getFile other) ∧
      evaluate name (some held) incoming workspace =
        (.ok (decision lineage resolution source), after) := by
  have untouched (other : String) : workspace.store.tables.getFile other =
      if other = name then .ok (stored.map id) else workspace.store.tables.getFile other := by
    by_cases same : other = name
    · rw [if_pos same, Option.map_id, id, same, found]
    · rw [if_neg same]
  rw [decision]
  cases divergence : Conflict.between lineage source with
  | none =>
      refine ⟨workspace, sound, fun other => (untouched other).trans ?_,
        evaluate_of_between_none shown.lineage_eq read divergence⟩
      cases lineage.sameRevision source <;> rfl
  | some conflict =>
      dsimp only
      rw [evaluate_of_between_some shown.lineage_eq read divergence, handle,
        isSettled_of_show shown]
      cases resolution.any fun decided => decided.settles conflict with
      | true =>
          obtain ⟨after, usable, tables, -, removed⟩ := Artifact.remove_eq sound found
          refine ⟨after, usable, fun other => ?_, ?_⟩
          · rw [tables]
            exact @Tables.getFile_editFile (workspace.store.tables.eraseSetting (Artifact.key name))
              name stored found _ other
          · dsimp only
            rw [removed]
            rfl
      | false =>
          obtain ⟨after, usable, tables, -, created⟩ := Artifact.create_eq sound found conflict
          refine ⟨after, usable, fun other => ?_, ?_⟩
          · rw [tables]
            exact @Tables.getFile_editFile (workspace.store.tables.putSetting
              (Artifact.key name) conflict.toDocument) name stored found _ other
          · dsimp only
            rw [created]
            rfl

end Round

end ReplicaSync
