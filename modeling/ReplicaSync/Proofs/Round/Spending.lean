import ReplicaSync.Proofs.Revision.Rewriting
import ReplicaSync.Proofs.Round.Gate
import ReplicaSync.Round.Edit

/-!
# Resolutions are spent

A round that settles a conflict clears the artifact away, and the resolution that settled it with
it. All other properties stay, the lineage among them. So the next round against the same lineage
finds the same conflict again, and as no resolution is left, it sets up the artifact and marks the
file (`Round.settled_once`).

Along any run of rounds and of resolutions that are stored in between, no more conflicts are settled
than resolutions were stored, counting one that was there at the start
(`Round.settled_le_resolved`).
-/

set_option autoImplicit false

namespace ReplicaSync

/-! ## What there is of a file after a call -/

/-- What there is of a stored file: its artifact, and its properties, which the index knows too. -/
structure Workspace.Holds (workspace : Workspace Store Index) (name : String)
    (properties : Properties) (left : Option Conflict) : Prop where
  artifact : workspace.artifact name = .ok left
  loaded : workspace.loaded name = .ok (some properties)
  indexed : workspace.index.files.get? name = some properties

/-- A call on a stored file succeeds. It leaves its artifact and the properties it has edited, and
the index knows them. -/
theorem ArtifactCall.holds_of_run {workspace : Workspace Store Index} {held : Properties}
    (call : ArtifactCall) (read : workspace.loaded call.file = .ok (some held)) :
    ∃ after, call.run workspace = (.ok (), after) ∧
      after.Holds call.file (call.edit held) call.artifact? := by
  have sound := Workspace.sound_of_loaded read
  obtain ⟨edited, artifact⟩ := readings_of_run sound read
  obtain ⟨after, -, -, index, ran⟩ := run_eq sound ((Workspace.loaded_eq sound _).symm.trans read)
  rw [ran] at edited artifact
  refine ⟨after, ran, artifact, edited, ?_⟩
  rw [index]
  exact (NameMap.get?_insert _ _ _ _).trans (if_pos rfl)

/-- A call does not bring a resolution about. -/
theorem ArtifactCall.isSome_resolution_of_edit (call : ArtifactCall) {properties : Properties}
    (still : ((call.edit properties).get? PropertyName.resolution).isSome = true) :
    (properties.get? PropertyName.resolution).isSome = true := by
  cases call with
  | create name conflict =>
      rw [edit, get?_mark, if_neg (by decide)] at still
      exact still
  | remove name =>
      rw [edit, get?_unmark, if_pos rfl] at still
      cases still

/-- Whether a decision is that a conflict is settled. -/
def Decision.isSettled : Decision → Bool
  | .settled _ => true
  | _ => false

namespace Round

/-! ## Rounds and resolutions -/

section Undecided

variable {σ ι : Type} [TransactionalStorage σ] [SearchIndex ι]
variable {name : String} {held incoming : Properties} {conflict : Conflict}

/-- In a conflict that nobody has decided about, a round sets the artifact up. -/
theorem evaluate_of_undecided
    (diverged : Conflict.ofProperties held incoming = .ok (some conflict))
    (undecided : Resolution.ofProperties held = .ok none) (workspace : Workspace σ ι) :
    evaluate name (some held) incoming workspace =
      ((Artifact.create name conflict workspace).1.map fun _ => .conflict conflict,
        (Artifact.create name conflict workspace).2) := by
  obtain ⟨lineage, source, held_read, read, between⟩ := Conflict.exists_of_ofProperties diverged
  have unsettled : conflict.isSettled held = .ok false := by
    rw [Conflict.isSettled, undecided]
    rfl
  rw [evaluate_of_between_some held_read read between, handle, unsettled]

/-- A round that settles a conflict has found a resolution. -/
theorem resolution_of_settled {workspace : Workspace σ ι}
    (decided : (evaluate name (some held) incoming workspace).1 = .ok (.settled conflict)) :
    ∃ resolution, Resolution.ofProperties held = .ok (some resolution) := by
  have diverged := ofProperties_of_evaluate decided
  obtain ⟨lineage, source, held_read, read, between⟩ := Conflict.exists_of_ofProperties diverged
  have grounds := (mayTransfer_iff_of_evaluate decided).mp rfl
  rw [grounds_iff_of_diverged held_read read between] at grounds
  obtain ⟨resolution, -, found, -⟩ := Conflict.isSettled_eq_true_iff.mp grounds
  exact ⟨resolution, found⟩

/-- A round that settles a conflict leaves what clearing the artifact away leaves. -/
theorem snd_evaluate_of_settled {workspace : Workspace σ ι}
    (decided : (evaluate name (some held) incoming workspace).1 = .ok (.settled conflict)) :
    (evaluate name (some held) incoming workspace).2 = (Artifact.remove name workspace).2 := by
  rcases evaluate_cases (Prod.ext decided rfl) with
    ⟨agreed, -⟩ | ⟨_, ⟨-, removed⟩ | ⟨unsettled, -⟩⟩
  · rcases agreed with same | same <;> cases same
  · exact removed
  · cases unsettled

end Undecided

/-! ## Runs -/

/-- What happens to a stored file: a resolution is stored with it, or a round takes place. -/
inductive Visit where
  | resolve (resolution : Resolution)
  | round (incoming : Properties)

/-- Whether a visit stores a resolution. -/
def Visit.isResolve : Visit → Bool
  | .resolve _ => true
  | .round _ => false

section Runs

variable {ι : Type} [SearchIndex ι]

/-- A round over the properties that are stored. -/
def evaluateStored (name : String) (incoming : Properties) (workspace : Workspace Store ι) :
    Except Fault Decision × Workspace Store ι :=
  match TransactionalStorage.loadFile name workspace.store with
  | (.error fault, store) => (.error fault, { workspace with store })
  | (.ok held, store) => evaluate name held incoming { workspace with store }

/-- The decisions of the rounds among some visits to a file. A visit that fails is passed over. -/
def decisions (name : String) : List Visit → Workspace Store ι → List Decision
  | [], _ => []
  | .resolve resolution :: later, workspace =>
      decisions name later
        { workspace with store := (Edit.resolve name resolution workspace.store).2 }
  | .round incoming :: later, workspace =>
      match evaluateStored name incoming workspace with
      | (answer, after) => answer.toOption.toList ++ decisions name later after

/-- Whether a resolution is stored with a file. -/
def hasResolution (name : String) (workspace : Workspace Store ι) : Bool :=
  match workspace.loaded name with
  | .ok held => held.any fun properties => (properties.get? PropertyName.resolution).isSome
  | .error _ => false

variable {name : String} {incoming : Properties} {workspace : Workspace Store ι}

theorem evaluateStored_of_unreadable {fault : Fault}
    (unread : workspace.loaded name = .error fault) :
    evaluateStored name incoming workspace = (.error fault, workspace) := by
  have loaded : TransactionalStorage.loadFile name workspace.store =
      (.error fault, workspace.store) := Prod.ext unread (Store.snd_loadFile _ _)
  rw [evaluateStored, loaded]

theorem evaluateStored_eq {held : Option Properties} (read : workspace.loaded name = .ok held) :
    evaluateStored name incoming workspace = evaluate name held incoming workspace := by
  have loaded : TransactionalStorage.loadFile name workspace.store =
      (.ok held, workspace.store) := Prod.ext read (Store.snd_loadFile _ _)
  rw [evaluateStored, loaded]

/-- A round does not bring a resolution about. -/
theorem hasResolution_of_evaluateStored
    (still : hasResolution name (evaluateStored name incoming workspace).2 = true) :
    hasResolution name workspace = true := by
  cases read : workspace.loaded name with
  | error fault => rwa [evaluateStored_of_unreadable read] at still
  | ok held =>
      rw [evaluateStored_eq read] at still
      rcases evaluate_effect name held incoming workspace with
        ⟨answer, untouched, -⟩ | ⟨decision, call, called, effect⟩
      · rwa [untouched] at still
      · have about := file_of_call? called
        obtain ⟨edited, -⟩ :=
          ArtifactCall.readings_of_run (Workspace.sound_of_loaded read) (about ▸ read)
        rw [effect, hasResolution, ← about, edited] at still
        rw [hasResolution, read]
        dsimp only at still ⊢
        rw [Option.any_map] at still
        cases held with
        | none => cases still
        | some properties => exact call.isSome_resolution_of_edit still

/-- **A round that settles a conflict spends the resolution.** -/
theorem spent_of_settled {conflict : Conflict}
    (decided : (evaluateStored name incoming workspace).1 = .ok (.settled conflict)) :
    hasResolution name workspace = true ∧
      hasResolution name (evaluateStored name incoming workspace).2 = false := by
  cases read : workspace.loaded name with
  | error fault =>
      rw [evaluateStored_of_unreadable read] at decided
      cases decided
  | ok found =>
      rw [evaluateStored_eq read] at decided ⊢
      cases found with
      | none => cases eq_newFile_of_evaluate decided
      | some held =>
          obtain ⟨resolution, has⟩ := resolution_of_settled decided
          obtain ⟨text, written⟩ := Resolution.exists_of_ofProperties has
          have sound := Workspace.sound_of_loaded read
          let call : ArtifactCall := .remove name
          have edited : (call.run workspace).2.loaded name = .ok (some (Artifact.unmark held)) :=
            (@ArtifactCall.readings_of_run _ _ workspace call _ sound read).1
          have removed :
              (evaluate name (some held) incoming workspace).2 = (call.run workspace).2 :=
            snd_evaluate_of_settled decided
          constructor
          · rw [hasResolution, read]
            exact congrArg Option.isSome written
          · rw [removed, hasResolution, edited]
            exact congrArg Option.isSome (ArtifactCall.get?_unmark held _)

/-- The resolution of a file pays for the conflicts that the next round settles, and for what is
left. -/
theorem countP_isSettled_add_le (name : String) (incoming : Properties)
    (workspace : Workspace Store ι) :
    (evaluateStored name incoming workspace).1.toOption.toList.countP Decision.isSettled +
        (hasResolution name (evaluateStored name incoming workspace).2).toNat ≤
      (hasResolution name workspace).toNat := by
  obtain ⟨answer, after, round⟩ : ∃ answer after,
      evaluateStored name incoming workspace = (answer, after) := ⟨_, _, rfl⟩
  have kept : hasResolution name after = true → hasResolution name workspace = true := fun still =>
    hasResolution_of_evaluateStored (by rw [round]; exact still)
  have kept_le : (hasResolution name after).toNat ≤ (hasResolution name workspace).toNat := by
    cases still : hasResolution name after with
    | true => rw [kept still]
    | false => exact Nat.zero_le _
  rw [round]
  cases answer with
  | error fault => rwa [Except.toOption, Option.toList_none, List.countP_nil, Nat.zero_add]
  | ok decision =>
      cases decision with
      | settled conflict =>
          obtain ⟨before, spent⟩ := spent_of_settled (congrArg Prod.fst round)
          rw [round] at spent
          rw [before, spent]
          exact Nat.le_refl 1
      | newFile | upToDate | fastForward | conflict _ => exact (Nat.zero_add _).trans_le kept_le

/-- **No more conflicts are settled than resolutions are stored**, counting one that was there at
the start. -/
theorem settled_le_resolved (visits : List Visit) (workspace : Workspace Store ι) :
    (decisions name visits workspace).countP Decision.isSettled ≤
      visits.countP Visit.isResolve + (hasResolution name workspace).toNat := by
  induction visits generalizing workspace with
  | nil => exact Nat.zero_le _
  | cons visit later ih =>
      cases visit with
      | resolve resolution =>
          let after : Workspace Store ι :=
            { workspace with store := (Edit.resolve name resolution workspace.store).2 }
          -- whatever was there before, at most one resolution is stored now, and it is counted
          have one := Bool.toNat_le (hasResolution name after)
          have rest := ih after
          rw [List.countP_cons_of_pos rfl]
          change (decisions name later after).countP Decision.isSettled ≤ _
          omega
      | round incoming =>
          have paid := countP_isSettled_add_le name incoming workspace
          have rest := ih (evaluateStored name incoming workspace).2
          rw [decisions, List.countP_cons_of_neg Bool.false_ne_true, List.countP_append]
          omega

end Runs

/-! ## Settled once -/

section TwoRounds

variable {name : String} {held incoming : Properties} {workspace : Workspace Store Index}
variable {conflict : Conflict} (stored : workspace.loaded name = .ok (some held))
include stored

/-- A round that settles a conflict leaves no artifact, no mark and no resolution. -/
theorem holds_of_settled {after : Workspace Store Index}
    (settled : evaluate name (some held) incoming workspace = (.ok (.settled conflict), after)) :
    after.Holds name (Artifact.unmark held) none := by
  obtain ⟨cleared, removed, holds⟩ := ArtifactCall.holds_of_run (.remove name) stored
  have left := snd_evaluate_of_settled (congrArg Prod.fst settled)
  rw [settled] at left
  obtain rfl : after = cleared := left.trans (congrArg Prod.snd removed)
  exact holds

/-- A round that finds a conflict without a resolution leaves the artifact and the mark. -/
theorem holds_of_undecided
    (diverged : Conflict.ofProperties held incoming = .ok (some conflict))
    (undecided : Resolution.ofProperties held = .ok none) :
    ∃ after, evaluate name (some held) incoming workspace = (.ok (.conflict conflict), after) ∧
      after.Holds name (Artifact.mark held) (some conflict) := by
  obtain ⟨after, created, holds⟩ := ArtifactCall.holds_of_run (.create name conflict) stored
  have created : Artifact.create name conflict workspace = (.ok (), after) := created
  refine ⟨after, ?_, holds⟩
  rw [evaluate_of_undecided diverged undecided, created]
  rfl

/-- After a conflict has been settled, only as many can be as resolutions are stored again. -/
theorem settled_le_of_settled {after : Workspace Store Index}
    (settled : evaluate name (some held) incoming workspace = (.ok (.settled conflict), after))
    (visits : List Visit) :
    (decisions name visits after).countP Decision.isSettled ≤ visits.countP Visit.isResolve := by
  have round := (evaluateStored_eq stored).trans settled
  have spent := (spent_of_settled (congrArg Prod.fst round)).2
  rw [round] at spent
  have paid := @settled_le_resolved _ _ name visits after
  rwa [spent] at paid

end TwoRounds

/-- **A stored resolution settles a conflict at most once.** The round that settles it clears the
artifact, the mark and the resolution away and leaves all other properties. The next round, over
what is stored then and against the same lineage, finds the same conflict, sets it up as the
artifact and marks the file. And however the rounds go on, they settle no more conflicts than
resolutions are stored from then on. -/
theorem settled_once {name : String} {held incoming : Properties}
    {workspace after : Workspace Store Index} {conflict : Conflict}
    (stored : workspace.loaded name = .ok (some held))
    (settled : evaluate name (some held) incoming workspace = (.ok (.settled conflict), after)) :
    ∃ now, after.Holds name now none ∧
      (∀ property, now.get? property =
        if property = PropertyName.conflict ∨ property = PropertyName.resolution then none
        else held.get? property) ∧
      (∃ marked final,
        evaluate name (some now) incoming after = (.ok (.conflict conflict), final) ∧
        final.Holds name marked (some conflict) ∧ marked.inConflict = true ∧
        ∀ property, property ≠ PropertyName.conflict →
          marked.get? property = now.get? property) ∧
      ∀ visits, (decisions name visits after).countP Decision.isSettled ≤
        visits.countP Visit.isResolve := by
  have holds := holds_of_settled stored settled
  -- the lineage is among the properties that stay, so the conflict is found again
  have diverged : Conflict.ofProperties (Artifact.unmark held) incoming = .ok (some conflict) :=
    (Conflict.ofProperties_unmark held incoming).trans
      (ofProperties_of_evaluate (congrArg Prod.fst settled))
  obtain ⟨final, again, marked⟩ :=
    holds_of_undecided holds.loaded diverged (Resolution.ofProperties_unmark held)
  refine ⟨Artifact.unmark held, holds, ?_,
    ⟨Artifact.mark (Artifact.unmark held), final, again, marked, ?_, ?_⟩,
    settled_le_of_settled stored settled⟩
  · intro property
    rw [ArtifactCall.get?_unmark]
    by_cases mark : property = PropertyName.conflict <;> simp [mark]
  · exact ArtifactCall.inConflict_edit (.create name conflict) (Artifact.unmark held)
  · intro property other
    rw [ArtifactCall.get?_mark, if_neg other]

/-- A conflict with a lineage of a server `c`, settled once. The note among the properties stays,
and two more rounds settle nothing. -/
theorem settled_once_of_noted :
    let resolution : Resolution := ⟨.takeRemote, "c", 7⟩
    let noted : Properties := NameMap.empty.insert "note" "kept"
    let held : Properties := resolution.writeTo ((⟨⟨"b", 1⟩, []⟩ : Lineage).writeTo noted)
    let incoming : Properties := (⟨⟨"a", 2⟩, [⟨"c", 5⟩]⟩ : Lineage).writeTo .empty
    let workspace : Workspace Store Index := ⟨{ tables := ({} : Tables).putFile "file" held }, {}⟩
    let conflict : Conflict := ⟨⟨"b", 1⟩, ⟨"a", 2⟩, [⟨"c", 5⟩]⟩
    ∃ after now final, evaluate "file" (some held) incoming workspace =
        (.ok (.settled conflict), after) ∧
      now.get? "note" = some "kept" ∧ now.get? PropertyName.resolution = none ∧
      evaluate "file" (some now) incoming after = (.ok (.conflict conflict), final) ∧
      (decisions "file" [.round incoming, .round incoming] after).countP
        Decision.isSettled = 0 := by
  intro resolution noted held incoming workspace conflict
  have shown : held.Show ⟨⟨"b", 1⟩, []⟩ (some resolution) :=
    (Properties.Show.writeTo (by decide) rfl).resolve resolution
  have read : Lineage.ofProperties incoming = .ok ⟨⟨"a", 2⟩, [⟨"c", 5⟩]⟩ :=
    Lineage.ofProperties_writeTo (by decide) .empty
  have sound : workspace.store.poisoned = false := rfl
  have stored : workspace.loaded "file" = .ok (some held) := by
    rw [Workspace.loaded_eq sound, Tables.getFile_putFile, if_pos rfl]
  obtain ⟨after, -, -, settled⟩ :=
    evaluate_eq sound shown read ((Workspace.loaded_eq sound "file").symm.trans stored)
  obtain ⟨now, -, properties, ⟨-, final, again, -, -, -⟩, never⟩ := settled_once stored settled
  refine ⟨after, now, final, settled, ?_, ?_, again, Nat.le_zero.mp (never _)⟩
  · have kept : held.get? "note" = ((⟨⟨"b", 1⟩, []⟩ : Lineage).writeTo noted).get? "note" :=
      (NameMap.get?_insert _ _ _ _).trans (if_neg (by decide))
    rw [properties, if_neg (by decide), kept,
      Lineage.get?_writeTo_of_ne _ _ (by decide) (by decide) (by decide)]
    rfl
  · rw [properties, if_pos (.inr rfl)]

end Round

end ReplicaSync
