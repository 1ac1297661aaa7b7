import ReplicaSync.Proofs.Conflict.Calls
import ReplicaSync.Proofs.Round.Evaluation

/-!
# The gate of a round

A round lets content through on three grounds only (`Round.Grounds`): nothing is held of the file,
the revision that comes in goes on from the one held, or a decision for the remote side settles the
conflict between them. The conflict that a decision names is the one between the two lineages.

What a round does besides is one call about the artifact of the file, and only where the lineages
are in conflict (`Round.evaluate_effect`). A call that fails is taken back as a whole, so a round
that fails leaves all as it was. A call that succeeds leaves all other files, all other settings and
all other entries of the index alone, and of the properties of the file all but the mark and the
resolution (`ArtifactCall.spared_of_run`). A round fails only where something cannot be read that it
has to look at (`Round.evaluate_succeeds_iff`). `Round.evaluate_gate` puts this together.
-/

set_option autoImplicit false

namespace ReplicaSync

/-! ## Conflicts -/

namespace Conflict

variable {held : Properties} {lineage source : Lineage} {conflict : Conflict}

theorem eq_of_between (diverged : between lineage source = some conflict) :
    conflict = ⟨lineage.current, source.current, source.history⟩ := by
  rw [between] at diverged
  split at diverged
  · cases diverged
  · exact (Option.some.inj diverged).symm

/-- A conflict is settled exactly by a decision for the remote side that names the server of the
last revision before the remote one. -/
theorem isSettled_eq_true_iff :
    conflict.isSettled held = .ok true ↔
      ∃ resolution tip, Resolution.ofProperties held = .ok (some resolution) ∧
        resolution.strategy = .takeRemote ∧ conflict.tip = some tip ∧
        tip.server = resolution.server := by
  rw [isSettled]
  cases decided : Resolution.ofProperties held with
  | error fault =>
      constructor
      · rintro ⟨⟩
      · rintro ⟨_, _, ⟨⟩, _⟩
  | ok found =>
      cases found with
      | none =>
          constructor
          · rintro ⟨⟩
          · rintro ⟨_, _, ⟨⟩, _⟩
      | some resolution =>
          change Except.ok (resolution.settles conflict) = .ok true ↔ _
          rw [Resolution.settles]
          cases conflict.tip with
          | none => simp
          | some tip => simp

end Conflict

/-! ## What a call leaves alone -/

/-- What a property of a stored file is, as far as the file can be read. -/
def Workspace.property {ι : Type} (workspace : Workspace Store ι) (name property : String) :
    Except Fault (Option (Option String)) :=
  (workspace.loaded name).map (Option.map (NameMap.get? · property))

/-- One workspace is as another in all but the artifact, the mark, the resolution and the index
entry of a file. -/
structure Workspace.Spared (name : String) (before after : Workspace Store Index) : Prop where
  poisoned : after.store.poisoned = before.store.poisoned
  /-- Other files keep their documents. -/
  files : ∀ other, other ≠ name →
    after.store.tables.files.get? other = before.store.tables.files.get? other
  /-- All settings stay but the artifact of the file. -/
  settings : ∀ key, key ≠ Artifact.key name →
    after.store.tables.settings.get? key = before.store.tables.settings.get? key
  /-- The index knows the same of other files. -/
  indexed : ∀ other, other ≠ name → after.index.files.get? other = before.index.files.get? other
  /-- The file keeps its properties but for the mark and the resolution. -/
  properties : ∀ property, property ≠ PropertyName.conflict → property ≠ PropertyName.resolution →
    after.property name property = before.property name property

theorem Workspace.Spared.refl (name : String) (workspace : Workspace Store Index) :
    Spared name workspace workspace where
  poisoned := rfl
  files _ _ := rfl
  settings _ _ := rfl
  indexed _ _ := rfl
  properties _ _ _ := rfl

namespace ArtifactCall

variable {call : ArtifactCall} {workspace : Workspace Store Index}

/-- A call fails and changes nothing, or it succeeds on a store that is not poisoned, with a file
that can be read. -/
theorem run_cases (call : ArtifactCall) (workspace : Workspace Store Index) :
    (∃ fault, call.run workspace = (.error fault, workspace) ∧
      workspace.loaded call.file = .error fault) ∨
    ∃ held, workspace.store.poisoned = false ∧
      workspace.store.tables.getFile call.file = .ok held := by
  cases poisoned : workspace.store.poisoned with
  | true =>
      refine .inl ⟨.storage .poisoned, ?_, ?_⟩
      · rw [run_eq_change, Artifact.change, Store.execute_of_poisoned poisoned]
      · rw [Workspace.loaded, TransactionalStorage.loadFile, Store.execute_of_poisoned poisoned]
  | false =>
      cases stored : workspace.store.tables.getFile call.file with
      | error fault =>
          refine .inl ⟨fault, run_of_unreadable poisoned stored, ?_⟩
          rw [Workspace.loaded_eq poisoned, stored]
      | ok held => exact .inr ⟨held, rfl, rfl⟩

/-- A call succeeds exactly if the file can be read. -/
theorem run_succeeds_iff :
    (call.run workspace).1 = .ok () ↔ ∃ held, workspace.loaded call.file = .ok held := by
  rcases run_cases call workspace with ⟨fault, failed, unread⟩ | ⟨held, sound, stored⟩
  · rw [failed, unread]
    simp
  · obtain ⟨after, -, -, -, ran⟩ := run_eq sound stored
    rw [ran, Workspace.loaded_eq sound, stored]
    exact iff_of_true rfl ⟨held, rfl⟩

/-- A call that fails has changed nothing. -/
theorem snd_run_of_error {fault : Fault} (failed : (call.run workspace).1 = .error fault) :
    (call.run workspace).2 = workspace := by
  rcases run_cases call workspace with ⟨_, kept, -⟩ | ⟨held, sound, stored⟩
  · rw [kept]
  · obtain ⟨after, -, -, -, ran⟩ := run_eq sound stored
    rw [ran] at failed
    cases failed

/-- **A call spares all but the artifact, the mark, the resolution and the index entry of its
file.** -/
theorem spared_of_run (call : ArtifactCall) (workspace : Workspace Store Index) :
    Workspace.Spared call.file workspace (call.run workspace).2 := by
  rcases run_cases call workspace with ⟨fault, failed, -⟩ | ⟨held, sound, stored⟩
  · rw [failed]
    exact .refl _ _
  · have read := (Workspace.loaded_eq sound call.file).trans stored
    have edited := (readings_of_run sound read).1
    obtain ⟨after, sound_after, tables, index, ran⟩ := run_eq sound stored
    rw [ran] at edited ⊢
    dsimp only at edited ⊢
    constructor
    · rw [sound_after, sound]
    · intro other elsewhere
      rw [tables, Tables.get?_files_editFile_of_ne elsewhere, files_record]
    · intro key other
      rw [tables, Tables.settings_editFile, get?_settings_record, if_neg other]
    · intro other elsewhere
      rw [index, Artifact.get?_reindexed_of_ne elsewhere]
    · intro property not_mark not_resolution
      rw [Workspace.property, Workspace.property, edited, read]
      cases held with
      | none => rfl
      | some properties =>
          change Except.ok (some ((call.edit properties).get? property)) = _
          rw [call.get?_edit_of_ne properties not_mark not_resolution]
          rfl

end ArtifactCall

namespace Round

/-! ## Grounds -/

/-- The grounds on which content may be transferred over what is held of a file, if anything is. -/
inductive Grounds (incoming : Properties) : Option Properties → Prop
  /-- Nothing is held. -/
  | new : Grounds incoming none
  /-- The revision that comes in goes on from the one held. -/
  | descends {held : Properties} {lineage source : Lineage}
      (held_read : Lineage.ofProperties held = .ok lineage)
      (read : Lineage.ofProperties incoming = .ok source)
      (different : lineage.current ≠ source.current) (known : lineage.current ∈ source.history) :
      Grounds incoming (some held)
  /-- They are in conflict, and the resolution that is held is for the remote side and names the
  server of the last revision before the remote one. -/
  | settled {held : Properties} {source : Lineage} {conflict : Conflict} {resolution : Resolution}
      {tip : Revision} (diverged : Conflict.ofProperties held incoming = .ok (some conflict))
      (read : Lineage.ofProperties incoming = .ok source)
      (decided : Resolution.ofProperties held = .ok (some resolution))
      (remote : resolution.strategy = .takeRemote) (last : source.history.getLast? = some tip)
      (same : tip.server = resolution.server) : Grounds incoming (some held)

section Grounds

variable {held incoming : Properties} {lineage source : Lineage}
variable (held_read : Lineage.ofProperties held = .ok lineage)
variable (read : Lineage.ofProperties incoming = .ok source)
include held_read read

/-- Without a conflict there are grounds unless the revisions are the same. -/
theorem grounds_iff_of_agreed (agreed : Conflict.between lineage source = none) :
    Grounds incoming (some held) ↔ lineage.sameRevision source = false := by
  rw [Lineage.sameRevision, decide_eq_false_iff_not]
  constructor
  · intro grounds
    cases grounds with
    | descends held_read_too read_too different _ =>
        obtain rfl := Except.ok.inj (held_read.symm.trans held_read_too)
        obtain rfl := Except.ok.inj (read.symm.trans read_too)
        exact different
    | settled diverged =>
        rw [Conflict.ofProperties_eq held_read read, agreed] at diverged
        cases diverged
  · intro different
    rcases Conflict.between_eq_none_iff.mp agreed with same | known
    · exact absurd same different
    · exact .descends held_read read different known

/-- In a conflict there are grounds exactly if it is settled. -/
theorem grounds_iff_of_diverged {conflict : Conflict}
    (diverged : Conflict.between lineage source = some conflict) :
    Grounds incoming (some held) ↔ conflict.isSettled held = .ok true := by
  have found : Conflict.ofProperties held incoming = .ok (some conflict) := by
    rw [Conflict.ofProperties_eq held_read read, diverged]
  have tip : conflict.tip = source.history.getLast? := by
    rw [Conflict.eq_of_between diverged, Conflict.tip]
  rw [Conflict.isSettled_eq_true_iff]
  constructor
  · intro grounds
    cases grounds with
    | descends held_read_too read_too different known =>
        obtain rfl := Except.ok.inj (held_read.symm.trans held_read_too)
        obtain rfl := Except.ok.inj (read.symm.trans read_too)
        rw [Conflict.between_eq_none_iff.mpr (.inr known)] at diverged
        cases diverged
    | settled _ read_too decided remote last same =>
        -- the last revision of the source is the one that the conflict names
        obtain rfl := Except.ok.inj (read.symm.trans read_too)
        exact ⟨_, _, decided, remote, tip.trans last, same⟩
  · rintro ⟨resolution, last, decided, remote, tip_is, same⟩
    exact .settled found read decided remote (tip.symm.trans tip_is) same

end Grounds

section Decided

variable {σ ι : Type} [TransactionalStorage σ] [SearchIndex ι]
variable {name : String} {held incoming : Properties} {workspace : Workspace σ ι}
variable {decision : Decision}

/-- Where nothing is held a round that succeeds finds a new file. -/
theorem eq_newFile_of_evaluate
    (decided : (evaluate name none incoming workspace).1 = .ok decision) : decision = .newFile := by
  rw [evaluate] at decided
  split at decided
  · cases decided
  · exact (Except.ok.inj decided).symm

/-- A round that succeeds has read both lineages. -/
theorem reads_of_evaluate
    (decided : (evaluate name (some held) incoming workspace).1 = .ok decision) :
    ∃ lineage source, Lineage.ofProperties held = .ok lineage ∧
      Lineage.ofProperties incoming = .ok source := by
  rw [evaluate] at decided
  split at decided
  · cases decided
  · next source read =>
    dsimp only at decided
    rw [evaluateHeld] at decided
    split at decided
    · cases decided
    · next lineage held_read => exact ⟨lineage, source, held_read, read⟩

/-- What a round decides about is the conflict of the properties, if there is one. -/
theorem ofProperties_of_evaluate
    (decided : (evaluate name (some held) incoming workspace).1 = .ok decision) :
    Conflict.ofProperties held incoming = .ok decision.conflict? := by
  obtain ⟨lineage, source, held_read, read⟩ := reads_of_evaluate decided
  rw [Conflict.ofProperties_eq held_read read]
  congr 1
  cases divergence : Conflict.between lineage source with
  | none =>
      rw [evaluate_of_between_none held_read read divergence] at decided
      rw [← Except.ok.inj decided]
      cases lineage.sameRevision source <;> rfl
  | some conflict => exact (conflict?_of_between held_read read divergence decided).symm

/-- A round lets content through only on the grounds there are, and on all of them. -/
theorem mayTransfer_iff_of_evaluate
    (decided : (evaluate name (some held) incoming workspace).1 = .ok decision) :
    decision.mayTransfer = true ↔ Grounds incoming (some held) := by
  obtain ⟨lineage, source, held_read, read⟩ := reads_of_evaluate decided
  cases divergence : Conflict.between lineage source with
  | none =>
      rw [grounds_iff_of_agreed held_read read divergence]
      rw [evaluate_of_between_none held_read read divergence] at decided
      rw [← Except.ok.inj decided]
      cases lineage.sameRevision source <;> simp [Decision.mayTransfer]
  | some conflict =>
      rw [grounds_iff_of_diverged held_read read divergence]
      rw [evaluate_of_between_some held_read read divergence, handle] at decided
      split at decided
      · cases decided
      · next settled =>
        rw [← decision_of_map decided, settled]
        exact iff_of_true rfl rfl
      · next unsettled =>
        rw [← decision_of_map decided, unsettled]
        simp [Decision.mayTransfer]

end Decided

/-! ## Effects -/

/-- The call about the artifact of a file that goes with a decision. -/
def call? (name : String) : Decision → Option ArtifactCall
  | .settled _ => some (.remove name)
  | .conflict divergence => some (.create name divergence)
  | _ => none

section Call

variable {name : String} {decision : Decision} {call : ArtifactCall}
variable (called : call? name decision = some call)
include called

theorem file_of_call? : call.file = name := by
  cases decision <;> cases called <;> rfl

theorem conflict?_ne_none_of_call? : decision.conflict? ≠ none := by
  cases decision <;> cases called <;> exact nofun

end Call

/-- A round ends without touching anything, or it is the call that goes with what it decides. -/
theorem evaluate_effect {ι : Type} [SearchIndex ι] (name : String) (held : Option Properties)
    (incoming : Properties) (workspace : Workspace Store ι) :
    (∃ answer, evaluate name held incoming workspace = (answer, workspace) ∧
      ∀ decision, answer = .ok decision → decision.conflict? = none) ∨
    ∃ decision call, call? name decision = some call ∧
      evaluate name held incoming workspace =
        ((call.run workspace).1.map fun _ => decision, (call.run workspace).2) := by
  cases held with
  | none =>
      cases read : Lineage.ofProperties incoming with
      | error fault =>
          refine .inl ⟨.error fault, by rw [evaluate, read], ?_⟩
          rintro _ ⟨⟩
      | ok source =>
          refine .inl ⟨.ok .newFile, evaluate_none read, ?_⟩
          rintro _ ⟨⟩
          rfl
  | some properties =>
      rcases evaluate_outcomes name properties incoming workspace with
        ⟨answer, untouched, agreed⟩ | ⟨conflict, removed | created⟩
      · refine .inl ⟨answer, untouched, fun decision decided => ?_⟩
        rcases agreed decision decided with rfl | rfl <;> rfl
      · exact .inr ⟨.settled conflict, .remove name, rfl, removed⟩
      · exact .inr ⟨.conflict conflict, .create name conflict, rfl, created⟩

section Success

variable {name : String} {held : Option Properties} {incoming : Properties}
variable {workspace : Workspace Store Index}

/-- A round in a conflict succeeds exactly if the resolution that is held and the file that is
stored can be read. -/
theorem handle_succeeds_iff {properties : Properties} {conflict : Conflict} :
    (∃ decision, (handle name properties conflict workspace).1 = .ok decision) ↔
      (∃ resolution, Resolution.ofProperties properties = .ok resolution) ∧
        ∃ stored, workspace.loaded name = .ok stored := by
  rw [handle, Conflict.isSettled]
  cases Resolution.ofProperties properties with
  | error fault => simp [Except.map]
  | ok resolution =>
      have called (call : ArtifactCall) (about : call.file = name) (decided : Decision) :
          (∃ decision, ((call.run workspace).1.map fun _ => decided) = .ok decision) ↔
            ∃ stored, workspace.loaded name = .ok stored := by
        rw [← about, ← ArtifactCall.run_succeeds_iff]
        cases (call.run workspace).1 <;> simp [Except.map]
      rw [and_iff_right ⟨resolution, rfl⟩, Except.map]
      dsimp only
      split
      · next failed => cases failed
      · exact called (.remove name) rfl (.settled conflict)
      · exact called (.create name conflict) rfl (.conflict conflict)

/-- Whether all can be read that a round has to look at: both lineages, and in a conflict the
resolution that is held and the file that is stored. -/
structure Readable (name : String) (held : Option Properties) (incoming : Properties)
    (workspace : Workspace Store Index) : Prop where
  source : ∃ source, Lineage.ofProperties incoming = .ok source
  lineage : ∀ properties, held = some properties →
    ∃ lineage, Lineage.ofProperties properties = .ok lineage
  conflict : ∀ properties conflict, held = some properties →
    Conflict.ofProperties properties incoming = .ok (some conflict) →
      (∃ resolution, Resolution.ofProperties properties = .ok resolution) ∧
        ∃ stored, workspace.loaded name = .ok stored

theorem evaluate_succeeds_iff :
    (∃ decision, (evaluate name held incoming workspace).1 = .ok decision) ↔
      Readable name held incoming workspace := by
  constructor
  · rintro ⟨decision, decided⟩
    cases held with
    | none =>
        rw [evaluate] at decided
        split at decided
        · cases decided
        · next source read =>
          refine ⟨⟨source, read⟩, ?_, ?_⟩
          · rintro _ ⟨⟩
          · rintro _ _ ⟨⟩
    | some properties =>
        obtain ⟨lineage, source, held_read, read⟩ := reads_of_evaluate decided
        refine ⟨⟨source, read⟩, ?_, ?_⟩
        · rintro _ ⟨⟩
          exact ⟨lineage, held_read⟩
        · rintro _ conflict ⟨⟩ diverged
          rw [Conflict.ofProperties_eq held_read read] at diverged
          rw [evaluate_of_between_some held_read read (Except.ok.inj diverged)] at decided
          exact handle_succeeds_iff.mp ⟨decision, decided⟩
  · rintro ⟨⟨source, read⟩, lineages, conflicts⟩
    cases held with
    | none => exact ⟨.newFile, by rw [evaluate_none read]⟩
    | some properties =>
        obtain ⟨lineage, held_read⟩ := lineages properties rfl
        cases divergence : Conflict.between lineage source with
        | none => exact ⟨_, by rw [evaluate_of_between_none held_read read divergence]⟩
        | some conflict =>
            rw [evaluate_of_between_some held_read read divergence]
            apply handle_succeeds_iff.mpr
            apply conflicts properties conflict rfl
            rw [Conflict.ofProperties_eq held_read read, divergence]

end Success

section Remains

variable (name : String) (held : Option Properties) (incoming : Properties)
variable (workspace : Workspace Store Index)

theorem spared_of_evaluate :
    Workspace.Spared name workspace (evaluate name held incoming workspace).2 := by
  rcases evaluate_effect name held incoming workspace with
    ⟨answer, untouched, -⟩ | ⟨decision, call, called, effect⟩
  · rw [untouched]
    exact .refl name workspace
  · rw [effect, ← file_of_call? called]
    exact call.spared_of_run workspace

variable {name held incoming workspace}

/-- A round that decides about no conflict leaves the workspace as it is. -/
theorem snd_evaluate_of_neutral {decision : Decision}
    (decided : (evaluate name held incoming workspace).1 = .ok decision)
    (neutral : decision.conflict? = none) :
    (evaluate name held incoming workspace).2 = workspace := by
  rcases evaluate_effect name held incoming workspace with
    ⟨answer, untouched, -⟩ | ⟨other, call, called, effect⟩
  · rw [untouched]
  · rw [effect] at decided
    rw [← decision_of_map decided] at neutral
    exact absurd neutral (conflict?_ne_none_of_call? called)

/-- A round that fails leaves the workspace as it is. -/
theorem snd_evaluate_of_error {fault : Fault}
    (failed : (evaluate name held incoming workspace).1 = .error fault) :
    (evaluate name held incoming workspace).2 = workspace := by
  rcases evaluate_effect name held incoming workspace with
    ⟨answer, untouched, -⟩ | ⟨decision, call, -, effect⟩
  · rw [untouched]
  · rw [effect] at failed ⊢
    cases answer : (call.run workspace).1 with
    | ok _ =>
        rw [answer] at failed
        cases failed
    | error cause => exact call.snd_run_of_error answer

end Remains

/-! ## The gate -/

/-- **A round opens the gate on the grounds there are and on no others, and touches nothing but the
artifact of its file.** This holds at every workspace, also one with a poisoned store or with
documents that nobody can read. A round that fails has changed nothing, and one succeeds exactly
if all that it has to look at can be read. -/
theorem evaluate_gate (name : String) (held : Option Properties) (incoming : Properties)
    (workspace : Workspace Store Index) :
    (∀ decision after, evaluate name held incoming workspace = (.ok decision, after) →
      (decision.mayTransfer = true ↔ Grounds incoming held) ∧
      (∀ conflict, decision.conflict? = some conflict → ∃ properties, held = some properties ∧
        Conflict.ofProperties properties incoming = .ok (some conflict)) ∧
      Workspace.Spared name workspace after ∧
      (decision.conflict? = none → after = workspace)) ∧
    (∀ fault after, evaluate name held incoming workspace = (.error fault, after) →
      after = workspace) ∧
    ((∃ decision, (evaluate name held incoming workspace).1 = .ok decision) ↔
      Readable name held incoming workspace) := by
  refine ⟨?_, ?_, evaluate_succeeds_iff⟩
  · intro decision after evaluated
    have decided := congrArg Prod.fst evaluated
    have left : (evaluate name held incoming workspace).2 = after := congrArg Prod.snd evaluated
    rw [← left]
    refine ⟨?_, ?_, spared_of_evaluate name held incoming workspace,
      snd_evaluate_of_neutral decided⟩
    · cases held with
      | none =>
          rw [eq_newFile_of_evaluate decided]
          exact iff_of_true rfl .new
      | some properties => exact mayTransfer_iff_of_evaluate decided
    · intro conflict about
      cases held with
      | none =>
          rw [eq_newFile_of_evaluate decided] at about
          cases about
      | some properties =>
          refine ⟨properties, rfl, ?_⟩
          rw [ofProperties_of_evaluate decided, about]
  · intro fault after evaluated
    have left : (evaluate name held incoming workspace).2 = after := congrArg Prod.snd evaluated
    rw [← left]
    exact snd_evaluate_of_error (congrArg Prod.fst evaluated)

/-- A conflict that is settled for the remote side. The content may be transferred, and the other
file that is stored stays as it is. -/
theorem evaluate_gate_of_settled :
    let resolution : Resolution := ⟨.takeRemote, "c", 7⟩
    let held : Properties := resolution.writeTo ((⟨⟨"b", 1⟩, []⟩ : Lineage).writeTo .empty)
    let incoming : Properties := (⟨⟨"a", 2⟩, [⟨"c", 5⟩]⟩ : Lineage).writeTo .empty
    let tables : Tables := (({} : Tables).putFile "file" held).putFile "files" incoming
    let workspace : Workspace Store Index := ⟨{ tables }, {}⟩
    ∃ after, evaluate "file" (some held) incoming workspace =
        (.ok (.settled ⟨⟨"b", 1⟩, ⟨"a", 2⟩, [⟨"c", 5⟩]⟩), after) ∧
      Grounds incoming (some held) ∧
      after.store.tables.files.get? "files" = some incoming.toDocument := by
  intro resolution held incoming tables workspace
  have shown : held.Show ⟨⟨"b", 1⟩, []⟩ (some resolution) :=
    (Properties.Show.writeTo (by decide) Resolution.ofProperties_empty).resolve resolution
  have read : Lineage.ofProperties incoming = .ok ⟨⟨"a", 2⟩, [⟨"c", 5⟩]⟩ :=
    Lineage.ofProperties_writeTo (by decide) .empty
  have stored : tables.getFile "file" = .ok (some held) := by
    rw [Tables.getFile_putFile, if_neg (by decide), Tables.getFile_putFile, if_pos rfl]
  have sound : workspace.store.poisoned = false := rfl
  obtain ⟨after, -, -, evaluated⟩ := evaluate_eq sound shown read stored
  obtain ⟨gate, -, spared, -⟩ :=
    (evaluate_gate "file" (some held) incoming workspace).1 _ after evaluated
  refine ⟨after, evaluated, gate.mp rfl, ?_⟩
  rw [spared.files "files" (by decide)]
  exact (NameMap.get?_insert _ _ _ _).trans (if_pos rfl)

end Round

end ReplicaSync
