import ReplicaSync.Proofs.Conflict.Artifacts

/-!
# Calls about artifacts

Setting an artifact up and clearing it away are two calls of one kind. A call changes the setting of
the artifact, edits the properties of the file, and tells the index (`ArtifactCall.run_eq`). After
it the file reads as edited, and the artifact is what the call leaves
(`ArtifactCall.readings_of_run`). A call on a file that cannot be read fails and changes nothing
(`ArtifactCall.run_of_unreadable`).

Of other files a call changes nothing, also where the one name begins with the other
(`ArtifactCall.traces_run_of_ne`).
-/

set_option autoImplicit false

namespace ReplicaSync

/-- A call that sets the artifact of a file up, or clears it away. -/
inductive ArtifactCall where
  | create (name : String) (conflict : Conflict)
  | remove (name : String)
  deriving DecidableEq

namespace ArtifactCall

/-- The file that a call is about. -/
def file : ArtifactCall → String
  | .create name _ => name
  | .remove name => name

/-- The artifact that a call leaves. -/
def artifact? : ArtifactCall → Option Conflict
  | .create _ conflict => some conflict
  | .remove _ => none

/-- The properties after a call, of a file that has some. -/
def edit : ArtifactCall → Properties → Properties
  | .create _ _ => Artifact.mark
  | .remove _ => Artifact.unmark

/-- The tables after a call has changed the setting of its artifact. -/
def record (tables : Tables) : ArtifactCall → Tables
  | .create name conflict => tables.putSetting (Artifact.key name) conflict.toDocument
  | .remove name => tables.eraseSetting (Artifact.key name)

/-- The batch of a call. -/
def work : ArtifactCall → Batch Unit
  | .create name conflict => Artifact.creation name conflict
  | .remove name => Artifact.removal name

/-- Carries out a call. -/
def run {ι : Type} [SearchIndex ι] (workspace : Workspace Store ι) :
    ArtifactCall → Except Fault Unit × Workspace Store ι
  | .create name conflict => Artifact.create name conflict workspace
  | .remove name => Artifact.remove name workspace

section Record

variable {call : ArtifactCall}

@[simp] theorem files_record (tables : Tables) : (call.record tables).files = tables.files := by
  cases call <;> rfl

@[simp] theorem getFile_record (tables : Tables) (name : String) :
    (call.record tables).getFile name = tables.getFile name := by
  cases call <;> rfl

/-- A call leaves its own artifact, and no other setting changes. -/
theorem get?_settings_record (tables : Tables) (key : String) :
    (call.record tables).settings.get? key =
      if key = Artifact.key call.file then call.artifact?.map Conflict.toDocument
      else tables.settings.get? key := by
  cases call with
  | create name conflict => exact NameMap.get?_insert _ _ _ _
  | remove name => exact NameMap.get?_erase _ _ _

end Record

/-! ## One call -/

theorem get?_mark (properties : Properties) (property : String) :
    (Artifact.mark properties).get? property =
      if property = PropertyName.conflict then some "true" else properties.get? property :=
  NameMap.get?_insert _ _ _ _

theorem get?_unmark (properties : Properties) (property : String) :
    (Artifact.unmark properties).get? property =
      if property = PropertyName.resolution then none
      else if property = PropertyName.conflict then none else properties.get? property := by
  rw [Artifact.unmark, NameMap.get?_erase, NameMap.get?_erase]

/-- After a call the file is marked if and only if the call leaves an artifact. -/
theorem inConflict_edit (call : ArtifactCall) (properties : Properties) :
    (call.edit properties).inConflict = call.artifact?.isSome := by
  cases call with
  | create name conflict =>
      rw [edit, Properties.inConflict, get?_mark, if_pos rfl]
      rfl
  | remove name =>
      rw [edit, Properties.inConflict, get?_unmark, if_neg (by decide), if_pos rfl]
      rfl

theorem get?_edit_of_ne (call : ArtifactCall) (properties : Properties) {property : String}
    (not_conflict : property ≠ PropertyName.conflict)
    (not_resolution : property ≠ PropertyName.resolution) :
    (call.edit properties).get? property = properties.get? property := by
  cases call with
  | create name conflict => rw [edit, get?_mark, if_neg not_conflict]
  | remove name => rw [edit, get?_unmark, if_neg not_resolution, if_neg not_conflict]

section Call

variable {ι : Type} [SearchIndex ι] {call : ArtifactCall} {held : Option Properties}

theorem run_eq_change (workspace : Workspace Store ι) :
    call.run workspace = Artifact.change call.file call.work workspace := by
  cases call <;> rfl

/-- The batch of a call changes the setting first, and then the properties. -/
theorem run_work (tables : Tables) :
    call.work.run [] tables =
      (Artifact.editing call.file call.edit).run [.written] (call.record tables) := by
  cases call with
  | create name conflict => rw [work, Artifact.creation_eq, Batch.run]; rfl
  | remove name => rw [work, Artifact.removal_eq, Batch.run]; rfl

/-- What a call on a file that can be read makes of the store, whatever the index answers. -/
theorem store_run {workspace : Workspace Store ι} (sound : workspace.store.poisoned = false)
    (stored : workspace.store.tables.getFile call.file = .ok held) :
    (call.run workspace).2.store.poisoned = false ∧
      (call.run workspace).2.store.tables =
        (call.record workspace.store.tables).editFile call.file call.edit held := by
  obtain ⟨answers, edited⟩ :=
    Artifact.run_editing ((getFile_record _ _).trans stored) call.edit [.written]
  have ran := (run_work workspace.store.tables).trans edited
  rw [run_eq_change, Artifact.store_change, Store.execute_of_done sound (by rw [ran])]
  exact ⟨sound, by rw [Store.afterBatch_tables, ran]⟩

end Call

section IndexedCall

variable {call : ArtifactCall} {workspace : Workspace Store Index}
variable (sound : workspace.store.poisoned = false)
include sound

/-- A call on a file that can be read takes effect, and the index is told. -/
theorem run_eq {held : Option Properties}
    (stored : workspace.store.tables.getFile call.file = .ok held) :
    ∃ after : Workspace Store Index, after.store.poisoned = false ∧
      after.store.tables =
        (call.record workspace.store.tables).editFile call.file call.edit held ∧
      after.index = Artifact.reindexed call.file workspace.index (held.map call.edit) ∧
      call.run workspace = (.ok (), after) := by
  cases call with
  | create name conflict => exact Artifact.create_eq sound stored conflict
  | remove name => exact Artifact.remove_eq sound stored

/-- A call on a file that cannot be read fails, and its batch is taken back. -/
theorem run_of_unreadable {fault : Fault}
    (unreadable : workspace.store.tables.getFile call.file = .error fault) :
    call.run workspace = (.error fault, workspace) := by
  have ending : (call.work.run [] workspace.store.tables).ending = .failed fault := by
    rw [run_work]
    exact Artifact.ending_editing_of_unreadable ((getFile_record _ _).trans unreadable) _ _
  rw [run_eq_change, Artifact.change, Store.execute_of_failed sound ending]

end IndexedCall

end ArtifactCall

/-! ## What there is of a file -/

/-- What there is of a file in a workspace. -/
structure Traces where
  /-- The document of its properties. -/
  document : Option String
  /-- The setting of its artifact. -/
  setting : Option String
  /-- The properties that the index knows. -/
  indexed : Option Properties

/-- What there is of a file in a workspace. -/
def Workspace.traces (workspace : Workspace Store Index) (name : String) : Traces where
  document := workspace.store.tables.files.get? name
  setting := workspace.store.tables.settings.get? (Artifact.key name)
  indexed := workspace.index.files.get? name

namespace Workspace

section Reading

variable {ι : Type} (workspace : Workspace Store ι)

/-- What reading a file answers. -/
def loaded (name : String) : Except Fault (Option Properties) :=
  (TransactionalStorage.loadFile name workspace.store).1

/-- What looking up an artifact answers. -/
def artifact (name : String) : Except Fault (Option Conflict) :=
  (Artifact.find name workspace).1

variable {workspace}

/-- A file can only be read in a store that is not poisoned. -/
theorem sound_of_loaded {name : String} {held : Option Properties}
    (read : workspace.loaded name = .ok held) : workspace.store.poisoned = false := by
  by_contra poisoned
  rw [loaded, TransactionalStorage.loadFile,
    Store.execute_of_poisoned (Bool.not_eq_false _ ▸ poisoned)] at read
  cases read

variable {other : Workspace Store ι} (sound : workspace.store.poisoned = false)
include sound

theorem loaded_eq (name : String) :
    workspace.loaded name = workspace.store.tables.getFile name := by
  rw [loaded, Store.loadFile_eq sound]

theorem artifact_congr {name : String} (sound_other : other.store.poisoned = false)
    (same : workspace.store.tables.settings.get? (Artifact.key name) =
      other.store.tables.settings.get? (Artifact.key name)) :
    workspace.artifact name = other.artifact name := by
  rw [artifact, artifact, Artifact.find, Artifact.find, Store.loadSetting_eq sound,
    Store.loadSetting_eq sound_other, same]
  cases other.store.tables.settings.get? (Artifact.key name) <;> rfl

end Reading

section Traces

variable {workspace other : Workspace Store Index} {name : String}
variable (sound : workspace.store.poisoned = false) (sound_other : other.store.poisoned = false)
variable (same : workspace.traces name = other.traces name)
include sound sound_other same

theorem loaded_of_traces : workspace.loaded name = other.loaded name := by
  have document : workspace.store.tables.files.get? name = other.store.tables.files.get? name :=
    congrArg Traces.document same
  rw [loaded_eq sound, loaded_eq sound_other, Tables.getFile, Tables.getFile, document]

theorem artifact_of_traces : workspace.artifact name = other.artifact name :=
  artifact_congr sound sound_other (congrArg Traces.setting same)

end Traces

end Workspace

/-- **A call on one file changes nothing of another.** -/
theorem ArtifactCall.traces_run_of_ne {workspace : Workspace Store Index} {call : ArtifactCall}
    {name : String} (sound : workspace.store.poisoned = false) (elsewhere : name ≠ call.file) :
    (call.run workspace).2.traces name = workspace.traces name := by
  cases stored : workspace.store.tables.getFile call.file with
  | error fault => rw [run_of_unreadable sound stored]
  | ok held =>
      obtain ⟨after, -, tables, index, ran⟩ := run_eq sound stored
      rw [ran, Workspace.traces, Workspace.traces, tables, index, Tables.settings_editFile,
        get?_settings_record, if_neg (fun same => elsewhere (Artifact.key_injective same)),
        Tables.get?_files_editFile_of_ne elsewhere, files_record,
        Artifact.get?_reindexed_of_ne elsewhere]

namespace ArtifactCall

/-- After a call on a file that can be read, the file reads as the call has edited it, and looking
its artifact up gives what the call leaves. -/
theorem readings_of_run {ι : Type} [SearchIndex ι] {workspace : Workspace Store ι}
    {call : ArtifactCall} {held : Option Properties} (sound : workspace.store.poisoned = false)
    (read : workspace.loaded call.file = .ok held) :
    (call.run workspace).2.loaded call.file = .ok (held.map call.edit) ∧
      (call.run workspace).2.artifact call.file = .ok call.artifact? := by
  rw [Workspace.loaded_eq sound] at read
  obtain ⟨sound_after, tables⟩ := store_run sound read
  have kept : (call.run workspace).2.store.tables.settings.get? (Artifact.key call.file) =
      call.artifact?.map Conflict.toDocument := by
    rw [tables, Tables.settings_editFile, get?_settings_record, if_pos rfl]
  constructor
  · rw [Workspace.loaded_eq sound_after, tables,
      Tables.getFile_editFile ((getFile_record _ _).trans read), if_pos rfl]
  · rw [Workspace.artifact, Artifact.find_eq sound_after kept]

end ArtifactCall

end ReplicaSync
