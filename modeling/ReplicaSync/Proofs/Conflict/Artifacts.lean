import ReplicaSync.Proofs.Revision.Properties
import ReplicaSync.Proofs.Storage.Files

/-!
# Setting artifacts up and clearing them away

Either changes the setting of the artifact and edits the properties of the file, if it has any,
in one batch. After that the index knows the edited properties (`Artifact.change_eq`). On a store
that is not poisoned, and for a file that can be read, neither fails. The artifact is found again as
it was set up (`Artifact.find_eq`), and the artifacts of files are kept apart, as no two files share
a key (`Artifact.key_injective`).
-/

set_option autoImplicit false

namespace ReplicaSync

/-- The tables after the properties of a file, if it has any, have been edited. -/
def Tables.editFile (name : String) (edit : Properties → Properties) (tables : Tables) :
    Option Properties → Tables
  | none => tables
  | some properties => tables.putFile name (edit properties)

theorem Tables.getFile_editFile {tables : Tables} {name : String} {held : Option Properties}
    (stored : tables.getFile name = .ok held) (edit : Properties → Properties) (other : String) :
    (tables.editFile name edit held).getFile other =
      if other = name then .ok (held.map edit) else tables.getFile other := by
  cases held with
  | none =>
      by_cases same : other = name
      · rw [if_pos same, same]
        exact stored
      · rw [if_neg same]
        rfl
  | some properties => exact tables.getFile_putFile name other (edit properties)

theorem Tables.get?_files_editFile_of_ne {name other : String} (elsewhere : other ≠ name)
    (tables : Tables) (edit : Properties → Properties) (held : Option Properties) :
    (tables.editFile name edit held).files.get? other = tables.files.get? other := by
  cases held with
  | none => rfl
  | some properties => exact (NameMap.get?_insert _ _ _ _).trans (if_neg elsewhere)

@[simp] theorem Tables.settings_editFile (tables : Tables) (name : String)
    (edit : Properties → Properties) (held : Option Properties) :
    (tables.editFile name edit held).settings = tables.settings := by
  cases held <;> rfl

namespace Artifact

/-- A batch that edits the properties of a file, if it has any. -/
def editing (name : String) (edit : Properties → Properties) : Batch Unit := do
  match ← Batch.loadFile name with
  | some properties => Batch.storeFile name (edit properties)
  | none => pure ()

theorem creation_eq (name : String) (conflict : Conflict) :
    creation name conflict =
      .putSetting (key name) conflict.toDocument (editing name mark) := rfl

theorem removal_eq (name : String) :
    removal name = .eraseSetting (key name) (editing name unmark) := rfl

theorem run_editing {tables : Tables} {name : String} {held : Option Properties}
    (stored : tables.getFile name = .ok held) (edit : Properties → Properties)
    (answers : List Answer) :
    ∃ all, (editing name edit).run answers tables =
      ⟨all, .done (), tables.editFile name edit held⟩ := by
  cases held with
  | none =>
      refine ⟨.file none :: answers, ?_⟩
      change (Batch.getFile name _).run answers tables = _
      rw [Batch.run, stored]
      rfl
  | some properties =>
      refine ⟨.written :: .file (some properties) :: answers, ?_⟩
      change (Batch.getFile name _).run answers tables = _
      rw [Batch.run, stored]
      rfl

/-- Editing a file that cannot be read fails. -/
theorem ending_editing_of_unreadable {tables : Tables} {name : String} {fault : Fault}
    (unreadable : tables.getFile name = .error fault) (edit : Properties → Properties)
    (answers : List Answer) :
    ((editing name edit).run answers tables).ending = .failed fault := by
  change ((Batch.getFile name _).run answers tables).ending = _
  rw [Batch.run, unreadable]
  rfl

/-- What the index knows after it has been told of a file. -/
def reindexed (name : String) (index : Index) : Option Properties → Index
  | none => index
  | some properties => index.update name properties

theorem get?_reindexed_of_ne {name other : String} (elsewhere : other ≠ name) (index : Index)
    (held : Option Properties) :
    (reindexed name index held).files.get? other = index.files.get? other := by
  cases held with
  | none => rfl
  | some properties => exact (NameMap.get?_insert _ _ _ _).trans (if_neg elsewhere)

/-- **A batch about a file takes effect, and the index is told of the file as it then is.** -/
theorem change_eq {name : String} {work : Batch Unit} {workspace : Workspace Store Index}
    {held : Option Properties} (sound : workspace.store.poisoned = false)
    (ending : (work.run [] workspace.store.tables).ending = .done ())
    (stored : (work.run [] workspace.store.tables).tables.getFile name = .ok held) :
    change name work workspace =
      (.ok (), ⟨workspace.store.afterBatch work, reindexed name workspace.index held⟩) := by
  have sound_after : (workspace.store.afterBatch work).poisoned = false := by
    rw [Store.afterBatch_poisoned, sound]
  rw [change, Store.execute_of_done sound ending]
  dsimp only
  rw [reindex, Store.loadFile_eq sound_after, Store.afterBatch_tables, stored]
  cases held <;> rfl

section Store

variable {ι : Type} [SearchIndex ι]

/-- Telling an index of a file leaves the store as it is. -/
theorem store_reindex (name : String) (workspace : Workspace Store ι) :
    (reindex name workspace).2.store = workspace.store := by
  have kept := workspace.store.snd_loadFile name
  rw [reindex]
  split <;>
    · next loaded =>
        rw [loaded] at kept
        exact kept

theorem store_change (name : String) (work : Batch Unit) (workspace : Workspace Store ι) :
    (change name work workspace).2.store =
      (TransactionalStorage.execute work workspace.store).2 := by
  rw [change]
  split
  · next executed => rw [executed]
  · next executed => rw [executed, store_reindex]

end Store

/-- A batch that changes settings and then edits the properties of a file. -/
theorem change_editing_eq {name : String} {work : Batch Unit}
    {workspace : Workspace Store Index} {held : Option Properties} {changed : Tables}
    {edit : Properties → Properties} (sound : workspace.store.poisoned = false)
    (run : work.run [] workspace.store.tables = (editing name edit).run [.written] changed)
    (stored : changed.getFile name = .ok held) :
    ∃ after : Workspace Store Index, after.store.poisoned = false ∧
      after.store.tables = changed.editFile name edit held ∧
      after.index = reindexed name workspace.index (held.map edit) ∧
      change name work workspace = (.ok (), after) := by
  obtain ⟨answers, edited⟩ := run_editing stored edit [.written]
  rw [edited] at run
  refine ⟨⟨workspace.store.afterBatch work, _⟩, ?_, ?_, rfl, ?_⟩
  · rw [Store.afterBatch_poisoned, sound]
  · rw [Store.afterBatch_tables, run]
  · apply change_eq sound
    · rw [run]
    · rw [run, Tables.getFile_editFile stored, if_pos rfl]

/-- Setting up the artifact of a conflict. -/
theorem create_eq {name : String} {workspace : Workspace Store Index} {held : Option Properties}
    (sound : workspace.store.poisoned = false)
    (stored : workspace.store.tables.getFile name = .ok held) (conflict : Conflict) :
    ∃ after : Workspace Store Index, after.store.poisoned = false ∧
      after.store.tables = (workspace.store.tables.putSetting (key name)
        conflict.toDocument).editFile name mark held ∧
      after.index = reindexed name workspace.index (held.map mark) ∧
      create name conflict workspace = (.ok (), after) := by
  apply change_editing_eq sound
  · rw [creation_eq, Batch.run]
  · rw [Tables.getFile_putSetting, stored]

/-- Clearing the artifact of a file away. -/
theorem remove_eq {name : String} {workspace : Workspace Store Index} {held : Option Properties}
    (sound : workspace.store.poisoned = false)
    (stored : workspace.store.tables.getFile name = .ok held) :
    ∃ after : Workspace Store Index, after.store.poisoned = false ∧
      after.store.tables =
        (workspace.store.tables.eraseSetting (key name)).editFile name unmark held ∧
      after.index = reindexed name workspace.index (held.map unmark) ∧
      remove name workspace = (.ok (), after) := by
  apply change_editing_eq sound
  · rw [removal_eq, Batch.run]
  · rw [Tables.getFile_eraseSetting, stored]

/-! ## Looking artifacts up -/

/-- Files do not share the keys of their artifacts. -/
theorem key_injective : Function.Injective key := by
  intro name other same
  have chars : keyStem.toList ++ name.toList = keyStem.toList ++ other.toList := by
    rw [← String.toList_append, ← String.toList_append]
    exact congrArg String.toList same
  exact String.toList_inj.mp (List.append_cancel_left chars)

section Lookup

variable {ι : Type} {workspace : Workspace Store ι} {name : String}

/-- An artifact can only be looked up in a store that is not poisoned. -/
theorem sound_of_find {found : Option Conflict}
    (looked_up : (find name workspace).1 = .ok found) : workspace.store.poisoned = false := by
  by_contra poisoned
  rw [find, TransactionalStorage.loadSetting,
    Store.execute_of_poisoned (Bool.not_eq_false _ ▸ poisoned)] at looked_up
  cases looked_up

/-- The artifact of a file is found as it was set up. -/
theorem find_eq {left : Option Conflict} (sound : workspace.store.poisoned = false)
    (kept : workspace.store.tables.settings.get? (key name) = left.map Conflict.toDocument) :
    find name workspace = (.ok left, workspace) := by
  rw [find, Store.loadSetting_eq sound, kept]
  cases left with
  | none => rfl
  | some conflict =>
      rw [Option.map_some]
      dsimp only
      rw [Conflict.ofDocument_toDocument]
      rfl

end Lookup

end Artifact

end ReplicaSync
