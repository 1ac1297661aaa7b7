import ReplicaSync.Conflict.Resolution
import ReplicaSync.Storage.Index
import ReplicaSync.Storage.Store

/-!
# Conflict artifacts

The artifact of an outstanding conflict is a setting that holds the conflict, under a key made
of the name of the file, together with a mark among the properties of the file. Both are changed
in one batch. The index is told afterwards of what then stands in the store, so it may lag
behind, and stays behind if telling it fails.

A file without properties can have an artifact too. It is then the setting alone, and the index
learns nothing.
-/

set_option autoImplicit false

namespace ReplicaSync

/-- A store and the index that follows it. -/
structure Workspace (σ ι : Type) where
  store : σ
  index : ι

namespace Artifact

/-- What the keys of artifacts begin with. -/
def keyStem : String := "conflict-for:"

/-- The key of the artifact of a file. -/
def key (name : String) : String := keyStem ++ name

/-- Properties with the mark of an outstanding conflict. -/
def mark (properties : Properties) : Properties :=
  properties.insert PropertyName.conflict "true"

/-- Properties without the mark and without a resolution. -/
def unmark (properties : Properties) : Properties :=
  (properties.erase PropertyName.conflict).erase PropertyName.resolution

/-- The batch that sets up an artifact. -/
def creation (name : String) (conflict : Conflict) : Batch Unit := do
  Batch.storeSetting (key name) conflict.toDocument
  match ← Batch.loadFile name with
  | some properties => Batch.storeFile name (mark properties)
  | none => pure ()

/-- The batch that clears an artifact away. -/
def removal (name : String) : Batch Unit := do
  Batch.dropSetting (key name)
  match ← Batch.loadFile name with
  | some properties => Batch.storeFile name (unmark properties)
  | none => pure ()

variable {σ ι : Type} [TransactionalStorage σ] [SearchIndex ι]

/-- Tells the index what stands in the store for a file. -/
def reindex (name : String) (workspace : Workspace σ ι) :
    Except Fault Unit × Workspace σ ι :=
  match TransactionalStorage.loadFile name workspace.store with
  | (.error fault, store) => (.error fault, { workspace with store })
  | (.ok none, store) => (.ok (), { workspace with store })
  | (.ok (some properties), store) =>
      match SearchIndex.update name properties workspace.index with
      | (answer, index) => (answer, ⟨store, index⟩)

/-- Runs a batch about a file and tells the index. -/
def change (name : String) (work : Batch Unit) (workspace : Workspace σ ι) :
    Except Fault Unit × Workspace σ ι :=
  match TransactionalStorage.execute work workspace.store with
  | (.error fault, store) => (.error fault, { workspace with store })
  | (.ok (), store) => reindex name { workspace with store }

/-- Sets up the artifact of a conflict. -/
def create (name : String) (conflict : Conflict) (workspace : Workspace σ ι) :
    Except Fault Unit × Workspace σ ι :=
  change name (creation name conflict) workspace

/-- Clears the artifact of a file away. -/
def remove (name : String) (workspace : Workspace σ ι) :
    Except Fault Unit × Workspace σ ι :=
  change name (removal name) workspace

/-- The conflict that the artifact of a file holds, if there is one. -/
def find (name : String) (workspace : Workspace σ ι) :
    Except Fault (Option Conflict) × Workspace σ ι :=
  match TransactionalStorage.loadSetting (key name) workspace.store with
  | (.error fault, store) => (.error fault, { workspace with store })
  | (.ok none, store) => (.ok none, { workspace with store })
  | (.ok (some document), store) =>
      ((Conflict.ofDocument document).map some, { workspace with store })

end Artifact

end ReplicaSync
