import ReplicaSync.Proofs.Revision.Documents
import ReplicaSync.Storage.Store

/-!
# Files in a store

A file that has been stored is read back as it was stored, and the other files stay as they are
(`Tables.getFile_putFile`). A store that is not poisoned answers a batch by following it through
the tables. So reading a file leaves such a store as it is (`Store.loadFile_eq`), and storing one
changes the tables and nothing else that matters (`Store.storeFile_eq`).
-/

set_option autoImplicit false

namespace ReplicaSync

namespace Tables

variable (tables : Tables)

/-- **A file is read as it was stored, and every other file as before.** -/
theorem getFile_putFile (name other : String) (properties : Properties) :
    (tables.putFile name properties).getFile other =
      if other = name then .ok (some properties) else tables.getFile other := by
  rw [getFile, putFile, NameMap.get?_insert]
  by_cases same : other = name
  · rw [if_pos same, if_pos same]
    dsimp only
    rw [Properties.ofDocument_toDocument]
    rfl
  · rw [if_neg same, if_neg same]
    rfl

@[simp] theorem getFile_putSetting (key value other : String) :
    (tables.putSetting key value).getFile other = tables.getFile other := rfl

@[simp] theorem getFile_eraseSetting (key other : String) :
    (tables.eraseSetting key).getFile other = tables.getFile other := rfl

end Tables

namespace Store

variable {α : Type}

/-- The store after a batch that ended with a value. -/
def afterBatch (store : Store) (work : Batch α) : Store :=
  { store with
    tables := (work.run [] store.tables).tables
    logged := store.logged || work.changes store.tables }

@[simp] theorem afterBatch_poisoned (store : Store) (work : Batch α) :
    (store.afterBatch work).poisoned = store.poisoned := rfl

@[simp] theorem afterBatch_tables (store : Store) (work : Batch α) :
    (store.afterBatch work).tables = (work.run [] store.tables).tables := rfl

/-- A poisoned store refuses a batch and stays as it is. -/
theorem execute_of_poisoned {store : Store} (poisoned : store.poisoned = true)
    (work : Batch α) :
    TransactionalStorage.execute work store = (.error (.storage .poisoned), store) := by
  have refused : Store.batch work store = (.refused (.storage .poisoned), store) := by
    rw [Store.batch, if_pos poisoned]
  change ((Store.batch work store).1.result, (Store.batch work store).2) = _
  rw [refused]
  rfl

variable {store : Store} (sound : store.poisoned = false)
include sound

/-- A store that is not poisoned takes a batch as a whole, whichever way it ends. -/
theorem execute_eq (work : Batch α) :
    TransactionalStorage.execute work store =
      match (work.run [] store.tables).ending with
      | .done value => (.ok value, store.afterBatch work)
      | .failed fault => (.error fault, store)
      | .brokeDown => (.error (.storage .poisoned), { store with poisoned := true }) := by
  have unfolded : TransactionalStorage.execute work store =
      ((Store.batch work store).1.result, (Store.batch work store).2) := rfl
  rw [unfolded, Store.batch, sound, afterBatch, sound]
  obtain ⟨answers, ending, tables⟩ := work.run [] store.tables
  cases ending <;> rfl

/-- **A batch that ends with a value takes effect as a whole.** -/
theorem execute_of_done {work : Batch α} {value : α}
    (ending : (work.run [] store.tables).ending = .done value) :
    TransactionalStorage.execute work store = (.ok value, store.afterBatch work) := by
  rw [execute_eq sound, ending]

/-- A batch that fails leaves the store as it is. -/
theorem execute_of_failed {work : Batch α} {fault : Fault}
    (ending : (work.run [] store.tables).ending = .failed fault) :
    TransactionalStorage.execute work store = (.error fault, store) := by
  rw [execute_eq sound, ending]

theorem loadFile_eq (name : String) :
    TransactionalStorage.loadFile name store = (store.tables.getFile name, store) := by
  rw [TransactionalStorage.loadFile]
  cases found : store.tables.getFile name with
  | error fault =>
      apply execute_of_failed sound
      rw [Batch.loadFile, Batch.run, found]
      rfl
  | ok properties =>
      have run : (Batch.loadFile name).run [] store.tables =
          ⟨[.file properties], .done properties, store.tables⟩ := by
        rw [Batch.loadFile, Batch.run, found]
        rfl
      have unchanged : (Batch.loadFile name).changes store.tables = false := by
        rw [Batch.loadFile, Batch.changes, found]
        rfl
      have ending : ((Batch.loadFile name).run [] store.tables).ending = .done properties := by
        rw [run]
      rw [execute_of_done sound ending, afterBatch, run, unchanged, Bool.or_false]

omit sound in
/-- Reading a file leaves a store as it is, poisoned or not. -/
theorem snd_loadFile (store : Store) (name : String) :
    (TransactionalStorage.loadFile name store).2 = store := by
  cases poisoned : store.poisoned with
  | true => rw [TransactionalStorage.loadFile, execute_of_poisoned poisoned]
  | false => rw [loadFile_eq poisoned]

theorem loadSetting_eq (key : String) :
    TransactionalStorage.loadSetting key store = (.ok (store.tables.settings.get? key), store) := by
  have ending : ((Batch.loadSetting key).run [] store.tables).ending =
      .done (store.tables.settings.get? key) := rfl
  have run : (Batch.loadSetting key).run [] store.tables =
      ⟨[.setting (store.tables.settings.get? key)], .done (store.tables.settings.get? key),
        store.tables⟩ := rfl
  have unchanged : (Batch.loadSetting key).changes store.tables = false := rfl
  rw [TransactionalStorage.loadSetting, execute_of_done sound ending, afterBatch, run, unchanged,
    Bool.or_false]

/-- Storing a file. -/
theorem storeFile_eq (name : String) (properties : Properties) :
    TransactionalStorage.storeFile name properties store =
      (.ok (), store.afterBatch (.storeFile name properties)) :=
  execute_of_done sound rfl

end Store

end ReplicaSync
