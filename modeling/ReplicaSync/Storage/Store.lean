import ReplicaSync.Storage.PagedFile.Basic

/-!
# Stores

A store runs batches one at a time, and each as a whole. The writes of a batch take effect
together when it ends with a value. When it fails or breaks down, the tables stay as they were.
A batch that breaks down also poisons the store: it was holding the store and nobody can tell
any more what it was about, so every later batch is refused until the store is opened again.

`TransactionalStorage` is what the rest of the library needs of a store.
-/

set_option autoImplicit false

namespace ReplicaSync

/-- What a caller learns of a batch. -/
structure Outcome (α : Type) where
  /-- What the actions answered, in their order. -/
  answers : List Answer
  ending : Ending α

namespace Outcome

variable {α : Type}

/-- The outcome of a batch that was refused before its first action. -/
def refused (fault : Fault) : Outcome α := ⟨[], .failed fault⟩

/-- The value of a batch, or why there is none. To a caller that outlives a break-down, the
store is poisoned. -/
def result (outcome : Outcome α) : Except Fault α :=
  match outcome.ending with
  | .done value => .ok value
  | .failed fault => .error fault
  | .brokeDown => .error (.storage .poisoned)

end Outcome

/-- A store that runs batches. -/
class TransactionalStorage (σ : Type) where
  batch {α : Type} : Batch α → σ → Outcome α × σ

/-- Tables that can only be reached through batches. -/
structure Store where
  tables : Tables := {}
  /-- Whether an earlier batch broke down. -/
  poisoned : Bool := false
  /-- Whether anything was written since the store was opened. -/
  logged : Bool := false
  deriving DecidableEq

namespace Store

/-- Opens a store on a file with the given bytes. -/
def ofFile (content : Bytes) : Except Fault Store :=
  match PagedFile.open? content with
  | .ok contents => .ok { tables := contents.tables, logged := !contents.isComplete }
  | .error refusal => .error (.storage refusal.cause)

/-- Closes the store and opens it again. -/
def reopen (store : Store) : Store :=
  { store with poisoned := false, logged := false }

/-- Changes the document of a file from outside, without a batch. -/
def overwriteDocument (name document : String) (store : Store) : Store :=
  let tables := { store.tables with files := store.tables.files.insert name document }
  { store with tables, logged := store.logged || tables != store.tables }

/-- Runs a batch as a whole. -/
def batch {α : Type} (batch : Batch α) (store : Store) : Outcome α × Store :=
  if store.poisoned then (.refused (.storage .poisoned), store)
  else
    match batch.run [] store.tables with
    | ⟨answers, ending, tables⟩ =>
        (⟨answers.reverse, ending⟩,
          match ending with
          | .done _ => { store with tables, logged := store.logged || batch.changes store.tables }
          | .failed _ => store
          | .brokeDown => { store with poisoned := true })

end Store

instance : TransactionalStorage Store where
  batch := Store.batch

namespace TransactionalStorage

variable {σ : Type} [TransactionalStorage σ]

/-- Runs a batch for its value. -/
def execute {α : Type} (work : Batch α) (store : σ) : Except Fault α × σ :=
  match batch work store with
  | (outcome, after) => (outcome.result, after)

/-- Reads the properties of a file in a batch of its own. -/
def loadFile (name : String) (store : σ) : Except Fault (Option Properties) × σ :=
  execute (.loadFile name) store

/-- Reads a setting in a batch of its own. -/
def loadSetting (key : String) (store : σ) : Except Fault (Option String) × σ :=
  execute (.loadSetting key) store

/-- Writes the properties of a file in a batch of its own. -/
def storeFile (name : String) (properties : Properties) (store : σ) : Except Fault Unit × σ :=
  execute (.storeFile name properties) store

end TransactionalStorage

end ReplicaSync
