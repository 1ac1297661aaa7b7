import ReplicaSync.Revision.Properties

/-!
# Tables and batches

A store has two tables: the properties of files, kept as JSON documents under the names of the
files, and settings, texts under keys.

A batch is a program that reads and writes the tables. What it does next may depend on what it
has read, also on a document that could not be read. It ends with a value, with a fault, or by
breaking down. `Batch.run` follows a batch through the tables, one action after the other, and
notes what each action answered, and `Batch.changes` tells whether an action changes the tables.
What becomes of the writes is for the store to say.
-/

set_option autoImplicit false

universe u v

namespace ReplicaSync

/-- The tables of a store. -/
structure Tables where
  /-- The documents of properties under the names of files. -/
  files : NameMap String := .empty
  /-- Texts under keys. -/
  settings : NameMap String := .empty
  deriving DecidableEq

namespace Tables

/-- Reads the properties of a file. -/
def getFile (tables : Tables) (name : String) : Except Fault (Option Properties) :=
  match tables.files.get? name with
  | none => .ok none
  | some document => (Properties.ofDocument document).map some

/-- Writes the properties of a file. -/
def putFile (tables : Tables) (name : String) (properties : Properties) : Tables :=
  { tables with files := tables.files.insert name properties.toDocument }

/-- Writes a setting. -/
def putSetting (tables : Tables) (key value : String) : Tables :=
  { tables with settings := tables.settings.insert key value }

/-- Removes a setting. -/
def eraseSetting (tables : Tables) (key : String) : Tables :=
  { tables with settings := tables.settings.erase key }

end Tables

/-- A program that reads and writes the tables of a store. -/
inductive Batch (α : Type u) : Type u where
  | done (value : α)
  | fail (fault : Fault)
  | breakDown
  | getFile (name : String) (next : Except Fault (Option Properties) → Batch α)
  | putFile (name : String) (properties : Properties) (next : Batch α)
  | getSetting (key : String) (next : Option String → Batch α)
  | putSetting (key value : String) (next : Batch α)
  | eraseSetting (key : String) (next : Batch α)

namespace Batch

variable {α : Type u} {β : Type v}

/-- Goes on after a batch with what its value calls for. -/
def bind : Batch α → (α → Batch β) → Batch β
  | .done value, next => next value
  | .fail fault, _ => .fail fault
  | .breakDown, _ => .breakDown
  | .getFile name following, next => .getFile name fun found => (following found).bind next
  | .putFile name properties following, next => .putFile name properties (following.bind next)
  | .getSetting key following, next => .getSetting key fun found => (following found).bind next
  | .putSetting key value following, next => .putSetting key value (following.bind next)
  | .eraseSetting key following, next => .eraseSetting key (following.bind next)

instance : Monad Batch where
  pure := .done
  bind := Batch.bind

/-- Reads the properties of a file, and fails when they cannot be read. -/
def loadFile (name : String) : Batch (Option Properties) :=
  .getFile name fun found =>
    match found with
    | .ok properties => .done properties
    | .error fault => .fail fault

/-- Writes the properties of a file. -/
def storeFile (name : String) (properties : Properties) : Batch Unit :=
  .putFile name properties (.done ())

/-- Reads a setting. -/
def loadSetting (key : String) : Batch (Option String) :=
  .getSetting key .done

/-- Writes a setting. -/
def storeSetting (key value : String) : Batch Unit :=
  .putSetting key value (.done ())

/-- Removes a setting. -/
def dropSetting (key : String) : Batch Unit :=
  .eraseSetting key (.done ())

end Batch

/-- What an action of a batch answered. -/
inductive Answer where
  | written
  | file (found : Option Properties)
  | setting (found : Option String)
  deriving DecidableEq

/-- How a batch ended. -/
inductive Ending (α : Type u) : Type u where
  | done (value : α)
  | failed (fault : Fault)
  | brokeDown

/-- A batch that has ended: what its actions answered, newest first, how it ended, and the
tables as it left them. -/
structure Run (α : Type u) : Type u where
  answers : List Answer
  ending : Ending α
  tables : Tables

/-- Follows a batch from the given tables, after actions that gave the given answers. A read
that fails gives no answer. -/
def Batch.run {α : Type u} : Batch α → List Answer → Tables → Run α
  | .done value, answers, tables => ⟨answers, .done value, tables⟩
  | .fail fault, answers, tables => ⟨answers, .failed fault, tables⟩
  | .breakDown, answers, tables => ⟨answers, .brokeDown, tables⟩
  | .getFile name next, answers, tables =>
      match tables.getFile name with
      | .ok found => (next (.ok found)).run (.file found :: answers) tables
      | .error fault => (next (.error fault)).run answers tables
  | .putFile name properties next, answers, tables =>
      next.run (.written :: answers) (tables.putFile name properties)
  | .getSetting key next, answers, tables =>
      (next (tables.settings.get? key)).run (.setting (tables.settings.get? key) :: answers) tables
  | .putSetting key value next, answers, tables =>
      next.run (.written :: answers) (tables.putSetting key value)
  | .eraseSetting key next, answers, tables =>
      next.run (.written :: answers) (tables.eraseSetting key)

/-- Whether an action of a batch changes the tables. It does so also when a later one puts back
what was there. -/
def Batch.changes {α : Type u} : Batch α → Tables → Bool
  | .done _, _ => false
  | .fail _, _ => false
  | .breakDown, _ => false
  | .getFile name next, tables => (next (tables.getFile name)).changes tables
  | .putFile name properties next, tables =>
      tables.putFile name properties != tables || next.changes (tables.putFile name properties)
  | .getSetting key next, tables => (next (tables.settings.get? key)).changes tables
  | .putSetting key value next, tables =>
      tables.putSetting key value != tables || next.changes (tables.putSetting key value)
  | .eraseSetting key next, tables =>
      tables.eraseSetting key != tables || next.changes (tables.eraseSetting key)

end ReplicaSync
