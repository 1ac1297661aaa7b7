import ReplicaSync.Conflict.Resolution
import ReplicaSync.Storage.Store

/-!
# Edits of stored files

Two things are done to a file on the node itself: it is written, and a conflict of it is
decided. Either is an edit of its properties, which are read in one batch and stored in
another. A file that is not stored yet starts without properties. A file whose properties show
no lineage starts a new one.
-/

set_option autoImplicit false

namespace ReplicaSync.Edit

/-- The properties after a write on a server. -/
def written (server : String) (retention : Retention) (properties : Properties) :
    Except Fault Properties :=
  match Lineage.ofProperties properties with
  | .ok lineage =>
      (lineage.write server retention).map fun lineage => lineage.writeTo properties
  | .error _ => .ok ((Lineage.first server).writeTo properties)

variable {σ : Type} [TransactionalStorage σ]

/-- Reads the properties of a file and edits them. -/
def edited (name : String) (edit : Properties → Except Fault Properties) (store : σ) :
    Except Fault Properties × σ :=
  match TransactionalStorage.loadFile name store with
  | (.error fault, store) => (.error fault, store)
  | (.ok found, store) => (edit (found.getD .empty), store)

/-- Edits the properties of a file and stores them. -/
def apply (name : String) (edit : Properties → Except Fault Properties) (store : σ) :
    Except Fault Properties × σ :=
  match edited name edit store with
  | (.error fault, store) => (.error fault, store)
  | (.ok properties, store) =>
      match TransactionalStorage.storeFile name properties store with
      | (answer, store) => (answer.map fun _ => properties, store)

/-- Records a write of a file on a server. -/
def write (name server : String) (retention : Retention) (store : σ) :
    Except Fault Properties × σ :=
  apply name (written server retention) store

/-- Records a decision about a conflict of a file. -/
def resolve (name : String) (resolution : Resolution) (store : σ) :
    Except Fault Properties × σ :=
  apply name (fun properties => .ok (resolution.writeTo properties)) store

end ReplicaSync.Edit
