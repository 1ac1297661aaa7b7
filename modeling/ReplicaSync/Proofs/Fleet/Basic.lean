import Mathlib.Logic.Function.Basic
import ReplicaSync.Round.Decision
import ReplicaSync.Round.Edit

/-!
# Fleets

A fleet holds one file on many nodes. Every node has a store and an index of its own and the
content of the file. In a step a node writes the file, pulls it from another node, or records a
decision about a conflict. A pull runs a round with what the node has stored, and if the content
may be transferred, the node takes over the properties and the content of the other node.

A run is any finite sequence of steps. It ends with a fault as soon as a step fails. A fleet is
what a network of nodes is to one file (`Network.Runs.fleet_run`).
-/

set_option autoImplicit false

namespace ReplicaSync

/-- A node, as far as one file goes. -/
structure Replica where
  workspace : Workspace Store Index := ⟨{}, {}⟩
  content : Bytes := []

/-- The replicas of a file under the servers of their nodes. -/
abbrev Fleet := String → Replica

/-- What a node does. -/
inductive Step where
  | write (server : String) (content : Bytes)
  | pull (destination source : String)
  | resolve (server : String) (resolution : Resolution)
  deriving DecidableEq

namespace Step

/-- Whether a step is a write. -/
def isWrite : Step → Bool
  | .write .. => true
  | _ => false

/-- Whether a step decides about a conflict. -/
def isResolve : Step → Bool
  | .resolve .. => true
  | _ => false

end Step

/-- The number of writes among some steps. -/
def writes (steps : List Step) : Nat :=
  steps.countP Step.isWrite

namespace Replica

/-- The properties that a node has stored for a file. -/
def properties (name : String) (replica : Replica) : Except Fault (Option Properties) :=
  (TransactionalStorage.loadFile name replica.workspace.store).1

/-- Writes the file on a server. -/
def write (name : String) (retention : Retention) (server : String) (content : Bytes)
    (replica : Replica) : Except Fault Replica :=
  match Edit.write name server retention replica.workspace.store with
  | (.error fault, _) => .error fault
  | (.ok _, store) => .ok ⟨{ replica.workspace with store }, content⟩

/-- Records a decision about a conflict of the file. -/
def resolve (name : String) (resolution : Resolution) (replica : Replica) :
    Except Fault Replica :=
  match Edit.resolve name resolution replica.workspace.store with
  | (.error fault, _) => .error fault
  | (.ok _, store) => .ok { replica with workspace := { replica.workspace with store } }

/-- Holds the file from now on with the given properties and content. -/
def take (name : String) (incoming : Properties) (content : Bytes) (replica : Replica) :
    Except Fault Replica :=
  match TransactionalStorage.storeFile name incoming replica.workspace.store with
  | (.error fault, _) => .error fault
  | (.ok (), store) => .ok ⟨{ replica.workspace with store }, content⟩

/-- Runs a round with properties and a content that come in, and follows its decision. -/
def accept (name : String) (incoming : Properties) (content : Bytes) (replica : Replica) :
    Except Fault Replica :=
  match replica.properties name with
  | .error fault => .error fault
  | .ok held =>
      match Round.evaluate name held incoming replica.workspace with
      | (.error fault, _) => .error fault
      | (.ok decision, workspace) =>
          if decision.mayTransfer then take name incoming content { replica with workspace }
          else .ok { replica with workspace }

end Replica

namespace Fleet

/-- Does one step. Pulling from a node without the file does nothing. -/
def step (name : String) (retention : Retention) (fleet : Fleet) : Step → Except Fault Fleet
  | .write server content =>
      ((fleet server).write name retention server content).map (Function.update fleet server)
  | .pull destination source =>
      match (fleet source).properties name with
      | .error fault => .error fault
      | .ok none => .ok fleet
      | .ok (some incoming) =>
          ((fleet destination).accept name incoming (fleet source).content).map
            (Function.update fleet destination)
  | .resolve server resolution =>
      ((fleet server).resolve name resolution).map (Function.update fleet server)

/-- Does one step after the other. -/
def run (name : String) (retention : Retention) (fleet : Fleet) (steps : List Step) :
    Except Fault Fleet :=
  steps.foldlM (step name retention) fleet

/-- Whether no node holds the file, and all stores can be used. -/
def Lacks (name : String) (fleet : Fleet) : Prop :=
  ∀ server, (fleet server).workspace.store.poisoned = false ∧
    (fleet server).workspace.store.tables.files.get? name = none

/-- Nodes that have stored nothing yet. -/
def new : Fleet := fun _ => {}

theorem lacks_new (name : String) : new.Lacks name :=
  fun _ => ⟨rfl, rfl⟩

end Fleet

end ReplicaSync
