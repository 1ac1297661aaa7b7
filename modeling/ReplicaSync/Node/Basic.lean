import ReplicaSync.Config.Basic
import ReplicaSync.Plan.Assemble
import ReplicaSync.Plan.Reconcile
import ReplicaSync.Repository.Cache
import ReplicaSync.Round.Decision
import ReplicaSync.Round.Edit

/-!
# Nodes

A node holds files: their contents, their properties in a store, their signatures in a cached
repository, and an index. It writes files itself and pulls them from other nodes.

A pull starts from an offer of the other node: the properties of the file, its signature and its
content. The node decides on the revision that is offered. If the content may be transferred, it
plans the transfer from its own signature, puts the content together out of its own and the
other's, and holds the file as offered from then on. Otherwise it keeps what it has.
-/

set_option autoImplicit false

namespace ReplicaSync

/-- What a node goes by. -/
structure NodeSettings where
  /-- The server that the writes of the node are attributed to. -/
  server : String
  chunker : Chunker
  retention : Retention

/-- A node. -/
structure Node where
  settings : NodeSettings
  workspace : Workspace Store Index := ⟨{}, {}⟩
  signatures : CachedRepository MemoryRepository
  contents : NameMap Bytes := .empty

/-- What another node offers of a file. -/
structure Offer where
  properties : Properties
  signature : Signature
  content : Bytes

/-- What came of a pull. -/
inductive Pull where
  /-- The other node does not hold the file. -/
  | missing
  /-- The content may not be transferred. -/
  | declined (decision : Decision)
  /-- The content was put together. The last field says whether it is the one offered. -/
  | transferred (decision : Decision) (transfer : Transfer) (rebuilt : Bool)

namespace Node

/-- A node with a configuration, if its limits are acceptable. -/
def ofConfig (server : String) (config : Config) : Except Fault Node :=
  (Chunker.ofLimits config.limits).map fun chunker =>
    { settings := ⟨server, chunker, config.retention⟩
      signatures := .ofRepository {} config.cacheCapacity.toNat }

/-- The name that the signature of a file is kept under. -/
def signatureName (name : String) : String := name ++ ".sig"

/-- The node with another store. -/
def withStore (node : Node) (store : Store) : Node :=
  { node with workspace := { node.workspace with store } }

/-- The content that a node holds of a file. It is empty if the node does not hold the file. -/
def content (node : Node) (name : String) : Bytes :=
  (node.contents.get? name).getD []

/-- The signature that a node has of a file. It is empty if the node has none. -/
def signature (name : String) (node : Node) : Except Fault Signature × Node :=
  match SignatureRepository.get (signatureName name) node.signatures with
  | (answer, signatures) => (answer.map fun found => found.getD .empty, { node with signatures })

/-- Holds a file from now on with the given properties and content. -/
def hold (name : String) (properties : Properties) (content : Bytes) (node : Node) :
    Except Fault Unit × Node :=
  match TransactionalStorage.storeFile name properties node.workspace.store with
  | (.error fault, store) => (.error fault, node.withStore store)
  | (.ok (), store) =>
      match node.settings.chunker.generateInto [.bytes content] (signatureName name)
          node.signatures with
      | (.error fault, signatures) => (.error fault, { node.withStore store with signatures })
      | (.ok _, signatures) =>
          (.ok (), { node.withStore store with
            signatures, contents := node.contents.insert name content })

/-- Writes a file. -/
def write (name : String) (content : Bytes) (node : Node) : Except Fault Unit × Node :=
  match Edit.edited name (Edit.written node.settings.server node.settings.retention)
      node.workspace.store with
  | (.error fault, store) => (.error fault, node.withStore store)
  | (.ok properties, store) => hold name properties content (node.withStore store)

/-- Records a decision about a conflict of a file. -/
def resolve (name : String) (resolution : Resolution) (node : Node) : Except Fault Unit × Node :=
  match Edit.resolve name resolution node.workspace.store with
  | (answer, store) => (answer.map fun _ => (), node.withStore store)

/-! ## Pulling -/

/-- What a node offers of a file, if it holds the file. -/
def offer (name : String) (node : Node) : Except Fault (Option Offer) × Node :=
  match TransactionalStorage.loadFile name node.workspace.store with
  | (.error fault, store) => (.error fault, node.withStore store)
  | (.ok none, store) => (.ok none, node.withStore store)
  | (.ok (some properties), store) =>
      match signature name (node.withStore store) with
      | (answer, node) =>
          (answer.map fun signature => some ⟨properties, signature, node.content name⟩, node)

/-- Puts the content of an offer together and holds the file as offered. -/
def transfer (name : String) (decision : Decision) (offer : Offer) (node : Node) :
    Except Fault Pull × Node :=
  match signature name node with
  | (.error fault, node) => (.error fault, node)
  | (.ok seed, node) =>
      match Transfer.between seed offer.signature with
      | .error fault => (.error fault, node)
      | .ok transfer =>
          match transfer.plan.assemble (node.content name) (Fetcher.ofBytes offer.content) {} with
          | (.error fault, _) => (.error fault, node)
          | (.ok _, assembly) =>
              let content := assembly.output.contents
              match hold name offer.properties content node with
              | (answer, node) =>
                  (answer.map fun _ =>
                    .transferred decision transfer (content == offer.content), node)

/-- Decides on an offer and follows the decision. -/
def accept (name : String) (offer : Offer) (node : Node) : Except Fault Pull × Node :=
  match TransactionalStorage.loadFile name node.workspace.store with
  | (.error fault, store) => (.error fault, node.withStore store)
  | (.ok held, store) =>
      match Round.evaluate name held offer.properties { node.workspace with store } with
      | (.error fault, workspace) => (.error fault, { node with workspace })
      | (.ok decision, workspace) =>
          if decision.mayTransfer then transfer name decision offer { node with workspace }
          else (.ok (.declined decision), { node with workspace })

/-! ## Looking at a node -/

/-- What can be seen of a file on a node. -/
structure Status where
  /-- The lineage of the file, if the file is stored. -/
  lineage : Option (Except Fault Lineage)
  /-- Whether the file is marked as in conflict, if it is stored. -/
  marked : Option Bool
  artifact : Except Fault (Option Conflict)
  conflicted : List String
  content : Option Bytes

/-- What can be seen of a file. -/
def status (name : String) (node : Node) : Status :=
  let artifact := (Artifact.find name node.workspace).1
  let conflicted := node.workspace.index.conflicted
  let content := node.contents.get? name
  match (TransactionalStorage.loadFile name node.workspace.store).1 with
  | .error fault => ⟨some (.error fault), none, artifact, conflicted, content⟩
  | .ok none => ⟨none, none, artifact, conflicted, content⟩
  | .ok (some properties) =>
      ⟨some (Lineage.ofProperties properties), some properties.inConflict, artifact, conflicted,
        content⟩

end Node

end ReplicaSync
