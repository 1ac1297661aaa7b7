import ReplicaSync.Node.Basic

/-!
# Networks of nodes

A network is a set of nodes with different servers. In every step one node does something by
itself or pulls a file from another. Nothing else changes a node, so what a network can come to
is determined by the sequence of its steps.
-/

set_option autoImplicit false

namespace ReplicaSync

/-- Nodes under the names of their servers. -/
structure Network where
  nodes : NameMap Node

namespace Network

/-- A network of nodes that all have the same configuration. -/
def ofServers (config : Config) : List String → Except Fault Network
  | [] => .ok ⟨.empty⟩
  | server :: rest => do
      let network ← ofServers config rest
      let node ← Node.ofConfig server config
      return ⟨network.nodes.insert server node⟩

/-- Lets a node do something. Nothing comes of it if there is no such node. -/
def act {α : Type} (server : String) (action : Node → α × Node) (network : Network) :
    Option α × Network :=
  match network.nodes.get? server with
  | none => (none, network)
  | some node =>
      match action node with
      | (answer, node) => (some answer, ⟨network.nodes.insert server node⟩)

/-- Writes a file on a node. -/
def write (server name : String) (content : Bytes) (network : Network) :
    Option (Except Fault Unit) × Network :=
  network.act server (Node.write name content)

/-- Records a decision about a conflict on a node. -/
def resolve (server name : String) (resolution : Resolution) (network : Network) :
    Option (Except Fault Unit) × Network :=
  network.act server (Node.resolve name resolution)

/-- Lets a node pull a file from another. -/
def pull (server other name : String) (network : Network) :
    Option (Except Fault Pull) × Network :=
  match network.act other (Node.offer name) with
  | (none, network) => (none, network)
  | (some (.error fault), network) => (some (.error fault), network)
  | (some (.ok none), network) => (some (.ok .missing), network)
  | (some (.ok (some offer)), network) => network.act server (Node.accept name offer)

/-- What can be seen of a file on a node. -/
def status (server name : String) (network : Network) : Option Node.Status :=
  (network.nodes.get? server).map (Node.status name)

end Network

end ReplicaSync
