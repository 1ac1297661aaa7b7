import ReplicaSync.Node.Network
import ReplicaSync.Proofs.Fleet.Basic
import ReplicaSync.Proofs.Storage.Files

/-!
# Networks as fleets

A node of a network has more than a replica of one file: signatures in a repository, and other
files. None of it takes part in what becomes of the replica, as long as a content that has been
transferred is the one that was offered. So a run of a network in which every step succeeds is a
run of the fleet of its replicas (`Network.Runs.fleet_run`), and a network that has just been set
up is a fleet without the file (`Network.fleet_of_servers`). What holds of all runs of fleets
therefore holds of networks (`Network.run_of_servers`).
-/

set_option autoImplicit false

namespace ReplicaSync

/-- A store that could be read is as it was. -/
theorem Store.eq_of_loadFile {name : String} {store after : Store} {held : Option Properties}
    (loaded : TransactionalStorage.loadFile name store = (.ok held, after)) : after = store := by
  cases poisoned : store.poisoned with
  | false =>
      rw [loadFile_eq poisoned] at loaded
      exact (congrArg Prod.snd loaded).symm
  | true =>
      have refused : TransactionalStorage.loadFile name store =
          (.error (.storage .poisoned), store) := by
        have unfolded : TransactionalStorage.loadFile name store =
            ((Store.batch (.loadFile name) store).1.result,
              (Store.batch (.loadFile name) store).2) := rfl
        rw [unfolded, Store.batch, poisoned]
        rfl
      rw [refused] at loaded
      cases loaded

/-- Whether a pull came to the content that was offered, if it transferred any. -/
def Pull.Faithful : Pull → Prop
  | .transferred _ _ rebuilt => rebuilt = true
  | _ => True

/-! ## Nodes -/

namespace Node

variable {name : String} {node after : Node} {content : Bytes} {properties : Properties}

/-- The replica that a node has of a file. -/
def replica (name : String) (node : Node) : Replica := ⟨node.workspace, node.content name⟩

/-- Nodes that differ in nothing but their signatures. -/
structure Alike (left right : Node) : Prop where
  settings_eq : left.settings = right.settings
  workspace_eq : left.workspace = right.workspace
  contents_eq : left.contents = right.contents

theorem Alike.replica_eq (alike : after.Alike node) (name : String) :
    after.replica name = node.replica name := by
  rw [replica, replica, content, content, alike.workspace_eq, alike.contents_eq]

theorem alike_of_signature {answer : Except Fault Signature}
    (found : signature name node = (answer, after)) : after.Alike node := by
  cases found
  exact ⟨rfl, rfl, rfl⟩

theorem take_of_hold (held : hold name properties content node = (.ok (), after)) :
    after.settings = node.settings ∧
      (node.replica name).take name properties content = .ok (after.replica name) := by
  rw [hold] at held
  cases stored : TransactionalStorage.storeFile name properties node.workspace.store with
  | mk answer store =>
      have stored_there : TransactionalStorage.storeFile name properties
          (node.replica name).workspace.store = (answer, store) := stored
      rw [stored] at held
      rw [Replica.take, stored_there]
      cases answer with
      | error fault => cases held
      | ok done =>
          dsimp only at held ⊢
          cases generated : node.settings.chunker.generateInto [.bytes content]
              (signatureName name) node.signatures with
          | mk made signatures =>
              rw [generated] at held
              cases made with
              | error fault => cases held
              | ok signature =>
                  cases held
                  have now : ((node.contents.insert name content).get? name).getD [] =
                      content := by
                    rw [NameMap.get?_insert, if_pos rfl]
                    rfl
                  refine ⟨rfl, congrArg Except.ok ?_⟩
                  exact congrArg (Replica.mk _) now.symm

/-- **A write on a node is a write on its replica.** -/
theorem write_replica (written : write name content node = (.ok (), after)) :
    after.settings = node.settings ∧
      (node.replica name).write name node.settings.retention node.settings.server content =
        .ok (after.replica name) := by
  rw [write] at written
  cases edited : Edit.edited name (Edit.written node.settings.server node.settings.retention)
      node.workspace.store with
  | mk answer store =>
      have edited_there : Edit.edited name
          (Edit.written node.settings.server node.settings.retention)
          (node.replica name).workspace.store = (answer, store) := edited
      rw [edited] at written
      cases answer with
      | error fault => cases written
      | ok properties =>
          obtain ⟨settings_eq, taken⟩ := take_of_hold written
          refine ⟨settings_eq, ?_⟩
          rw [Replica.write, Edit.write, Edit.apply, edited_there]
          dsimp only
          cases stored : TransactionalStorage.storeFile name properties store with
          | mk answer final =>
              have stored_there : TransactionalStorage.storeFile name properties
                  ((node.withStore store).replica name).workspace.store = (answer, final) := stored
              rw [Replica.take, stored_there] at taken
              cases answer with
              | error fault => cases taken
              | ok done => exact taken

/-- **A decision on a node is a decision on its replica.** -/
theorem resolve_replica {resolution : Resolution}
    (resolved : resolve name resolution node = (.ok (), after)) :
    after.settings = node.settings ∧
      (node.replica name).resolve name resolution = .ok (after.replica name) := by
  rw [resolve] at resolved
  cases edited : Edit.resolve name resolution node.workspace.store with
  | mk answer store =>
      have edited_there : Edit.resolve name resolution (node.replica name).workspace.store =
          (answer, store) := edited
      rw [edited] at resolved
      rw [Replica.resolve, edited_there]
      cases answer with
      | error fault => cases resolved
      | ok properties =>
          cases resolved
          exact ⟨rfl, rfl⟩

theorem withStore_of_loadFile {held : Option Properties} {store : Store}
    (loaded : TransactionalStorage.loadFile name node.workspace.store = (.ok held, store)) :
    node.withStore store = node := by
  rw [Store.eq_of_loadFile loaded]
  rfl

/-- What a node offers is what its replica has, and offering it leaves the replica. -/
theorem offer_replica {offered : Option Offer}
    (found : offer name node = (.ok offered, after)) :
    after.Alike node ∧
      (node.replica name).properties name = .ok (offered.map Offer.properties) ∧
      ∀ offer ∈ offered, offer.content = (node.replica name).content := by
  rw [Node.offer] at found
  cases loaded : TransactionalStorage.loadFile name node.workspace.store with
  | mk answer store =>
      have loaded_there : (node.replica name).properties name = answer :=
        congrArg Prod.fst loaded
      rw [loaded] at found
      rw [loaded_there]
      cases answer with
      | error fault => cases found
      | ok held =>
          have unchanged := withStore_of_loadFile loaded
          cases held with
          | none =>
              dsimp only at found
              rw [unchanged] at found
              cases found
              exact ⟨⟨rfl, rfl, rfl⟩, rfl, fun _ none_offered => by cases none_offered⟩
          | some properties =>
              dsimp only at found
              rw [unchanged] at found
              cases signed : signature name node with
              | mk answer signer =>
                  rw [signed] at found
                  have alike := alike_of_signature signed
                  cases answer with
                  | error fault => cases found
                  | ok signature =>
                      cases found
                      refine ⟨alike, rfl, ?_⟩
                      rintro _ ⟨⟩
                      rw [← alike.replica_eq name]
                      rfl

/-- A transfer that comes to the content offered takes the offer over. -/
theorem take_of_transfer {decision : Decision} {offer : Offer} {pull : Pull}
    (transferred : transfer name decision offer node = (.ok pull, after))
    (faithful : pull.Faithful) :
    after.settings = node.settings ∧
      (node.replica name).take name offer.properties offer.content =
        .ok (after.replica name) := by
  rw [transfer] at transferred
  cases signed : signature name node with
  | mk answer signer =>
      have alike := alike_of_signature signed
      rw [signed] at transferred
      cases answer with
      | error fault => cases transferred
      | ok seed =>
          dsimp only at transferred
          cases planned : Transfer.between seed offer.signature with
          | error fault =>
              rw [planned] at transferred
              cases transferred
          | ok plan =>
              rw [planned] at transferred
              dsimp only at transferred
              cases assembled : plan.plan.assemble (signer.content name)
                  (Fetcher.ofBytes offer.content) {} with
              | mk answer assembly =>
                  rw [assembled] at transferred
                  cases answer with
                  | error fault => cases transferred
                  | ok size =>
                      dsimp only at transferred
                      cases held : hold name offer.properties assembly.output.contents signer with
                      | mk answer holder =>
                          rw [held] at transferred
                          cases answer with
                          | error fault => cases transferred
                          | ok done =>
                              cases transferred
                              have same : assembly.output.contents = offer.content :=
                                eq_of_beq faithful
                              obtain ⟨settings_eq, taken⟩ := take_of_hold held
                              rw [same, alike.replica_eq] at taken
                              exact ⟨settings_eq.trans alike.settings_eq, taken⟩

/-- **Accepting an offer on a node is accepting it on its replica.** -/
theorem accept_replica {offer : Offer} {pull : Pull}
    (accepted : accept name offer node = (.ok pull, after)) (faithful : pull.Faithful) :
    after.settings = node.settings ∧
      (node.replica name).accept name offer.properties offer.content =
        .ok (after.replica name) := by
  rw [accept] at accepted
  cases loaded : TransactionalStorage.loadFile name node.workspace.store with
  | mk answer store =>
      have loaded_there : (node.replica name).properties name = answer :=
        congrArg Prod.fst loaded
      rw [loaded] at accepted
      rw [Replica.accept, loaded_there]
      cases answer with
      | error fault => cases accepted
      | ok held =>
          have unchanged : { node.workspace with store } = node.workspace := by
            rw [Store.eq_of_loadFile loaded]
          dsimp only at accepted ⊢
          rw [unchanged] at accepted
          cases evaluated : Round.evaluate name held offer.properties node.workspace with
          | mk answer workspace =>
              have evaluated_there : Round.evaluate name held offer.properties
                  (node.replica name).workspace = (answer, workspace) := evaluated
              rw [evaluated] at accepted
              rw [evaluated_there]
              cases answer with
              | error fault => cases accepted
              | ok decision =>
                  dsimp only at accepted ⊢
                  cases transfers : decision.mayTransfer with
                  | true =>
                      rw [transfers, if_pos rfl] at accepted
                      exact take_of_transfer accepted faithful
                  | false =>
                      rw [transfers] at accepted
                      cases accepted
                      exact ⟨rfl, rfl⟩

end Node

/-! ## Networks -/

namespace Network

variable {name server : String} {network middle after start : Network} {retention : Retention}

/-- The replicas that the nodes have of a file. -/
def fleet (name : String) (network : Network) : Fleet := fun server =>
  ((network.nodes.get? server).map (Node.replica name)).getD {}

/-- Whether all nodes go by their own server and the same retention. -/
def Uniform (retention : Retention) (network : Network) : Prop :=
  ∀ server node, network.nodes.get? server = some node →
    node.settings.server = server ∧ node.settings.retention = retention

/-- What a network does in a step that succeeds. -/
inductive Goes (name : String) (network : Network) : Step → Network → Prop
  | write {server : String} {content : Bytes} {after : Network}
      (done : network.write server name content = (some (.ok ()), after)) :
      Goes name network (.write server content) after
  | pull {destination source : String} {pull : Pull} {after : Network}
      (done : network.pull destination source name = (some (.ok pull), after))
      (faithful : pull.Faithful) : Goes name network (.pull destination source) after
  | resolve {server : String} {resolution : Resolution} {after : Network}
      (done : network.resolve server name resolution = (some (.ok ()), after)) :
      Goes name network (.resolve server resolution) after

/-- What a network comes to in steps that all succeed. -/
inductive Runs (name : String) : Network → List Step → Network → Prop
  | stop (network : Network) : Runs name network [] network
  | go {network middle after : Network} {step : Step} {steps : List Step}
      (goes : Goes name network step middle) (rest : Runs name middle steps after) :
      Runs name network (step :: steps) after

/-- A node that does something is in the network and is put back into it. -/
theorem exists_of_act {α : Type} {action : Node → α × Node} {answer : α}
    (acted : network.act server action = (some answer, after)) :
    ∃ node changed, network.nodes.get? server = some node ∧ action node = (answer, changed) ∧
      after = ⟨network.nodes.insert server changed⟩ := by
  rw [act] at acted
  cases held : network.nodes.get? server with
  | none =>
      rw [held] at acted
      cases acted
  | some node =>
      rw [held] at acted
      cases acted
      exact ⟨node, (action node).2, rfl, rfl, rfl⟩

section Insert

variable {node changed : Node} (held : network.nodes.get? server = some node)
include held

theorem fleet_eq_of_get? : network.fleet name server = node.replica name := by
  rw [fleet, held]
  rfl

theorem Uniform.insert (uniform : network.Uniform retention)
    (settings_eq : changed.settings = node.settings) :
    Uniform retention ⟨network.nodes.insert server changed⟩ := by
  intro other found stored
  rw [NameMap.get?_insert] at stored
  by_cases same : other = server
  · rw [if_pos same] at stored
    cases stored
    rw [settings_eq, same]
    exact uniform server node held
  · rw [if_neg same] at stored
    exact uniform other found stored

end Insert

theorem fleet_insert (changed : Node) :
    Network.fleet name ⟨network.nodes.insert server changed⟩ =
      Function.update (network.fleet name) server (changed.replica name) := by
  funext other
  rw [fleet, NameMap.get?_insert]
  by_cases same : other = server
  · rw [if_pos same, same, Function.update_self]
    rfl
  · rw [if_neg same, Function.update_of_ne same]
    rfl

/-- Offering a file leaves all replicas. -/
theorem fleet_of_offer {offered : Option Offer} (uniform : network.Uniform retention)
    (acted : network.act server (Node.offer name) = (some (.ok offered), after)) :
    after.Uniform retention ∧ after.fleet name = network.fleet name ∧
      (network.fleet name server).properties name = .ok (offered.map Offer.properties) ∧
      ∀ offer ∈ offered, offer.content = (network.fleet name server).content := by
  obtain ⟨node, changed, held, did, rfl⟩ := exists_of_act acted
  obtain ⟨alike, stored, content_eq⟩ := Node.offer_replica did
  rw [fleet_eq_of_get? held]
  refine ⟨uniform.insert held alike.settings_eq, ?_, stored, content_eq⟩
  rw [fleet_insert, alike.replica_eq, ← fleet_eq_of_get? held, Function.update_eq_self]

/-- **A step of a network is a step of its fleet.** -/
theorem Goes.fleet_step (uniform : network.Uniform retention) {step : Step}
    (goes : network.Goes name step after) :
    after.Uniform retention ∧
      (network.fleet name).step name retention step = .ok (after.fleet name) := by
  cases goes with
  | write done =>
      obtain ⟨node, changed, held, did, rfl⟩ := exists_of_act done
      obtain ⟨settings_eq, written⟩ := Node.write_replica did
      obtain ⟨server_eq, retention_eq⟩ := uniform _ _ held
      rw [server_eq, retention_eq] at written
      refine ⟨uniform.insert held settings_eq, ?_⟩
      rw [Fleet.step, fleet_eq_of_get? held, written, fleet_insert]
      rfl
  | @pull destination source pull _ done faithful =>
      rw [Network.pull] at done
      cases acted : network.act source (Node.offer name) with
      | mk answer middle =>
          rw [acted] at done
          cases answer with
          | none => cases done
          | some answer =>
              cases answer with
              | error fault => cases done
              | ok offered =>
                  obtain ⟨uniform_middle, same_fleet, stored, content_eq⟩ :=
                    fleet_of_offer uniform acted
                  rw [Fleet.step, stored]
                  cases offered with
                  | none =>
                      cases done
                      exact ⟨uniform_middle, congrArg Except.ok same_fleet.symm⟩
                  | some offer =>
                      obtain ⟨node, changed, held, did, rfl⟩ := exists_of_act done
                      obtain ⟨settings_eq, accepted⟩ := Node.accept_replica did faithful
                      refine ⟨uniform_middle.insert held settings_eq, ?_⟩
                      dsimp only [Option.map_some]
                      rw [← content_eq offer rfl, fleet_insert, ← same_fleet,
                        fleet_eq_of_get? held, accepted]
                      rfl
  | resolve done =>
      obtain ⟨node, changed, held, did, rfl⟩ := exists_of_act done
      obtain ⟨settings_eq, resolved⟩ := Node.resolve_replica did
      refine ⟨uniform.insert held settings_eq, ?_⟩
      rw [Fleet.step, fleet_eq_of_get? held, resolved, fleet_insert]
      rfl

/-- **A run of a network is a run of its fleet.** -/
theorem Runs.fleet_run {steps : List Step} (uniform : network.Uniform retention)
    (runs : network.Runs name steps after) :
    (network.fleet name).run name retention steps = .ok (after.fleet name) := by
  induction runs with
  | stop network => rfl
  | go goes rest ih =>
      obtain ⟨uniform_middle, stepped⟩ := goes.fleet_step uniform
      rw [Fleet.run, List.foldlM_cons, stepped]
      exact ih uniform_middle

/-- **A network that has just been set up is a fleet without the file.** -/
theorem fleet_of_servers {config : Config} {servers : List String}
    (made : ofServers config servers = .ok start) :
    start.Uniform config.retention ∧ start.fleet name = Fleet.new := by
  induction servers generalizing start with
  | nil =>
      cases made
      refine ⟨fun server node held => ?_, rfl⟩
      cases held
  | cons server rest ih =>
      rw [ofServers] at made
      cases earlier : ofServers config rest with
      | error fault =>
          rw [earlier] at made
          cases made
      | ok network =>
          obtain ⟨uniform, fleet_eq⟩ := ih earlier
          rw [earlier] at made
          cases accepted : Chunker.ofLimits config.limits with
          | error fault =>
              rw [Node.ofConfig, accepted] at made
              cases made
          | ok chunker =>
              rw [Node.ofConfig, accepted] at made
              cases made
              refine ⟨?_, ?_⟩
              · intro other node held
                rw [NameMap.get?_insert] at held
                by_cases same : other = server
                · rw [if_pos same] at held
                  cases held
                  exact ⟨same.symm, rfl⟩
                · rw [if_neg same] at held
                  exact uniform other node held
              · rw [fleet_insert, fleet_eq]
                exact Function.update_eq_self server Fleet.new

/-- What a network comes to after it has been set up, its fleet comes to. -/
theorem run_of_servers {config : Config} {servers : List String}
    (made : ofServers config servers = .ok start) {steps : List Step}
    (runs : start.Runs name steps after) :
    Fleet.new.run name config.retention steps = .ok (after.fleet name) := by
  obtain ⟨uniform, fleet_eq⟩ := @fleet_of_servers name start config servers made
  rw [← fleet_eq]
  exact runs.fleet_run uniform

end Network

end ReplicaSync
