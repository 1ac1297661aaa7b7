import ReplicaSync.Proofs.Fleet.Basic
import ReplicaSync.Proofs.Round.Evaluation

/-!
# The account of a run

What a run comes to depends on little of what the nodes store: the lineage and the content of
each copy of the file and the resolution that lies with it. The account of a run follows just
these, and it notes every write: the lineage that it was made on, if there was one, and the copy
that it made.

A fleet does what its account says, step by step and over whole runs (`Fleet.tally_run`).
-/

set_option autoImplicit false

namespace ReplicaSync

/-- A copy of the file. -/
structure Copy where
  lineage : Lineage
  content : Bytes
  deriving DecidableEq

/-- A write. -/
structure Issue where
  /-- The lineage that the write was made on, if there was one. -/
  base : Option Lineage
  /-- The copy that the write made. -/
  copy : Copy
  deriving DecidableEq

namespace Issue

/-- The revision that a write gave out. -/
def revision (issue : Issue) : Revision := issue.copy.lineage.current

/-- The revisions that the writer could see. -/
def seen (issue : Issue) : List Revision := issue.base.elim [] Lineage.revisions

end Issue

/-- The account of a run. -/
structure Account where
  /-- The copies under the servers of the nodes that hold them. -/
  copies : String → Option Copy
  /-- The resolutions that have been recorded on the nodes and not been used. -/
  decided : String → Option Resolution
  /-- The writes, oldest first. -/
  issues : List Issue

namespace Account

/-- The account at the start, when no node holds the file. -/
def empty : Account := ⟨fun _ => none, fun _ => none, []⟩

/-- The lineage after a write on a node that may hold the file. -/
def lineageAfter (retention : Retention) (server : String) : Option Lineage → Except Fault Lineage
  | none => .ok (Lineage.first server)
  | some lineage => lineage.write server retention

/-- The lineage that a node holds. -/
def lineage (account : Account) (server : String) : Option Lineage :=
  (account.copies server).map Copy.lineage

/-- Holds another copy on a node. -/
def hold (server : String) (copy : Copy) (account : Account) : Account :=
  { account with copies := Function.update account.copies server (some copy) }

/-- Notes a write on a node. -/
def issue (server : String) (copy : Copy) (account : Account) : Account :=
  { account.hold server copy with
    issues := account.issues ++ [⟨account.lineage server, copy⟩] }

/-- Keeps another resolution on a node, or none. -/
def decide (server : String) (resolution : Option Resolution) (account : Account) : Account :=
  { account with decided := Function.update account.decided server resolution }

/-- Takes a copy over, with the resolution that lies with it. -/
def take (destination source : String) (copy : Copy) (account : Account) : Account :=
  (account.hold destination copy).decide destination (account.decided source)

section Fields

variable (account : Account) (server : String) (copy : Copy)

@[simp] theorem copies_hold_self : (account.hold server copy).copies server = some copy :=
  Function.update_self _ _ _

@[simp] theorem copies_issue :
    (account.issue server copy).copies = (account.hold server copy).copies := rfl

@[simp] theorem issues_issue : (account.issue server copy).issues =
    account.issues ++ [⟨account.lineage server, copy⟩] := rfl

@[simp] theorem decided_decide_self (resolution : Option Resolution) :
    (account.decide server resolution).decided server = resolution :=
  Function.update_self _ _ _

@[simp] theorem copies_take (source : String) :
    (account.take server source copy).copies = (account.hold server copy).copies := rfl

@[simp] theorem decided_take (source : String) : (account.take server source copy).decided =
    (account.decide server (account.decided source)).decided := rfl

variable {account server copy} {other : String}

theorem copies_hold_of_ne (different : other ≠ server) :
    (account.hold server copy).copies other = account.copies other :=
  Function.update_of_ne different _ _

theorem decided_decide_of_ne {resolution : Option Resolution} (different : other ≠ server) :
    (account.decide server resolution).decided other = account.decided other :=
  Function.update_of_ne different _ _

/-- A node holds the copy that has just been put there, or what it held before. -/
theorem held_of_hold {held : Copy} (found : (account.hold server copy).copies other = some held) :
    held = copy ∨ account.copies other = some held := by
  by_cases same : other = server
  · rw [same, copies_hold_self] at found
    exact .inl (Option.some.inj found).symm
  · rw [copies_hold_of_ne same] at found
    exact .inr found

end Fields

/-- The fault of a node that has a resolution but no lineage. -/
def noLineage : Fault := .metadata (.missing PropertyName.source)

/-- Whether a node takes over a copy that comes in. -/
def takes (held : Option Copy) (resolution : Option Resolution) (incoming : Copy) :
    Except Fault Bool :=
  match held, resolution with
  | none, none => .ok true
  | none, some _ => .error noLineage
  | some held, resolution =>
      .ok (Round.decision held.lineage resolution incoming.lineage).mayTransfer

/-- Does one step. -/
def step (retention : Retention) (account : Account) : Step → Except Fault Account
  | .write server content =>
      (lineageAfter retention server (account.lineage server)).map fun lineage =>
        account.issue server ⟨lineage, content⟩
  | .pull destination source =>
      match account.copies source, account.decided source with
      | none, none => .ok account
      | none, some _ => .error noLineage
      | some incoming, _ =>
          (takes (account.copies destination) (account.decided destination) incoming).map
            fun taken => if taken then account.take destination source incoming else account
  | .resolve server resolution => .ok (account.decide server (some resolution))

/-- Does one step after the other. -/
def run (retention : Retention) (account : Account) (steps : List Step) : Except Fault Account :=
  steps.foldlM (step retention) account

/-! ## What a step comes to -/

/-- What a step comes to when it does not fail. -/
inductive Moves (retention : Retention) (account : Account) : Step → Account → Prop
  | write {server : String} {content : Bytes} {lineage : Lineage}
      (written : lineageAfter retention server (account.lineage server) = .ok lineage) :
      Moves retention account (.write server content) (account.issue server ⟨lineage, content⟩)
  | take {destination source : String} {incoming : Copy}
      (held : account.copies source = some incoming)
      (taken : takes (account.copies destination) (account.decided destination) incoming =
        .ok true) :
      Moves retention account (.pull destination source)
        (account.take destination source incoming)
  | keep {destination source : String} :
      Moves retention account (.pull destination source) account
  | decide {server : String} {resolution : Resolution} :
      Moves retention account (.resolve server resolution)
        (account.decide server (some resolution))

variable {retention : Retention} {account next : Account} {step : Step}

/-- **A step that does not fail writes, takes a copy over, keeps all copies or decides.** -/
theorem moves_of_step (stepped : account.step retention step = .ok next) :
    Moves retention account step next := by
  cases step with
  | write server content =>
      rw [Account.step] at stepped
      cases written : lineageAfter retention server (account.lineage server) with
      | error fault =>
          rw [written] at stepped
          cases stepped
      | ok lineage =>
          rw [written] at stepped
          cases stepped
          exact .write written
  | pull destination source =>
      rw [Account.step] at stepped
      cases held : account.copies source with
      | none =>
          rw [held] at stepped
          cases decided : account.decided source with
          | none =>
              rw [decided] at stepped
              cases stepped
              exact .keep
          | some resolution =>
              rw [decided] at stepped
              cases stepped
      | some incoming =>
          rw [held] at stepped
          dsimp only at stepped
          cases taken : takes (account.copies destination) (account.decided destination)
              incoming with
          | error fault =>
              rw [taken] at stepped
              cases stepped
          | ok verdict =>
              rw [taken] at stepped
              cases stepped
              cases verdict with
              | true => exact .take held taken
              | false => exact .keep
  | resolve server resolution =>
      cases stepped
      exact .decide

end Account

/-! ## Replicas and their account -/

/-- Whether properties show as much as a node with the given lineage and resolution has. -/
def Properties.Match (resolution : Option Resolution) : Option Lineage → Option Properties → Prop
  | none, none => resolution = none
  | none, some properties =>
      Lineage.ofProperties properties = .error Account.noLineage ∧
        Resolution.ofProperties properties = .ok resolution ∧ resolution.isSome = true
  | some _, none => False
  | some lineage, some properties => properties.Show lineage resolution

namespace Replica

/-- Whether a node is as an account says. -/
structure Shows (name : String) (replica : Replica) (copy : Option Copy)
    (resolution : Option Resolution) : Prop where
  sound : replica.workspace.store.poisoned = false
  matching : ∃ properties, replica.workspace.store.tables.getFile name = .ok properties ∧
    Properties.Match resolution (copy.map Copy.lineage) properties
  content_eq : ∀ held ∈ copy, replica.content = held.content

end Replica

/-- Whether a fleet is as an account says. -/
def Fleet.Shows (name : String) (fleet : Fleet) (account : Account) : Prop :=
  ∀ server, (fleet server).Shows name (account.copies server) (account.decided server)

end ReplicaSync
