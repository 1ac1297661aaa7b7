import ReplicaSync.Conflict.Basic

/-!
# Resolutions

A resolution is a decision about a conflict, kept among the properties of the file. It says
which side wins and names the remote lineage it was made against. A conflict is settled only by
a decision for the remote side whose server is the one of the last revision before the remote
one. So a decision made against another lineage settles nothing, and neither does any decision
when nothing is known of what came before the remote revision.
-/

set_option autoImplicit false

namespace ReplicaSync

/-- Which side of a conflict wins. -/
inductive Strategy where
  | takeRemote
  | keepCurrent
  deriving DecidableEq, Repr

namespace Strategy

/-- The name of a strategy. -/
def name : Strategy → String
  | .takeRemote => "RemoteVersion"
  | .keepCurrent => "CurrentVersion"

/-- The strategies under their names. -/
def named : List (String × Strategy) :=
  [("RemoteVersion", .takeRemote), ("CurrentVersion", .keepCurrent)]

/-- The strategy with the given name. -/
def ofName? (name : String) : Option Strategy :=
  named.lookup name

/-- The JSON form of a strategy. -/
def toJson (strategy : Strategy) : Json := .ofText strategy.name

/-- The strategy with the given JSON form. -/
def ofJson? (value : Json) : Option Strategy :=
  value.choice? named

end Strategy

/-- A decision about a conflict. -/
structure Resolution where
  strategy : Strategy
  /-- The server of the remote lineage that the decision was made against. -/
  server : String
  number : Int64
  deriving DecidableEq, Repr

namespace Resolution

/-- The JSON form of a resolution. -/
def toJson (resolution : Resolution) : Json :=
  .record [("strategy", resolution.strategy.toJson),
    ("remote_server_id", .ofText resolution.server),
    ("version", .ofInt resolution.number.toInt)]

/-- The resolution with the given JSON form. -/
def ofJson? (value : Json) : Option Resolution :=
  match value.fields? ["strategy", "remote_server_id", "version"] with
  | some [some strategy, some server, some number] => do
      return ⟨← Strategy.ofJson? strategy, ← server.text?, ← number.int64?⟩
  | _ => none

/-- The resolution that properties hold, if they hold one. -/
def ofProperties (properties : Properties) : Except Fault (Option Resolution) :=
  match properties.get? PropertyName.resolution with
  | none => .ok none
  | some raw =>
      match (Json.parse? raw).bind ofJson? with
      | some resolution => .ok (some resolution)
      | none => .error (.metadata (.unreadable PropertyName.resolution))

/-- Puts a resolution into properties. -/
def writeTo (resolution : Resolution) (properties : Properties) : Properties :=
  properties.insert PropertyName.resolution (toJson resolution).compact

/-- Whether a resolution settles a conflict. -/
def settles (resolution : Resolution) (conflict : Conflict) : Bool :=
  resolution.strategy == .takeRemote &&
    match conflict.tip with
    | some revision => revision.server == resolution.server
    | none => false

end Resolution

/-- Whether the resolution that properties hold, if any, settles a conflict. -/
def Conflict.isSettled (conflict : Conflict) (destination : Properties) : Except Fault Bool :=
  (Resolution.ofProperties destination).map fun resolution =>
    match resolution with
    | some resolution => resolution.settles conflict
    | none => false

end ReplicaSync
