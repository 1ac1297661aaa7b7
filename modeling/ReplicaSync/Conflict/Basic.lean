import ReplicaSync.Revision.Properties

/-!
# Conflicts

A revision that comes in from elsewhere fits what a destination holds when it is the same
revision, or when it descends from the revision held. Otherwise the two are in conflict. Only
the current revision of the destination and the lineage of the source matter.
-/

set_option autoImplicit false

namespace ReplicaSync

/-- A divergence between the revision held and one that comes in. -/
structure Conflict where
  /-- The revision held by the destination. -/
  current : Revision
  /-- The revision that comes in. -/
  remote : Revision
  /-- The revisions that the remote one descends from, oldest first. -/
  remoteHistory : List Revision
  deriving DecidableEq, Repr

namespace Conflict

/-- The last revision before the remote one, if any is known. -/
def tip (conflict : Conflict) : Option Revision :=
  conflict.remoteHistory.getLast?

/-- The conflict between the lineage held and the one that comes in, if there is one. -/
def between (destination source : Lineage) : Option Conflict :=
  if destination.sameRevision source || source.descendsFrom destination.current then none
  else some ⟨destination.current, source.current, source.history⟩

/-- The conflict between properties held and properties that come in, if there is one. -/
def ofProperties (destination source : Properties) : Except Fault (Option Conflict) := do
  let held ← Lineage.ofProperties destination
  let incoming ← Lineage.ofProperties source
  return between held incoming

/-- The JSON form of a conflict. -/
def toJson (conflict : Conflict) : Json :=
  .record [("current", conflict.current.toJson), ("remote", conflict.remote.toJson),
    ("remote_history", Revision.listToJson conflict.remoteHistory)]

/-- The conflict with the given JSON form. -/
def ofJson? (value : Json) : Option Conflict :=
  match value.fields? ["current", "remote", "remote_history"] with
  | some [some current, some remote, some remoteHistory] => do
      return ⟨← Revision.ofJson? current, ← Revision.ofJson? remote,
        ← Revision.listOfJson? remoteHistory⟩
  | _ => none

/-- The JSON document of a conflict. -/
def toDocument (conflict : Conflict) : String :=
  (toJson conflict).compact

/-- The conflict with the given JSON document. -/
def ofDocument (document : String) : Except Fault Conflict :=
  match (Json.parse? document).bind ofJson? with
  | some conflict => .ok conflict
  | none => .error (.encoding .json)

end Conflict

end ReplicaSync
