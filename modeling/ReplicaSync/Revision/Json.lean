import ReplicaSync.Json.Record
import ReplicaSync.Revision.Basic

/-!
# Revisions and lineages in JSON

All of them are records. A lineage lists the fields of its current revision before the history.
-/

set_option autoImplicit false

namespace ReplicaSync

namespace Revision

/-- The JSON form of a revision. -/
def toJson (revision : Revision) : Json :=
  .record [("server_id", .ofText revision.server), ("version", .ofInt revision.number.toInt)]

/-- The revision with the given JSON form. -/
def ofJson? (value : Json) : Option Revision :=
  match value.fields? ["server_id", "version"] with
  | some [some server, some number] => do return ⟨← server.text?, ← number.int64?⟩
  | _ => none

/-- The JSON form of a list of revisions. -/
def listToJson (revisions : List Revision) : Json :=
  .array (revisions.map toJson)

/-- The list of revisions with the given JSON form. -/
def listOfJson? (value : Json) : Option (List Revision) :=
  value.list? ofJson?

end Revision

namespace Retention

/-- The JSON form of a retention. -/
def toJson (retention : Retention) : Json :=
  .record [("max_history_len", .ofNat retention.limit.toNat)]

/-- The retention with the given JSON form. -/
def ofJson? (value : Json) : Option Retention :=
  match value.fields? ["max_history_len"] with
  | some [some limit] => limit.uint64?.map Retention.mk
  | _ => none

end Retention

namespace Lineage

/-- The JSON form of a lineage. -/
def toJson (lineage : Lineage) : Json :=
  .record [("server_id", .ofText lineage.current.server),
    ("version", .ofInt lineage.current.number.toInt),
    ("history", Revision.listToJson lineage.history)]

/-- The lineage with the given JSON form. -/
def ofJson? (value : Json) : Option Lineage :=
  match value.fields? ["server_id", "version", "history"] with
  | some [some server, some number, some history] => do
      return ⟨⟨← server.text?, ← number.int64?⟩, ← Revision.listOfJson? history⟩
  | _ => none

end Lineage

end ReplicaSync
