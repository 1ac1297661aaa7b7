import ReplicaSync.Fault

/-!
# Revisions and lineages

A revision of a file is named by the server that wrote it and a number that the server counts
up. A lineage is the current revision of a file together with the revisions it descends from,
oldest first. How many of those are kept is a matter of retention, and the oldest go first.

A write on a server makes the current revision part of the history. The new revision gets the
number after the greatest one that the lineage still shows for that server. There is no number
after the greatest signed 64-bit number, and then the write fails and changes nothing.
-/

set_option autoImplicit false

namespace ReplicaSync

/-- The name of a revision. -/
structure Revision where
  server : String
  number : Int64
  deriving DecidableEq, Repr

/-- How many earlier revisions are kept. -/
structure Retention where
  limit : UInt64
  deriving DecidableEq, Repr

namespace Retention

/-- The retention in use where none is given. -/
def standard : Retention := ⟨50⟩

instance : Inhabited Retention := ⟨standard⟩

/-- The newest revisions, as many as are kept. -/
def apply (retention : Retention) (history : List Revision) : List Revision :=
  history.drop (history.length - retention.limit.toNat)

end Retention

/-- A revision and the revisions before it. -/
structure Lineage where
  current : Revision
  /-- The revisions before the current one, oldest first. -/
  history : List Revision
  deriving DecidableEq, Repr

/-- The greatest of some numbers. -/
def greatest : List Int64 → Option Int64
  | [] => none
  | number :: rest =>
      match greatest rest with
      | none => some number
      | some other => some (if number < other then other else number)

namespace Lineage

/-- The lineage of the first write to a file. -/
def first (server : String) : Lineage := ⟨⟨server, 1⟩, []⟩

/-- All revisions of a lineage, oldest first. -/
def revisions (lineage : Lineage) : List Revision :=
  lineage.history ++ [lineage.current]

/-- The numbers that a lineage shows for a server. -/
def numbersOf (lineage : Lineage) (server : String) : List Int64 :=
  (lineage.revisions.filter fun revision => revision.server = server).map Revision.number

/-- The greatest number that a lineage shows for a server, or zero if it shows none. -/
def latest (lineage : Lineage) (server : String) : Int64 :=
  (greatest (lineage.numbersOf server)).getD 0

/-- The lineage after a write on a server. -/
def write (lineage : Lineage) (server : String) (retention : Retention) : Except Fault Lineage :=
  let latest := lineage.latest server
  if latest = Int64.maxValue then .error (.metadata (.exhausted latest server))
  else .ok ⟨⟨server, latest + 1⟩, retention.apply lineage.revisions⟩

/-- The lineage with no more history than is kept. -/
def trim (lineage : Lineage) (retention : Retention) : Lineage :=
  { lineage with history := retention.apply lineage.history }

/-- Records a write on a server in the lineage at hand, which stays as it is if the write fails. -/
def record (server : String) (retention : Retention) (lineage : Lineage) :
    Except Fault Unit × Lineage :=
  let latest := lineage.latest server
  if latest = Int64.maxValue then (.error (.metadata (.exhausted latest server)), lineage)
  else
    let extended := { lineage with history := lineage.history ++ [lineage.current] }
    let trimmed := extended.trim retention
    (.ok (), { trimmed with current := ⟨server, latest + 1⟩ })

/-- Whether two lineages are at the same revision. -/
def sameRevision (left right : Lineage) : Bool :=
  left.current = right.current

/-- Whether a lineage shows a revision among those before the current one. -/
def descendsFrom (lineage : Lineage) (revision : Revision) : Bool :=
  revision ∈ lineage.history

end Lineage

end ReplicaSync
