import ReplicaSync.Conflict.Artifact

/-!
# Rounds of synchronization

A round begins with a revision of a file that comes in from elsewhere. What is held decides what
becomes of it: a file that is not held yet is new; the same revision is up to date; a revision
that descends from the one held is a fast forward; anything else is a conflict, which either has
been settled for the remote side or has not. The content may be transferred if the file is new,
for a fast forward, and for a settled conflict.

A conflict that is not settled leaves an artifact, and a settled one clears it away together
with the resolution, so that a resolution is used once. The other decisions change nothing.
-/

set_option autoImplicit false

namespace ReplicaSync

/-- What becomes of a revision that comes in. -/
inductive Decision where
  | newFile
  | upToDate
  | fastForward
  | settled (conflict : Conflict)
  | conflict (conflict : Conflict)
  deriving DecidableEq, Repr

namespace Decision

/-- Whether the content may be transferred. -/
def mayTransfer : Decision → Bool
  | .newFile | .fastForward | .settled _ => true
  | .upToDate | .conflict _ => false

/-- The conflict that a decision is about. -/
def conflict? : Decision → Option Conflict
  | .settled divergence | .conflict divergence => some divergence
  | _ => none

end Decision

namespace Round

variable {σ ι : Type} [TransactionalStorage σ] [SearchIndex ι]

/-- Brings the artifact of a file in line with the conflict of a round. -/
def handle (name : String) (held : Properties) (conflict : Conflict)
    (workspace : Workspace σ ι) : Except Fault Decision × Workspace σ ι :=
  match conflict.isSettled held with
  | .error fault => (.error fault, workspace)
  | .ok true =>
      match Artifact.remove name workspace with
      | (answer, after) => (answer.map fun _ => .settled conflict, after)
  | .ok false =>
      match Artifact.create name conflict workspace with
      | (answer, after) => (answer.map fun _ => .conflict conflict, after)

/-- Decides on a lineage that comes in over properties that are held. -/
def evaluateHeld (name : String) (held : Properties) (incoming : Lineage)
    (workspace : Workspace σ ι) : Except Fault Decision × Workspace σ ι :=
  match Lineage.ofProperties held with
  | .error fault => (.error fault, workspace)
  | .ok lineage =>
      match Conflict.between lineage incoming with
      | none =>
          (.ok (if lineage.sameRevision incoming then .upToDate else .fastForward), workspace)
      | some conflict => handle name held conflict workspace

/-- Decides on properties that come in over those held, if any are. -/
def evaluate (name : String) (held : Option Properties) (incoming : Properties)
    (workspace : Workspace σ ι) : Except Fault Decision × Workspace σ ι :=
  match Lineage.ofProperties incoming with
  | .error fault => (.error fault, workspace)
  | .ok lineage =>
      match held with
      | none => (.ok .newFile, workspace)
      | some held => evaluateHeld name held lineage workspace

end Round

end ReplicaSync
