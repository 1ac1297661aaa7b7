import ReplicaSync.Json.Printer
import ReplicaSync.Json.Reader
import ReplicaSync.NameMap
import ReplicaSync.Revision.Json
import ReplicaSync.Text.Blank

/-!
# Properties of files

A file has properties, texts under names. Some of them belong to synchronization: they hold the
lineage of the file, mark an outstanding conflict, and hold a decision about one.

A lineage is spread over three properties. Reading it back trims the server and the number, and
takes a missing or blank history for an empty one. Of several faults the first is reported, in
the order server, number, history.
-/

set_option autoImplicit false

namespace ReplicaSync

/-- The properties of a file. -/
abbrev Properties := NameMap String

namespace PropertyName

/-- What the names of the properties of synchronization begin with. -/
def stem : String := "Rfs-Synchronization-"

/-- Whether a name belongs to a property of synchronization. -/
def isReserved (name : String) : Bool :=
  stem.toList.isPrefixOf name.toList

end PropertyName

namespace Properties

/-- The JSON form of properties: a record of one field, which maps names to texts. -/
def toJson (properties : Properties) : Json :=
  .record [("properties",
    .record (properties.entries.map fun entry => (entry.1, .ofText entry.2)))]

/-- Reads a member of an object that maps names to texts. -/
def entryOfMember? (member : JsonText × Json) : Option (String × String) := do
  return (← member.1, ← member.2.text?)

/-- Reads all members of an object that maps names to texts. -/
def entriesOfMembers? : List (JsonText × Json) → Option (List (String × String))
  | [] => some []
  | member :: rest =>
      match entryOfMember? member with
      | none => none
      | some entry => (entriesOfMembers? rest).map (entry :: ·)

/-- The map with the given JSON form. Of a repeated name the last text counts. -/
def mapOfJson? : Json → Option Properties
  | .object members => (entriesOfMembers? members).map NameMap.ofList
  | _ => none

/-- The properties with the given JSON form. The field may be missing. -/
def ofJson? (value : Json) : Option Properties :=
  match value.fields? ["properties"] with
  | some [properties] => Json.orDefault .empty mapOfJson? properties
  | _ => none

/-- The JSON document of properties. -/
def toDocument (properties : Properties) : String :=
  (toJson properties).compact

/-- The properties with the given JSON document. -/
def ofDocument (document : String) : Except Fault Properties :=
  match (Json.parse? document).bind ofJson? with
  | some properties => .ok properties
  | none => .error (.encoding .json)

/-- Whether the properties mark an outstanding conflict. -/
def inConflict (properties : Properties) : Bool :=
  properties.get? PropertyName.conflict == some "true"

end Properties

namespace Lineage

/-- The server that properties name. -/
def readServer (properties : Properties) : Except MetadataFault String :=
  match properties.get? PropertyName.source with
  | none => .error (.missing PropertyName.source)
  | some raw =>
      if Text.blank raw then .error (.empty PropertyName.source) else .ok (Text.trimmed raw)

/-- The number that properties hold. -/
def readNumber (properties : Properties) : Except MetadataFault Int64 :=
  match properties.get? PropertyName.version with
  | none => .error (.missing PropertyName.version)
  | some raw =>
      match Text.readInt64 (Text.trim raw.toList) with
      | .ok number => .ok number
      | .error cause => .error (.notANumber raw cause)

/-- The history that properties hold. -/
def readHistory (properties : Properties) : Except MetadataFault (List Revision) :=
  match properties.get? PropertyName.history with
  | none => .ok []
  | some raw =>
      if Text.blank raw then .ok []
      else
        match (Json.parse? raw).bind Revision.listOfJson? with
        | some history => .ok history
        | none => .error (.unreadable PropertyName.history)

/-- The lineage that properties hold. -/
def read (properties : Properties) : Except MetadataFault Lineage := do
  let server ← readServer properties
  let number ← readNumber properties
  let history ← readHistory properties
  return ⟨⟨server, number⟩, history⟩

/-- The lineage that properties hold, or the fault as one of the operation under way. -/
def ofProperties (properties : Properties) : Except Fault Lineage :=
  (read properties).mapError .metadata

/-- Puts a lineage into properties. -/
def writeTo (lineage : Lineage) (properties : Properties) : Properties :=
  ((properties.insert PropertyName.source lineage.current.server).insert PropertyName.version
      (Text.int64 lineage.current.number)).insert PropertyName.history
    (Revision.listToJson lineage.history).compact

end Lineage

end ReplicaSync
