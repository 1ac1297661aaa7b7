import ReplicaSync.Conflict.Artifact
import ReplicaSync.Proofs.Revision.Documents
import ReplicaSync.Proofs.Text.Numerals

/-!
# What properties show

A lineage put into properties is read from them again, with its server trimmed
(`Lineage.read_writeTo`). Reading a lineage looks at three properties only, and reading a
resolution at one. So marking a conflict, deciding about it and clearing it away leave the lineage
alone, and marking a conflict leaves the resolution alone. Comparing properties reads both lineages
and compares them (`Conflict.ofProperties_eq`).
-/

set_option autoImplicit false

namespace ReplicaSync

/-! ## Lineages -/

namespace Lineage

/-- Whether a server is named by a text that reading leaves as it is. -/
structure Legible (server : String) : Prop where
  visible : Text.blank server = false
  trimmed : Text.trimmed server = server

instance (server : String) : Decidable (Legible server) :=
  decidable_of_iff (Text.blank server = false ∧ Text.trimmed server = server)
    ⟨fun ⟨visible, trimmed⟩ => ⟨visible, trimmed⟩, fun ⟨visible, trimmed⟩ => ⟨visible, trimmed⟩⟩

variable {left right : Properties}

/-- **Reading a lineage looks at three properties only.** -/
theorem read_congr (source : left.get? PropertyName.source = right.get? PropertyName.source)
    (version : left.get? PropertyName.version = right.get? PropertyName.version)
    (history : left.get? PropertyName.history = right.get? PropertyName.history) :
    read left = read right := by
  rw [read, read, readServer, readServer, readNumber, readNumber, readHistory, readHistory,
    source, version, history]

theorem ofProperties_insert {name : String} (other : name ≠ PropertyName.source ∧
    name ≠ PropertyName.version ∧ name ≠ PropertyName.history) (properties : Properties)
    (value : String) : ofProperties (properties.insert name value) = ofProperties properties := by
  obtain ⟨not_source, not_version, not_history⟩ := other
  rw [ofProperties, ofProperties]
  congr 1
  apply read_congr
  · rw [NameMap.get?_insert, if_neg not_source.symm]
  · rw [NameMap.get?_insert, if_neg not_version.symm]
  · rw [NameMap.get?_insert, if_neg not_history.symm]

theorem ofProperties_erase {name : String} (other : name ≠ PropertyName.source ∧
    name ≠ PropertyName.version ∧ name ≠ PropertyName.history) (properties : Properties) :
    ofProperties (properties.erase name) = ofProperties properties := by
  obtain ⟨not_source, not_version, not_history⟩ := other
  rw [ofProperties, ofProperties]
  congr 1
  apply read_congr
  · rw [NameMap.get?_erase, if_neg not_source.symm]
  · rw [NameMap.get?_erase, if_neg not_version.symm]
  · rw [NameMap.get?_erase, if_neg not_history.symm]

/-- The document of a history is not blank, as it begins with a bracket. -/
theorem blank_compact_listToJson (revisions : List Revision) :
    Text.blank (Revision.listToJson revisions).compact = false := by
  cases revisions with
  | nil => decide
  | cons revision rest =>
      rw [Text.blank, Json.compact, String.toList_ofList]
      rfl

theorem get?_source_writeTo (lineage : Lineage) (properties : Properties) :
    (lineage.writeTo properties).get? PropertyName.source = some lineage.current.server := by
  rw [writeTo, NameMap.get?_insert, if_neg (by decide), NameMap.get?_insert,
    if_neg (by decide), NameMap.get?_insert, if_pos rfl]

/-- **A lineage put into properties is read from them, with its server trimmed.** -/
theorem read_writeTo (lineage : Lineage) (properties : Properties)
    (visible : Text.blank lineage.current.server = false) :
    read (lineage.writeTo properties) =
      .ok ⟨⟨Text.trimmed lineage.current.server, lineage.current.number⟩, lineage.history⟩ := by
  have version : (lineage.writeTo properties).get? PropertyName.version =
      some (Text.int64 lineage.current.number) := by
    rw [writeTo, NameMap.get?_insert, if_neg (by decide), NameMap.get?_insert, if_pos rfl]
  have history : (lineage.writeTo properties).get? PropertyName.history =
      some (Revision.listToJson lineage.history).compact := by
    rw [writeTo, NameMap.get?_insert, if_pos rfl]
  have server_read : readServer (lineage.writeTo properties) =
      .ok (Text.trimmed lineage.current.server) := by
    rw [readServer, get?_source_writeTo]
    dsimp only
    rw [visible]
    rfl
  have number_read : readNumber (lineage.writeTo properties) = .ok lineage.current.number := by
    rw [readNumber, version]
    dsimp only
    rw [Text.readInt64_trim_int64]
  have history_read : readHistory (lineage.writeTo properties) = .ok lineage.history := by
    rw [readHistory, history]
    dsimp only
    rw [blank_compact_listToJson, Revision.listOfJson?_parse?]
    rfl
  rw [read, server_read, number_read, history_read]
  rfl

theorem ofProperties_writeTo {lineage : Lineage} (legible : Legible lineage.current.server)
    (properties : Properties) : ofProperties (lineage.writeTo properties) = .ok lineage := by
  rw [ofProperties, read_writeTo lineage properties legible.visible, legible.trimmed]
  rfl

/-- Clearing an artifact away leaves the lineage. -/
theorem ofProperties_unmark (properties : Properties) :
    ofProperties (Artifact.unmark properties) = ofProperties properties := by
  rw [Artifact.unmark, ofProperties_erase (by decide), ofProperties_erase (by decide)]

/-- Putting a lineage into properties leaves the mark of a conflict as it is. -/
theorem inConflict_writeTo (lineage : Lineage) (properties : Properties) :
    (lineage.writeTo properties).inConflict = properties.inConflict := by
  rw [Properties.inConflict, writeTo, NameMap.get?_insert, if_neg (by decide),
    NameMap.get?_insert, if_neg (by decide), NameMap.get?_insert, if_neg (by decide)]
  rfl

end Lineage

/-! ## Resolutions -/

namespace Resolution

/-- Reading a resolution looks at one property only. -/
theorem ofProperties_congr {left right : Properties}
    (same : left.get? PropertyName.resolution = right.get? PropertyName.resolution) :
    ofProperties left = ofProperties right := by
  rw [ofProperties, ofProperties, same]

theorem ofProperties_insert {name : String} (other : name ≠ PropertyName.resolution)
    (properties : Properties) (value : String) :
    ofProperties (properties.insert name value) = ofProperties properties := by
  apply ofProperties_congr
  rw [NameMap.get?_insert, if_neg other.symm]

theorem ofProperties_empty : ofProperties .empty = .ok none := rfl

/-- Clearing an artifact away takes the resolution with it. -/
theorem ofProperties_unmark (properties : Properties) :
    ofProperties (Artifact.unmark properties) = .ok none := by
  rw [ofProperties, Artifact.unmark, NameMap.get?_erase, if_pos rfl]

theorem exists_of_ofProperties {properties : Properties} {resolution : Resolution}
    (read : ofProperties properties = .ok (some resolution)) :
    ∃ text, properties.get? PropertyName.resolution = some text := by
  rw [ofProperties] at read
  split at read
  · cases read
  · next text found => exact ⟨text, found⟩

end Resolution

/-! ## Conflicts -/

namespace Conflict

variable {held incoming : Properties} {lineage source : Lineage}

theorem ofProperties_eq (held_read : Lineage.ofProperties held = .ok lineage)
    (read : Lineage.ofProperties incoming = .ok source) :
    ofProperties held incoming = .ok (between lineage source) := by
  rw [ofProperties, held_read, read]
  rfl

/-- Properties can be compared only if both lineages can be read. -/
theorem exists_of_ofProperties {found : Option Conflict}
    (compared : ofProperties held incoming = .ok found) :
    ∃ lineage source, Lineage.ofProperties held = .ok lineage ∧
      Lineage.ofProperties incoming = .ok source ∧ between lineage source = found := by
  cases held_read : Lineage.ofProperties held with
  | error fault =>
      rw [ofProperties, held_read] at compared
      cases compared
  | ok lineage =>
      cases read : Lineage.ofProperties incoming with
      | error fault =>
          rw [ofProperties, held_read, read] at compared
          cases compared
      | ok source =>
          rw [ofProperties_eq held_read read] at compared
          exact ⟨lineage, source, rfl, rfl, Except.ok.inj compared⟩

/-- Clearing an artifact away does not change what the file is in conflict with. -/
theorem ofProperties_unmark (held incoming : Properties) :
    ofProperties (Artifact.unmark held) incoming = ofProperties held incoming := by
  rw [ofProperties, ofProperties, Lineage.ofProperties_unmark]

end Conflict

/-! ## The properties of a file -/

/-- Properties that show a lineage, and a resolution or none. -/
structure Properties.Show (properties : Properties) (lineage : Lineage)
    (resolution : Option Resolution) : Prop where
  lineage_eq : Lineage.ofProperties properties = .ok lineage
  resolution_eq : Resolution.ofProperties properties = .ok resolution

namespace Properties.Show

variable {properties : Properties} {lineage : Lineage} {resolution : Option Resolution}

theorem mark (shown : properties.Show lineage resolution) :
    (Artifact.mark properties).Show lineage resolution := by
  constructor
  · rw [Artifact.mark, Lineage.ofProperties_insert (by decide), shown.lineage_eq]
  · rw [Artifact.mark, Resolution.ofProperties_insert (by decide), shown.resolution_eq]

theorem resolve (shown : properties.Show lineage resolution) (decided : Resolution) :
    (decided.writeTo properties).Show lineage (some decided) := by
  constructor
  · rw [Resolution.writeTo, Lineage.ofProperties_insert (by decide), shown.lineage_eq]
  · exact Resolution.ofProperties_writeTo decided properties

/-- Putting another lineage in place leaves the resolution. -/
theorem writeTo {written : Lineage} (legible : Lineage.Legible written.current.server)
    (before : Resolution.ofProperties properties = .ok resolution) :
    (written.writeTo properties).Show written resolution := by
  constructor
  · exact Lineage.ofProperties_writeTo legible properties
  · rw [Lineage.writeTo, Resolution.ofProperties_insert (by decide),
      Resolution.ofProperties_insert (by decide), Resolution.ofProperties_insert (by decide),
      before]

end Properties.Show

end ReplicaSync
