import ReplicaSync.Conflict.Resolution
import ReplicaSync.Proofs.Json.Forms
import ReplicaSync.Proofs.NameMap

/-!
# Documents of revisions, properties, conflicts and resolutions

Every document that is stored is read back as what it was written from: a history
(`Revision.listOfJson?_parse?`), the properties of a file (`Properties.ofDocument_toDocument`), a
conflict (`Conflict.ofDocument_toDocument`), and a resolution (`Resolution.ofProperties_writeTo`).
The forms of revisions, lineages and retentions are faithful too.
-/

set_option autoImplicit false

namespace ReplicaSync

/-! ## Revisions and lineages -/

namespace Revision

theorem faithful : Json.Faithful toJson ofJson? where
  integral _ := ⟨trivial, Json.integral_ofInt _, trivial⟩
  read_write revision := by
    have fields : revision.toJson.fields? ["server_id", "version"] =
        some [some (.ofText revision.server), some (.ofInt revision.number.toInt)] := by
      rfl
    rw [ofJson?, fields]
    dsimp only
    rw [Json.int64?_ofInt]
    rfl

theorem faithful_list : Json.Faithful listToJson listOfJson? where
  integral := Json.integral_array_map faithful.integral
  read_write := Json.list?_array_map faithful.read_write

/-- **The document of a history is read as that history.** -/
theorem listOfJson?_parse? (revisions : List Revision) :
    (Json.parse? (listToJson revisions).compact).bind listOfJson? = some revisions :=
  faithful_list.parse?_bind revisions

end Revision

namespace Retention

theorem faithful : Json.Faithful toJson ofJson? where
  integral _ := ⟨Json.integral_ofNat _, trivial⟩
  read_write retention := by
    have fields : retention.toJson.fields? ["max_history_len"] =
        some [some (.ofNat retention.limit.toNat)] := by
      rfl
    rw [ofJson?, fields]
    dsimp only
    rw [Json.uint64?_ofNat]
    rfl

end Retention

namespace Lineage

theorem faithful : Json.Faithful toJson ofJson? where
  integral _ :=
    ⟨trivial, Json.integral_ofInt _, Revision.faithful_list.integral _, trivial⟩
  read_write lineage := by
    have fields : lineage.toJson.fields? ["server_id", "version", "history"] =
        some [some (.ofText lineage.current.server), some (.ofInt lineage.current.number.toInt),
          some (Revision.listToJson lineage.history)] := by
      rfl
    have history : Revision.listOfJson? (Revision.listToJson lineage.history) =
        some lineage.history := Revision.faithful_list.read_write lineage.history
    rw [ofJson?, fields]
    dsimp only
    rw [Json.int64?_ofInt, history]
    rfl

end Lineage

/-! ## Properties -/

namespace Properties

theorem entriesOfMembers?_map (entries : List (String × String)) :
    entriesOfMembers? ((entries.map fun entry => (entry.1, Json.ofText entry.2)).map
        fun member => (some member.1, member.2)) = some entries := by
  induction entries with
  | nil => rfl
  | cons entry rest ih =>
      have first : entryOfMember? (some entry.1, Json.ofText entry.2) = some entry := rfl
      rw [List.map_cons, List.map_cons, entriesOfMembers?, first]
      dsimp only
      rw [ih]
      rfl

theorem ofJson?_toJson (properties : Properties) : ofJson? properties.toJson = some properties := by
  have fields : properties.toJson.fields? ["properties"] =
      some [some (.record (properties.entries.map fun entry => (entry.1, .ofText entry.2)))] := by
    rfl
  rw [ofJson?, fields]
  dsimp only
  have entries := congrArg (Option.map NameMap.ofList) (entriesOfMembers?_map properties.entries)
  rw [Option.map_some, NameMap.ofList_entries] at entries
  exact entries

theorem integral_toJson (properties : Properties) : properties.toJson.Integral := by
  refine ⟨?_, trivial⟩
  change Json.IntegralMembers _
  induction properties.entries with
  | nil => trivial
  | cons entry rest ih => exact ⟨trivial, ih⟩

theorem faithful : Json.Faithful toJson ofJson? := ⟨integral_toJson, ofJson?_toJson⟩

/-- **The document of properties is read as those properties.** -/
theorem ofDocument_toDocument (properties : Properties) :
    ofDocument properties.toDocument = .ok properties := by
  have read : (Json.parse? properties.toDocument).bind ofJson? = some properties :=
    faithful.parse?_bind properties
  rw [ofDocument, read]

end Properties

/-! ## Conflicts and resolutions -/

namespace Conflict

theorem faithful : Json.Faithful toJson ofJson? where
  integral _ :=
    ⟨Revision.faithful.integral _, Revision.faithful.integral _,
      Revision.faithful_list.integral _, trivial⟩
  read_write conflict := by
    have fields : conflict.toJson.fields? ["current", "remote", "remote_history"] =
        some [some conflict.current.toJson, some conflict.remote.toJson,
          some (Revision.listToJson conflict.remoteHistory)] := by
      rfl
    have revision (named : Revision) : Revision.ofJson? named.toJson = some named :=
      Revision.faithful.read_write named
    have history : Revision.listOfJson? (Revision.listToJson conflict.remoteHistory) =
        some conflict.remoteHistory :=
      Revision.faithful_list.read_write conflict.remoteHistory
    rw [ofJson?, fields]
    dsimp only
    rw [revision, revision, history]
    rfl

/-- **The document of a conflict is read as that conflict.** -/
theorem ofDocument_toDocument (conflict : Conflict) :
    ofDocument conflict.toDocument = .ok conflict := by
  have read : (Json.parse? conflict.toDocument).bind ofJson? = some conflict :=
    faithful.parse?_bind conflict
  rw [ofDocument, read]

end Conflict

namespace Resolution

theorem faithful : Json.Faithful toJson ofJson? where
  integral _ := ⟨trivial, trivial, Json.integral_ofInt _, trivial⟩
  read_write resolution := by
    have fields : resolution.toJson.fields? ["strategy", "remote_server_id", "version"] =
        some [some resolution.strategy.toJson, some (.ofText resolution.server),
          some (.ofInt resolution.number.toInt)] := by
      rfl
    have strategy : Strategy.ofJson? resolution.strategy.toJson = some resolution.strategy := by
      cases resolution.strategy <;> rfl
    rw [ofJson?, fields]
    dsimp only
    rw [strategy, Json.int64?_ofInt]
    rfl

/-- **A resolution put into properties is read from them.** -/
theorem ofProperties_writeTo (resolution : Resolution) (properties : Properties) :
    ofProperties (resolution.writeTo properties) = .ok (some resolution) := by
  have stored : (resolution.writeTo properties).get? PropertyName.resolution =
      some resolution.toJson.compact := by
    rw [writeTo, NameMap.get?_insert, if_pos rfl]
  have read : (Json.parse? resolution.toJson.compact).bind ofJson? = some resolution :=
    faithful.parse?_bind resolution
  rw [ofProperties, stored]
  dsimp only
  rw [read]

end Resolution

end ReplicaSync
