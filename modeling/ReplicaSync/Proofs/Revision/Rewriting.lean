import ReplicaSync.Proofs.Revision.Properties
import ReplicaSync.Proofs.Text.Trimming

/-!
# Writing lineages and reading them back

Putting a lineage into properties changes three of them. Reading it back gives the lineage, except
that its current server comes back trimmed, and that a lineage with a blank server cannot be read.
The servers of earlier revisions come back as they were, blanks included. What has been read has a
trimmed server, so it is read back as it is, and comparing properties is comparing the lineages in
them (`Lineage.ofProperties_writeTo_trimmed`).
-/

set_option autoImplicit false

namespace ReplicaSync

namespace Lineage

/-- A server that is not blank is legible after trimming. -/
theorem legible_trimmed {server : String} (visible : Text.blank server = false) :
    Legible (Text.trimmed server) where
  visible := by
    rw [← Bool.not_eq_true, Text.blank_iff, Text.trimmed_trimmed, ← Text.blank_iff, visible]
    exact Bool.false_ne_true
  trimmed := Text.trimmed_trimmed server

section Reading

variable {properties : Properties} {lineage : Lineage}

theorem legible_of_readServer {server : String} (read : readServer properties = .ok server) :
    Legible server := by
  rw [readServer] at read
  split at read
  · cases read
  · split at read
    · cases read
    · next visible =>
        obtain rfl := Except.ok.inj read
        exact legible_trimmed (Bool.eq_false_iff.mpr visible)

/-- **A lineage that has been read has a legible server.** -/
theorem legible_of_ofProperties (found : ofProperties properties = .ok lineage) :
    Legible lineage.current.server := by
  rw [ofProperties, read] at found
  cases server_read : readServer properties with
  | error fault => rw [server_read] at found; cases found
  | ok server =>
      cases number_read : readNumber properties with
      | error fault => rw [server_read, number_read] at found; cases found
      | ok number =>
          cases history_read : readHistory properties with
          | error fault => rw [server_read, number_read, history_read] at found; cases found
          | ok history =>
              rw [server_read, number_read, history_read] at found
              cases found
              exact legible_of_readServer server_read

end Reading

section Writing

variable (lineage : Lineage) (properties : Properties)

/-- Putting a lineage into properties leaves all others as they are. -/
theorem get?_writeTo_of_ne {name : String} (not_source : name ≠ PropertyName.source)
    (not_version : name ≠ PropertyName.version) (not_history : name ≠ PropertyName.history) :
    (lineage.writeTo properties).get? name = properties.get? name := by
  rw [writeTo, NameMap.get?_insert, if_neg not_history, NameMap.get?_insert,
    if_neg not_version, NameMap.get?_insert, if_neg not_source]

/-- A lineage with a blank server is not read back. -/
theorem ofProperties_writeTo_of_blank (blank : Text.blank lineage.current.server = true) :
    ofProperties (lineage.writeTo properties) =
      .error (.metadata (.empty PropertyName.source)) := by
  have refused : readServer (lineage.writeTo properties) = .error (.empty PropertyName.source) := by
    rw [readServer, get?_source_writeTo]
    dsimp only
    rw [if_pos blank]
  rw [ofProperties, read, refused]
  rfl

theorem ofProperties_writeTo_eq :
    ofProperties (lineage.writeTo properties) =
      if Text.trimmed lineage.current.server = "" then
        .error (.metadata (.empty PropertyName.source))
      else
        .ok ⟨⟨Text.trimmed lineage.current.server, lineage.current.number⟩, lineage.history⟩ := by
  cases blank : Text.blank lineage.current.server with
  | true => rw [if_pos (Text.blank_iff.mp blank), ofProperties_writeTo_of_blank _ _ blank]
  | false =>
      have some_left : ¬ Text.trimmed lineage.current.server = "" := by
        rw [← Text.blank_iff, blank]
        exact Bool.false_ne_true
      rw [if_neg some_left, ofProperties, read_writeTo lineage properties blank]
      rfl

end Writing

/-- Properties into which legible lineages were put are in the conflict of the lineages. -/
theorem between_of_writeTo {destination source : Lineage}
    (destination_legible : Legible destination.current.server)
    (source_legible : Legible source.current.server) (held incoming : Properties) :
    Conflict.ofProperties (destination.writeTo held) (source.writeTo incoming) =
      .ok (Conflict.between destination source) :=
  Conflict.ofProperties_eq (ofProperties_writeTo destination_legible held)
    (ofProperties_writeTo source_legible incoming)

/-- **Writing a lineage and reading it back is exact up to trimming its server.** Only the three
properties of the lineage change. What is read is the lineage with its server trimmed, or the fault
of an empty server if nothing is left of it. A lineage that has been read comes back as it is, and
properties with legible lineages put into them are compared like the lineages. -/
theorem ofProperties_writeTo_trimmed (lineage : Lineage) (properties : Properties) :
    (∀ name, name ≠ PropertyName.source → name ≠ PropertyName.version →
      name ≠ PropertyName.history →
        (lineage.writeTo properties).get? name = properties.get? name) ∧
    (∃ server, Text.Trims lineage.current.server server ∧
      ofProperties (lineage.writeTo properties) =
        if server = "" then .error (.metadata (.empty PropertyName.source))
        else .ok ⟨⟨server, lineage.current.number⟩, lineage.history⟩) ∧
    (∀ found, ofProperties found = .ok lineage →
      ofProperties (lineage.writeTo properties) = .ok lineage) ∧
    ∀ (source : Lineage) (incoming : Properties),
      Legible lineage.current.server → Legible source.current.server →
        Conflict.ofProperties (lineage.writeTo properties) (source.writeTo incoming) =
          .ok (Conflict.between lineage source) := by
  refine ⟨fun name => get?_writeTo_of_ne lineage properties, ?_, ?_, ?_⟩
  · exact ⟨_, Text.trims_trimmed _, ofProperties_writeTo_eq lineage properties⟩
  · intro found read
    exact ofProperties_writeTo (legible_of_ofProperties read) properties
  · intro source incoming legible source_legible
    exact between_of_writeTo legible source_legible properties incoming

/-- A server with blanks around it, and one in its history. The one in front is trimmed when it is
read, the other never. What has been read is read back as it is, and it is in conflict with a
lineage that goes on from the server in the history. -/
theorem ofProperties_writeTo_trimmed_of_spaced :
    let spaced : Lineage := ⟨⟨"\u00a0a b\n", Int64.minValue⟩, [⟨" c ", 1⟩]⟩
    let plain : Lineage := ⟨⟨"a b", Int64.minValue⟩, [⟨" c ", 1⟩]⟩
    let source : Lineage := ⟨⟨"d", 2⟩, [⟨" c ", 1⟩]⟩
    ofProperties (spaced.writeTo .empty) = .ok plain ∧
      ofProperties (plain.writeTo .empty) = .ok plain ∧
      Conflict.ofProperties (plain.writeTo .empty) (source.writeTo .empty) =
        .ok (some ⟨plain.current, source.current, source.history⟩) := by
  intro spaced plain source
  have trims : Text.Trims "\u00a0a b\n" "a b" := Text.trims_iff.mpr (by decide)
  obtain ⟨-, ⟨server, trimmed, read⟩, -, -⟩ := ofProperties_writeTo_trimmed spaced .empty
  obtain rfl := (Text.trims_iff.mp trimmed).trans (Text.trims_iff.mp trims).symm
  rw [if_neg (by decide)] at read
  obtain ⟨-, -, again, compared⟩ := ofProperties_writeTo_trimmed plain .empty
  refine ⟨read, again _ read, ?_⟩
  rw [compared source .empty (by decide) (by decide)]
  rfl

end Lineage

end ReplicaSync
