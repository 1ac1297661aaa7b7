import ReplicaSync.Proofs.Json.Parsing
import ReplicaSync.Proofs.Json.Records
import ReplicaSync.Proofs.Revision.Properties
import ReplicaSync.Proofs.Text.Signed
import ReplicaSync.Proofs.Text.Trimming

/-!
# Which properties show a lineage

Properties show a lineage if one of them holds its server between blanks, another one the numeral of
its number between blanks, and a third one a JSON document of its history, where no history and a
blank one stand for the empty one (`Lineage.ShownBy`). Reading is exact: the lineage that properties
show is read, and where they show none, the first property that is at fault in the order server,
number, history is reported, whatever is behind it (`Lineage.reading_is_exact`).

In the history, a revision is a record of a server and a number (`Revision.Form`). It may hold other
members, or be an array of the two.
-/

set_option autoImplicit false

namespace ReplicaSync

/-! ## Revisions -/

namespace Revision

/-- The forms in JSON of which a revision is read. -/
inductive Form (value : Json) (revision : Revision) : Prop
  | record {number : Json.Number}
      (fields : Json.HasFields ["server_id", "version"] [.ofText revision.server, .number number]
        value)
      (denotes : number.Denotes revision.number.toInt)

theorem ofJson?_eq_some_iff (value : Json) (revision : Revision) :
    ofJson? value = some revision ↔ Form value revision := by
  constructor
  · intro read
    unfold ofJson? at read
    split at read
    · next server version fields =>
      obtain ⟨text, server_read, read⟩ := Option.bind_eq_some_iff.mp read
      obtain ⟨word, version_read, read⟩ := Option.bind_eq_some_iff.mp read
      obtain rfl := Option.some.inj read
      obtain rfl := Json.text?_eq_some_iff.mp server_read
      obtain ⟨number, rfl, denotes⟩ := Json.int64?_eq_some_iff.mp version_read
      exact .record (Json.fields?_eq_some_iff.mp fields) denotes
    · cases read
  · rintro ⟨fields, denotes⟩
    have found := Json.fields?_eq_some_iff.mpr fields
    have server_read := Json.text?_eq_some_iff.mpr (Eq.refl (Json.ofText revision.server))
    have version_read := Json.int64?_eq_some_iff.mpr ⟨_, rfl, denotes⟩
    rw [List.map_cons, List.map_cons, List.map_nil] at found
    rw [ofJson?, found]
    dsimp only
    rw [server_read, version_read]
    rfl

end Revision

namespace Lineage

/-! ## The three properties -/

/-- The servers that a property can name: what is left without the blanks around it, if anything
is. -/
def ShowsServer (property : Option String) (server : String) : Prop :=
  ∃ raw, property = some raw ∧ Text.Trims raw server ∧ server ≠ ""

/-- The numbers that a property can hold: a numeral with blanks around it. -/
def ShowsNumber (property : Option String) (number : Int64) : Prop :=
  ∃ raw numeral, property = some raw ∧ Text.Trims raw numeral ∧
    Text.Numeral numeral.toList number.toInt

/-- The histories that a property can hold. -/
inductive ShowsHistory : Option String → List Revision → Prop
  | absent : ShowsHistory none []
  | blank {raw : String} (nothing : Text.Trims raw "") : ShowsHistory (some raw) []
  | document {raw : String} {items : List Json} {history : List Revision}
      (spells : Json.Spells (Json.array items).tokens raw.toList)
      (forms : List.Forall₂ Revision.Form items history) : ShowsHistory (some raw) history

section Properties

variable {properties : Properties}

theorem readServer_eq_ok_iff {server : String} :
    readServer properties = .ok server ↔
      ShowsServer (properties.get? PropertyName.source) server := by
  rw [readServer]
  cases properties.get? PropertyName.source with
  | none =>
      constructor
      · rintro ⟨⟩
      · rintro ⟨_, ⟨⟩, _⟩
  | some raw =>
      dsimp only
      constructor
      · intro read
        split at read
        · cases read
        · next visible =>
          obtain rfl := Except.ok.inj read
          exact ⟨raw, rfl, Text.trims_trimmed raw, mt Text.blank_iff.mpr visible⟩
      · rintro ⟨_, ⟨⟩, trims, nonempty⟩
        obtain rfl := Text.trims_iff.mp trims
        rw [if_neg (mt Text.blank_iff.mp nonempty)]

theorem readNumber_eq_ok_iff {number : Int64} :
    readNumber properties = .ok number ↔
      ShowsNumber (properties.get? PropertyName.version) number := by
  rw [readNumber]
  cases properties.get? PropertyName.version with
  | none =>
      constructor
      · rintro ⟨⟩
      · rintro ⟨_, _, ⟨⟩, _⟩
  | some raw =>
      dsimp only
      constructor
      · intro read
        split at read
        · next found =>
          obtain rfl := Except.ok.inj read
          refine ⟨raw, Text.trimmed raw, rfl, Text.trims_trimmed raw, ?_⟩
          rw [Text.trimmed, String.toList_ofList]
          exact Text.readInt64_eq_ok_iff.mp found
        · cases read
      · rintro ⟨_, _, ⟨⟩, trims, numeral⟩
        obtain rfl := Text.trims_iff.mp trims
        rw [Text.trimmed, String.toList_ofList] at numeral
        rw [Text.readInt64_eq_ok_iff.mpr numeral]

/-- The document of an array has a bracket in it. -/
theorem bracket_mem_of_spells {tokens : List Json.Token} {characters : List Char}
    (spells : Json.Spells tokens characters) (opens : tokens.head? = some .openArray) :
    '[' ∈ characters := by
  induction spells with
  | done => cases opens
  | space _ _ ih => exact List.mem_cons_of_mem _ (ih opens)
  | punctuation means _ _ =>
      cases opens
      unfold Json.punctuation? at means
      split at means <;> first | exact List.mem_cons_self | cases means
  | text _ _ _ => cases opens
  | word _ _ _ _ => cases opens

theorem head?_tokens_array (items : List Json) :
    (Json.array items).tokens.head? = some .openArray := by
  cases items <;> rfl

/-- A blank text is no document of an array. -/
theorem not_spells_of_blank {raw : String} (blank : Text.blank raw = true) (items : List Json) :
    ¬ Json.Spells (Json.array items).tokens raw.toList := by
  intro spells
  have bracket := bracket_mem_of_spells spells (head?_tokens_array items)
  have refused := List.all_eq_true.mp blank '[' bracket
  cases refused

theorem parse?_bind_listOfJson?_eq_some_iff {raw : String} {history : List Revision} :
    (Json.parse? raw).bind Revision.listOfJson? = some history ↔
      ∃ items, Json.Spells (Json.array items).tokens raw.toList ∧
        List.Forall₂ Revision.Form items history := by
  rw [Option.bind_eq_some_iff]
  constructor
  · rintro ⟨value, parsed, read⟩
    obtain ⟨items, rfl, forms⟩ := (Json.list?_eq_some_iff Revision.ofJson?_eq_some_iff).mp read
    exact ⟨items, Json.parse?_eq_some_iff.mp parsed, forms⟩
  · rintro ⟨items, spells, forms⟩
    exact ⟨.array items, Json.parse?_eq_some_iff.mpr spells,
      (Json.list?_eq_some_iff Revision.ofJson?_eq_some_iff).mpr ⟨items, rfl, forms⟩⟩

theorem readHistory_eq_ok_iff {history : List Revision} :
    readHistory properties = .ok history ↔
      ShowsHistory (properties.get? PropertyName.history) history := by
  rw [readHistory]
  cases properties.get? PropertyName.history with
  | none =>
      constructor
      · rintro ⟨⟩
        exact .absent
      · rintro ⟨⟩
        rfl
  | some raw =>
      dsimp only
      -- a blank text is no document, so there is one way only in which a text shows a history
      by_cases blank : Text.blank raw = true
      · rw [if_pos blank]
        constructor
        · rintro ⟨⟩
          exact .blank (Text.trims_iff.mpr (Text.blank_iff.mp blank).symm)
        · intro shows
          cases shows with
          | blank _ => rfl
          | @document _ items _ spells _ => exact absurd spells (not_spells_of_blank blank items)
      · rw [if_neg blank]
        constructor
        · intro read
          split at read
          · next found =>
            obtain rfl := Except.ok.inj read
            obtain ⟨items, spells, forms⟩ := parse?_bind_listOfJson?_eq_some_iff.mp found
            exact .document spells forms
          · cases read
        · intro shows
          cases shows with
          | blank nothing =>
              exact absurd (Text.blank_iff.mpr (Text.trims_iff.mp nothing).symm) blank
          | document spells forms =>
              rw [parse?_bind_listOfJson?_eq_some_iff.mpr ⟨_, spells, forms⟩]

/-! ## Faults -/

/-- What is wrong with a property that shows no server. -/
inductive ServerFault : Option String → MetadataFault → Prop
  | missing : ServerFault none (.missing PropertyName.source)
  | empty {raw : String} (nothing : Text.Trims raw "") :
      ServerFault (some raw) (.empty PropertyName.source)

/-- What is wrong with a property that shows no number. -/
inductive NumberFault : Option String → MetadataFault → Prop
  | missing : NumberFault none (.missing PropertyName.version)
  | notANumber {raw inner : String} {cause : NumeralFault} (trims : Text.Trims raw inner)
      (misread : Text.Misread inner.toList cause) : NumberFault (some raw) (.notANumber raw cause)

/-- What is wrong with a property that shows no history. -/
inductive HistoryFault : Option String → MetadataFault → Prop
  | unreadable {property : Option String}
      (shows_none : ∀ history, ¬ ShowsHistory property history) :
      HistoryFault property (.unreadable PropertyName.history)

theorem readServer_eq_error_iff {cause : MetadataFault} :
    readServer properties = .error cause ↔
      ServerFault (properties.get? PropertyName.source) cause := by
  rw [readServer]
  cases properties.get? PropertyName.source with
  | none =>
      constructor
      · rintro ⟨⟩
        exact .missing
      · rintro ⟨⟩
        rfl
  | some raw =>
      dsimp only
      constructor
      · intro read
        split at read
        · next blank =>
          obtain rfl := Except.error.inj read
          exact .empty (Text.trims_iff.mpr (Text.blank_iff.mp blank).symm)
        · cases read
      · intro fault
        cases fault with
        | empty nothing => rw [if_pos (Text.blank_iff.mpr (Text.trims_iff.mp nothing).symm)]

theorem readNumber_eq_error_iff {cause : MetadataFault} :
    readNumber properties = .error cause ↔
      NumberFault (properties.get? PropertyName.version) cause := by
  rw [readNumber]
  cases properties.get? PropertyName.version with
  | none =>
      constructor
      · rintro ⟨⟩
        exact .missing
      · rintro ⟨⟩
        rfl
  | some raw =>
      dsimp only
      constructor
      · intro read
        split at read
        · cases read
        · next misread =>
          obtain rfl := Except.error.inj read
          refine .notANumber (Text.trims_trimmed raw) ?_
          rw [Text.trimmed, String.toList_ofList]
          exact Text.readInt64_eq_error_iff.mp misread
      · intro fault
        cases fault with
        | notANumber trims misread =>
            obtain rfl := Text.trims_iff.mp trims
            rw [Text.trimmed, String.toList_ofList] at misread
            rw [Text.readInt64_eq_error_iff.mpr misread]

theorem readHistory_fault {cause : MetadataFault}
    (refused : readHistory properties = .error cause) :
    cause = .unreadable PropertyName.history := by
  unfold readHistory at refused
  split at refused
  · cases refused
  · split at refused
    · cases refused
    · split at refused
      · cases refused
      · exact (Except.error.inj refused).symm

/-- No history is read exactly if none is shown. -/
theorem readHistory_eq_error_iff {cause : MetadataFault} :
    readHistory properties = .error cause ↔
      HistoryFault (properties.get? PropertyName.history) cause := by
  constructor
  · intro refused
    obtain rfl := readHistory_fault refused
    refine .unreadable fun history shows => ?_
    rw [readHistory_eq_ok_iff.mpr shows] at refused
    cases refused
  · rintro ⟨shows_none⟩
    cases read : readHistory properties with
    | ok history => exact absurd (readHistory_eq_ok_iff.mp read) (shows_none history)
    | error cause => rw [readHistory_fault read]

end Properties

/-! ## Lineages -/

/-- Properties that show a lineage. -/
structure ShownBy (lineage : Lineage) (properties : Properties) : Prop where
  server : ShowsServer (properties.get? PropertyName.source) lineage.current.server
  number : ShowsNumber (properties.get? PropertyName.version) lineage.current.number
  history : ShowsHistory (properties.get? PropertyName.history) lineage.history

/-- The fault of properties that show no lineage. The properties before the one at fault are in
order, and nothing is said about those behind it. -/
inductive FirstFault (properties : Properties) (cause : MetadataFault) : Prop
  | server (fault : ServerFault (properties.get? PropertyName.source) cause)
  | number {server : String}
      (server_shown : ShowsServer (properties.get? PropertyName.source) server)
      (fault : NumberFault (properties.get? PropertyName.version) cause)
  | history {server : String} {number : Int64}
      (server_shown : ShowsServer (properties.get? PropertyName.source) server)
      (number_shown : ShowsNumber (properties.get? PropertyName.version) number)
      (fault : HistoryFault (properties.get? PropertyName.history) cause)

section Reading

variable {properties : Properties}

theorem read_eq_ok_iff {lineage : Lineage} :
    read properties = .ok lineage ↔
      readServer properties = .ok lineage.current.server ∧
        readNumber properties = .ok lineage.current.number ∧
          readHistory properties = .ok lineage.history := by
  rw [read]
  constructor
  · intro found
    cases server_read : readServer properties with
    | error cause => rw [server_read] at found; cases found
    | ok server =>
        cases number_read : readNumber properties with
        | error cause => rw [server_read, number_read] at found; cases found
        | ok number =>
            cases history_read : readHistory properties with
            | error cause => rw [server_read, number_read, history_read] at found; cases found
            | ok history =>
                rw [server_read, number_read, history_read] at found
                cases found
                exact ⟨rfl, rfl, rfl⟩
  · rintro ⟨server_read, number_read, history_read⟩
    rw [server_read, number_read, history_read]
    rfl

theorem read_eq_error_iff {cause : MetadataFault} :
    read properties = .error cause ↔
      readServer properties = .error cause ∨
        (∃ server, readServer properties = .ok server ∧ readNumber properties = .error cause) ∨
          ∃ server number, readServer properties = .ok server ∧
            readNumber properties = .ok number ∧ readHistory properties = .error cause := by
  rw [read]
  cases readServer properties with
  | error found => simp [bind, Except.bind]
  | ok server =>
      cases readNumber properties with
      | error found => simp [bind, Except.bind]
      | ok number =>
          cases readHistory properties with
          | error found => simp [bind, Except.bind]
          | ok history => simp [bind, Except.bind, pure, Except.pure]

theorem ofProperties_eq_ok_iff {lineage : Lineage} :
    ofProperties properties = .ok lineage ↔ lineage.ShownBy properties := by
  have unwrapped : ofProperties properties = .ok lineage ↔ read properties = .ok lineage := by
    rw [ofProperties]
    cases read properties with
    | ok found => rw [Except.mapError, Except.ok.injEq, Except.ok.injEq]
    | error cause =>
        constructor
        · rintro ⟨⟩
        · rintro ⟨⟩
  rw [unwrapped, read_eq_ok_iff, readServer_eq_ok_iff, readNumber_eq_ok_iff, readHistory_eq_ok_iff]
  constructor
  · rintro ⟨server, number, history⟩
    exact ⟨server, number, history⟩
  · rintro ⟨server, number, history⟩
    exact ⟨server, number, history⟩

theorem ofProperties_eq_error_iff {fault : Fault} :
    ofProperties properties = .error fault ↔
      ∃ cause, fault = .metadata cause ∧ FirstFault properties cause := by
  have unwrapped : ofProperties properties = .error fault ↔
      ∃ cause, fault = .metadata cause ∧ read properties = .error cause := by
    rw [ofProperties]
    cases read properties with
    | ok found =>
        constructor
        · rintro ⟨⟩
        · rintro ⟨_, _, ⟨⟩⟩
    | error cause =>
        rw [Except.mapError, Except.error.injEq]
        constructor
        · rintro rfl
          exact ⟨cause, rfl, rfl⟩
        · rintro ⟨_, rfl, ⟨⟩⟩
          rfl
  rw [unwrapped]
  refine exists_congr fun cause => and_congr_right fun _ => ?_
  rw [read_eq_error_iff, readServer_eq_error_iff, readNumber_eq_error_iff,
    readHistory_eq_error_iff]
  constructor
  · rintro (fault | ⟨_, server_read, fault⟩ | ⟨_, _, server_read, number_read, fault⟩)
    · exact .server fault
    · exact .number (readServer_eq_ok_iff.mp server_read) fault
    · exact .history (readServer_eq_ok_iff.mp server_read) (readNumber_eq_ok_iff.mp number_read)
        fault
  · rintro (fault | ⟨server_shown, fault⟩ | ⟨server_shown, number_shown, fault⟩)
    · exact .inl fault
    · exact .inr (.inl ⟨_, readServer_eq_ok_iff.mpr server_shown, fault⟩)
    · exact .inr (.inr ⟨_, _, readServer_eq_ok_iff.mpr server_shown,
        readNumber_eq_ok_iff.mpr number_shown, fault⟩)

end Reading

/-- **Reading a lineage is exact.** A lineage is read from properties exactly if they show it. A
fault is reported exactly if it is that of the first property at fault, in the order server, number,
history. No other property matters. -/
theorem ofProperties_reads_exactly (properties : Properties) :
    (∀ lineage : Lineage,
      ofProperties properties = .ok lineage ↔ lineage.ShownBy properties) ∧
    (∀ fault : Fault, ofProperties properties = .error fault ↔
      ∃ cause, fault = .metadata cause ∧ FirstFault properties cause) ∧
    ∀ others : Properties,
      (∀ name ∈ [PropertyName.source, PropertyName.version, PropertyName.history],
        others.get? name = properties.get? name) →
      ofProperties others = ofProperties properties := by
  refine ⟨fun lineage => ofProperties_eq_ok_iff, fun fault => ofProperties_eq_error_iff, ?_⟩
  intro others same
  have source := same PropertyName.source (by decide)
  have version := same PropertyName.version (by decide)
  have history := same PropertyName.history (by decide)
  rw [ofProperties, ofProperties, read_congr source version history]

/-- Blanks and zeros in front, a member that is no field, and a revision given as an array. A mark
of a conflict does not matter. A number that is at fault is reported before the history is read. -/
theorem ofProperties_reads_exactly_of_free_forms :
    let history := "[\x7b\"version\":-1,\"x\":[1e999],\"server_id\":\" c\"\x7d,[\"d\",2]]"
    let properties : Properties := .ofList [(PropertyName.source, "\u00a0a b\n"),
      (PropertyName.version, " -09223372036854775808\t"), (PropertyName.history, history)]
    let lineage : Lineage := ⟨⟨"a b", Int64.minValue⟩, [⟨" c", -1⟩, ⟨"d", 2⟩]⟩
    let faulty := (properties.insert PropertyName.version "9223372036854775808x").insert
      PropertyName.history "?"
    lineage.ShownBy properties ∧
      ofProperties (properties.insert PropertyName.conflict "true") = .ok lineage ∧
      FirstFault faulty (.notANumber "9223372036854775808x" .tooLarge) := by
  intro history properties lineage faulty
  obtain ⟨reads, -, only⟩ := ofProperties_reads_exactly properties
  obtain ⟨-, refuses, -⟩ := ofProperties_reads_exactly faulty
  have found : ofProperties properties = .ok lineage := by decide +kernel
  have others := only (properties.insert PropertyName.conflict "true") (by decide +kernel)
  have refused : ofProperties faulty =
      .error (.metadata (.notANumber "9223372036854775808x" .tooLarge)) := by decide +kernel
  obtain ⟨_, ⟨⟩, fault⟩ := (refuses _).mp refused
  exact ⟨(reads lineage).mp found, others.trans found, fault⟩

end Lineage

end ReplicaSync
