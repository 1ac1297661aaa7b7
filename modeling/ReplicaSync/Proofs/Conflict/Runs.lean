import Mathlib.Data.List.Induction
import Mathlib.Data.Option.Basic
import ReplicaSync.Proofs.Conflict.Calls
import ReplicaSync.Proofs.NameMap

/-!
# Runs of calls about artifacts

Calls set artifacts up and clear them away, on any files and in any order. Three things have to
agree after every call: the artifact among the settings, the mark among the properties of the file,
and what the index knows. They do so from a workspace on, in which no file is marked, no artifact is
set up and the index knows nothing (`ArtifactCall.agreement_of_run`).

The last call on a file says whether there is an artifact and which. The file is marked if and only
if there is one, and the index lists it among the files in conflict if and only if it has properties
besides. A call on a file that cannot be read fails and changes nothing.
-/

set_option autoImplicit false

namespace ReplicaSync

namespace ArtifactCall

/-- Carries out calls one after the other. -/
def runAll {ι : Type} [SearchIndex ι] (workspace : Workspace Store ι) :
    List ArtifactCall → List (Except Fault Unit) × Workspace Store ι
  | [] => ([], workspace)
  | call :: later =>
      let (answer, after) := call.run workspace
      let (answers, final) := runAll after later
      (answer :: answers, final)

/-- The artifact that the last of some calls on a file leaves. -/
def left? (calls : List ArtifactCall) (name : String) : Option Conflict :=
  (calls.reverse.find? fun call => call.file == name).bind artifact?

section Calls

variable {calls : List ArtifactCall} {call : ArtifactCall} {other : String}

theorem left?_concat :
    left? (calls ++ [call]) other =
      if call.file = other then call.artifact? else left? calls other := by
  rw [left?, left?, List.reverse_concat, List.find?_cons]
  by_cases same : call.file = other
  · rw [if_pos same, beq_iff_eq.mpr same, Option.bind_some]
  · rw [if_neg same, beq_eq_false_iff_ne.mpr same]

/-- Where an artifact is left, there was a call. -/
theorem exists_of_left? {conflict : Conflict} (found : left? calls other = some conflict) :
    ∃ call ∈ calls, call.file = other := by
  obtain ⟨call, last, -⟩ := Option.bind_eq_some_iff.mp found
  have member : call ∈ calls := List.mem_reverse.mp (List.mem_of_find?_eq_some last)
  have about : call.file = other := by simpa using List.find?_some last
  exact ⟨call, member, about⟩

theorem runAll_concat {ι : Type} [SearchIndex ι] (workspace : Workspace Store ι)
    (calls : List ArtifactCall) (call : ArtifactCall) :
    runAll workspace (calls ++ [call]) =
      ((runAll workspace calls).1 ++ [(call.run (runAll workspace calls).2).1],
        (call.run (runAll workspace calls).2).2) := by
  induction calls generalizing workspace with
  | nil => rfl
  | cons first rest ih =>
      rw [List.cons_append, runAll, runAll]
      dsimp only
      rw [ih, List.cons_append]

end Calls

/-! ## What is known after calls -/

/-- What calls have made of the properties of a file. -/
structure Edited (calls : List ArtifactCall) (name : String) (before now : Properties) :
    Prop where
  /-- The file is marked if and only if an artifact is left. -/
  mark : now.inConflict = (left? calls name).isSome
  /-- A resolution is gone once the artifact has been cleared away. -/
  resolution : now.get? PropertyName.resolution =
    if .remove name ∈ calls then none else before.get? PropertyName.resolution
  /-- All else is as before. -/
  others : ∀ property, property ≠ PropertyName.conflict → property ≠ PropertyName.resolution →
    now.get? property = before.get? property

/-- How a workspace stands to a file after calls. The file had some properties before, or none, and
now has others. -/
structure Agrees (calls : List ArtifactCall) (name : String) (held now : Option Properties)
    (workspace : Workspace Store Index) : Prop where
  loaded : workspace.loaded name = .ok now
  edited : Option.Rel (Edited calls name) held now
  artifact : workspace.artifact name = .ok (left? calls name)
  indexed : workspace.index.files.get? name =
    if ∃ call ∈ calls, call.file = name then now else none

/-- What is known of a workspace after calls that began at another one. -/
structure Consistent (start : Workspace Store Index) (calls : List ArtifactCall)
    (workspace : Workspace Store Index) : Prop where
  sound : workspace.store.poisoned = false
  /-- Of a file that could be read everything agrees. -/
  agrees : ∀ name held, start.loaded name = .ok held → ∃ now, Agrees calls name held now workspace
  /-- A file that could not be read cannot be read now, and nothing of it has changed. -/
  unreadable : ∀ name fault, start.loaded name = .error fault →
    workspace.loaded name = .error fault ∧ workspace.traces name = start.traces name
  /-- All settings but artifacts are as before. -/
  settings : ∀ key, (∀ name, key ≠ Artifact.key name) →
    workspace.store.tables.settings.get? key = start.store.tables.settings.get? key

section Step

variable {calls : List ArtifactCall} {call : ArtifactCall} {name : String}

theorem Edited.of_unmarked {properties : Properties} (unmarked : properties.inConflict = false) :
    Edited [] name properties properties where
  mark := unmarked
  resolution := (if_neg List.not_mem_nil).symm
  others := fun _ _ _ => rfl

theorem Edited.here {before now : Properties} (edited : Edited calls call.file before now) :
    Edited (calls ++ [call]) call.file before (call.edit now) where
  mark := by rw [inConflict_edit, left?_concat, if_pos rfl]
  resolution := by
    cases call with
    | create name conflict =>
        have alike : ArtifactCall.remove name ∈ calls ++ [.create name conflict] ↔
            ArtifactCall.remove name ∈ calls := by simp
        rw [edit, get?_mark, if_neg (by decide), edited.resolution, file, if_congr alike rfl rfl]
    | remove name =>
        have removed : ArtifactCall.remove name ∈ calls ++ [.remove name] :=
          List.mem_append_right _ List.mem_cons_self
        rw [edit, get?_unmark, if_pos rfl, file, if_pos removed]
  others := by
    intro property not_conflict not_resolution
    rw [get?_edit_of_ne call now not_conflict not_resolution,
      edited.others property not_conflict not_resolution]

theorem Edited.elsewhere {before now : Properties} (edited : Edited calls name before now)
    (elsewhere : name ≠ call.file) : Edited (calls ++ [call]) name before now where
  mark := by rw [edited.mark, left?_concat, if_neg elsewhere.symm]
  resolution := by
    have alike : ArtifactCall.remove name ∈ calls ++ [call] ↔ ArtifactCall.remove name ∈ calls := by
      rw [List.mem_append, List.mem_singleton, or_iff_left]
      rintro rfl
      exact elsewhere rfl
    rw [edited.resolution, if_congr alike rfl rfl]
  others := edited.others

variable {held now : Option Properties} {workspace after : Workspace Store Index}

/-- A call on a file keeps what is known of it in agreement. -/
theorem Agrees.here (agrees : Agrees calls call.file held now workspace)
    (loaded : after.loaded call.file = .ok (now.map call.edit))
    (artifact : after.artifact call.file = .ok call.artifact?)
    (index : after.index = Artifact.reindexed call.file workspace.index (now.map call.edit)) :
    Agrees (calls ++ [call]) call.file held (now.map call.edit) after where
  loaded := loaded
  edited := by
    cases agrees.edited with
    | none => exact .none
    | some edited => exact .some edited.here
  artifact := by rw [artifact, left?_concat, if_pos rfl]
  indexed := by
    have touched : ∃ earlier ∈ calls ++ [call], earlier.file = call.file :=
      ⟨call, List.mem_append_right _ List.mem_cons_self, rfl⟩
    rw [index, if_pos touched]
    cases now with
    | none => exact agrees.indexed.trans (ite_self none)
    | some properties => exact (NameMap.get?_insert _ _ _ _).trans (if_pos rfl)

/-- A call elsewhere keeps what is known of a file in agreement, as nothing of it changes. -/
theorem Agrees.elsewhere (agrees : Agrees calls name held now workspace)
    (sound : workspace.store.poisoned = false) (sound_after : after.store.poisoned = false)
    (elsewhere : name ≠ call.file) (same : after.traces name = workspace.traces name) :
    Agrees (calls ++ [call]) name held now after where
  loaded := by
    rw [Workspace.loaded_of_traces sound_after sound same, agrees.loaded]
  edited := by
    cases agrees.edited with
    | none => exact .none
    | some edited => exact .some (edited.elsewhere elsewhere)
  artifact := by
    rw [Workspace.artifact_of_traces sound_after sound same, agrees.artifact, left?_concat,
      if_neg elsewhere.symm]
  indexed := by
    have alike : (∃ earlier ∈ calls ++ [call], earlier.file = name) ↔
        ∃ earlier ∈ calls, earlier.file = name := by
      simp [elsewhere.symm, or_and_right, exists_or]
    have known : after.index.files.get? name = workspace.index.files.get? name :=
      congrArg Traces.indexed same
    rw [known, agrees.indexed, if_congr alike rfl rfl]

variable {start : Workspace Store Index}

/-- **A call keeps a workspace consistent.** It fails only on a file that cannot be read. -/
theorem Consistent.of_run (consistent : Consistent start calls workspace) (call : ArtifactCall) :
    (call.run workspace).1 = (start.loaded call.file).map (fun _ => ()) ∧
      Consistent start (calls ++ [call]) (call.run workspace).2 := by
  have sound := consistent.sound
  -- whether a file can be read never changes on the way, so the start decides about the answer
  cases readable : start.loaded call.file with
  | error fault =>
      have unreadable := (consistent.unreadable call.file fault readable).1
      rw [Workspace.loaded_eq sound] at unreadable
      rw [run_of_unreadable sound unreadable]
      refine ⟨rfl, sound, ?_, consistent.unreadable, consistent.settings⟩
      intro name held read
      obtain ⟨now, agrees⟩ := consistent.agrees name held read
      refine ⟨now, agrees.elsewhere sound sound (fun same => ?_) rfl⟩
      rw [same, readable] at read
      cases read
  | ok held =>
      obtain ⟨now, agrees⟩ := consistent.agrees call.file held readable
      obtain ⟨after, sound_after, tables, index, ran⟩ :=
        run_eq sound ((Workspace.loaded_eq sound _).symm.trans agrees.loaded)
      have others (name : String) (elsewhere : name ≠ call.file) :
          after.traces name = workspace.traces name := by
        rw [← traces_run_of_ne sound elsewhere, ran]
      obtain ⟨loaded, artifact⟩ := readings_of_run sound agrees.loaded
      rw [ran] at loaded artifact ⊢
      refine ⟨rfl, sound_after, ?_, ?_, ?_⟩
      · intro name held read
        by_cases here : name = call.file
        · subst here
          obtain rfl := Except.ok.inj (readable.symm.trans read)
          exact ⟨_, agrees.here loaded artifact index⟩
        · obtain ⟨now, agrees⟩ := consistent.agrees name held read
          exact ⟨now, agrees.elsewhere sound sound_after here (others name here)⟩
      · intro name fault read
        by_cases here : name = call.file
        · rw [here, readable] at read
          cases read
        · obtain ⟨unreadable, unchanged⟩ := consistent.unreadable name fault read
          have same := others name here
          exact ⟨(Workspace.loaded_of_traces sound_after sound same).trans unreadable,
            same.trans unchanged⟩
      · intro key foreign
        rw [tables, Tables.settings_editFile, get?_settings_record, if_neg (foreign call.file)]
        exact consistent.settings key foreign

end Step

/-- A workspace in which no file is marked, no artifact is set up, and no file is indexed. -/
structure Blank (start : Workspace Store Index) : Prop where
  unmarked : ∀ name properties, start.loaded name = .ok (some properties) →
    properties.inConflict = false
  clear : ∀ name, start.artifact name = .ok none
  unindexed : start.index = {}

theorem Blank.sound {start : Workspace Store Index} (blank : Blank start) :
    start.store.poisoned = false :=
  Artifact.sound_of_find (blank.clear "")

theorem Blank.consistent {start : Workspace Store Index} (blank : Blank start) :
    Consistent start [] start where
  sound := blank.sound
  agrees := by
    intro name held read
    refine ⟨held, read, ?_, blank.clear name, ?_⟩
    · cases held with
      | none => exact .none
      | some properties => exact .some (Edited.of_unmarked (blank.unmarked name properties read))
    · rw [blank.unindexed, if_neg]
      · rfl
      · rintro ⟨call, member, -⟩
        cases member
  unreadable := fun _ _ read => ⟨read, rfl⟩
  settings := fun _ _ => rfl

/-- **Every run of calls keeps a workspace consistent.** -/
theorem Blank.consistent_run {start : Workspace Store Index} (blank : Blank start)
    (calls : List ArtifactCall) :
    (runAll start calls).1 = calls.map (fun call => (start.loaded call.file).map fun _ => ()) ∧
      Consistent start calls (runAll start calls).2 := by
  induction calls using List.reverseRecOn with
  | nil => exact ⟨rfl, blank.consistent⟩
  | append_singleton calls call ih =>
      obtain ⟨answers, consistent⟩ := ih
      obtain ⟨answer, next⟩ := consistent.of_run call
      rw [runAll_concat]
      refine ⟨?_, next⟩
      rw [answers, answer, List.map_append, List.map_singleton]

end ArtifactCall

/-! ## The files in conflict -/

/-- An index lists the files that it knows to be marked. -/
theorem Index.mem_conflicted_iff {index : Index} {name : String} :
    name ∈ index.conflicted ↔
      ∃ properties, index.files.get? name = some properties ∧ properties.inConflict = true := by
  rw [conflicted, List.mem_map]
  constructor
  · rintro ⟨⟨listed, properties⟩, selected, rfl⟩
    obtain ⟨member, marked⟩ := List.mem_filter.mp selected
    exact ⟨properties, NameMap.mem_entries_iff.mp member, marked⟩
  · rintro ⟨properties, known, marked⟩
    exact ⟨(name, properties), List.mem_filter.mpr ⟨NameMap.mem_entries_iff.mpr known, marked⟩, rfl⟩

namespace ArtifactCall

variable {start workspace : Workspace Store Index} {calls : List ArtifactCall} {name : String}

/-- A file is known to be marked if and only if it has both properties and an artifact. -/
theorem Agrees.indexed_iff {held now : Option Properties}
    (agrees : Agrees calls name held now workspace) :
    (∃ properties, workspace.index.files.get? name = some properties ∧
        properties.inConflict = true) ↔
      (∃ properties, workspace.loaded name = .ok (some properties)) ∧
        ∃ conflict, workspace.artifact name = .ok (some conflict) := by
  rw [agrees.loaded, agrees.artifact, agrees.indexed]
  cases agrees.edited with
  | none => simp
  | @some before after edited =>
      -- the mark follows the artifact, and a file with an artifact has been touched, so is indexed
      have marked := edited.mark
      cases found : left? calls name with
      | none =>
          rw [found] at marked
          constructor
          · rintro ⟨properties, known, conflicting⟩
            split at known
            · obtain rfl := Option.some.inj known
              rw [marked] at conflicting
              cases conflicting
            · cases known
          · rintro ⟨-, conflict, absurd⟩
            cases absurd
      | some conflict =>
          rw [found] at marked
          rw [if_pos (exists_of_left? found)]
          exact ⟨fun _ => ⟨⟨after, rfl⟩, conflict, rfl⟩, fun _ => ⟨after, rfl, marked⟩⟩

/-- **The index lists the files that have both properties and an artifact.** -/
theorem Consistent.mem_conflicted_iff (blank : Blank start)
    (consistent : Consistent start calls workspace) (name : String) :
    name ∈ workspace.index.conflicted ↔
      (∃ properties, workspace.loaded name = .ok (some properties)) ∧
        ∃ conflict, workspace.artifact name = .ok (some conflict) := by
  rw [Index.mem_conflicted_iff]
  cases read : start.loaded name with
  | error fault =>
      obtain ⟨unreadable, unchanged⟩ := consistent.unreadable name fault read
      have unindexed : workspace.index.files.get? name = none := by
        have same : workspace.index.files.get? name = start.index.files.get? name :=
          congrArg Traces.indexed unchanged
        rw [same, blank.unindexed]
        rfl
      rw [unindexed, unreadable]
      simp
  | ok held =>
      obtain ⟨now, agrees⟩ := consistent.agrees name held read
      exact agrees.indexed_iff

/-- **After every run of calls marks, artifacts, properties and index agree.** A call fails only on
a file that cannot be read. The index lists the files with properties and an artifact, in ascending
order, and whatever call comes next leaves all files but its own alone. -/
theorem agreement_of_run (blank : Blank start) (calls : List ArtifactCall) :
    ∃ answers after, runAll start calls = (answers, after) ∧
      answers = calls.map (fun call => (start.loaded call.file).map fun _ => ()) ∧
      Consistent start calls after ∧
      (after.index.conflicted.Pairwise (· < ·) ∧
        ∀ name, name ∈ after.index.conflicted ↔
          (∃ properties, after.loaded name = .ok (some properties)) ∧
            ∃ conflict, after.artifact name = .ok (some conflict)) ∧
      ∀ (next : ArtifactCall) (name : String), name ≠ next.file →
        (next.run after).2.traces name = after.traces name := by
  obtain ⟨answers, consistent⟩ := blank.consistent_run calls
  refine ⟨_, _, rfl, answers, consistent, ⟨?_, consistent.mem_conflicted_iff blank⟩, ?_⟩
  · exact NameMap.sorted_names_filter _ _
  · intro next name elsewhere
    exact traces_run_of_ne consistent.sound elsewhere

/-- A workspace with one file, which is not marked, is blank. -/
theorem blank_ofFile {properties : Properties} (unmarked : properties.inConflict = false)
    (name : String) : Blank ⟨{ tables := ({} : Tables).putFile name properties }, {}⟩ where
  unmarked := by
    intro other found read
    rw [Workspace.loaded_eq rfl, Tables.getFile_putFile] at read
    split at read
    · obtain rfl := Option.some.inj (Except.ok.inj read)
      exact unmarked
    · cases read
  clear := by
    intro other
    have missing : (NameMap.empty : NameMap String).get? (Artifact.key other) =
        (none : Option Conflict).map Conflict.toDocument := rfl
    rw [Workspace.artifact, Artifact.find_eq rfl missing]
  unindexed := rfl

/-- Of two files, one named by the beginning of the name of the other, one has properties and the
other has not. Clearing the artifact of the one leaves that of the other. -/
theorem agreement_of_run_alike :
    let conflict : Conflict := ⟨⟨"x", 1⟩, ⟨"y", 1⟩, []⟩
    let start : Workspace Store Index := ⟨{ tables := ({} : Tables).putFile "a" .empty }, {}⟩
    Blank start ∧ ∃ answers after,
      runAll start [.create "a" conflict, .create "ab" conflict, .remove "a"] = (answers, after) ∧
        after.artifact "a" = .ok none ∧ after.artifact "ab" = .ok (some conflict) ∧
        "a" ∉ after.index.conflicted := by
  intro conflict start
  have blank : Blank start := blank_ofFile rfl "a"
  obtain ⟨answers, after, ran, -, consistent, ⟨-, listed⟩, -⟩ := agreement_of_run blank
    [.create "a" conflict, .create "ab" conflict, .remove "a"]
  have held : start.loaded "a" = .ok (some .empty) := by
    rw [Workspace.loaded_eq rfl, Tables.getFile_putFile, if_pos rfl]
  have missing : start.loaded "ab" = .ok none := by
    rw [Workspace.loaded_eq rfl, Tables.getFile_putFile, if_neg (by decide)]
    rfl
  obtain ⟨_, cleared⟩ := consistent.agrees "a" _ held
  obtain ⟨_, kept⟩ := consistent.agrees "ab" _ missing
  refine ⟨blank, answers, after, ran, cleared.artifact, kept.artifact, fun member => ?_⟩
  obtain ⟨-, conflict, found⟩ := (listed "a").mp member
  rw [cleared.artifact] at found
  cases found

end ArtifactCall

end ReplicaSync
