import ReplicaSync.Config.Directory
import ReplicaSync.Proofs.Documents

/-!
# What is loaded after saving

A saving either fails and leaves the configuration in its place, or puts the document of the new
configuration there, and the second file is gone (`ConfigDirectory.save_cases`). What is left of the
second file by a failure does not matter, as it is written anew. The document is read as the
configuration it was written from, whatever the values in it. Only the check of loading can refuse
it, since saving does not check.

So after any savings, with failures between them, loading depends on the last one that succeeded and
on nothing else (`ConfigDirectory.load_after_saves`).
-/

set_option autoImplicit false

namespace ReplicaSync

namespace ConfigDirectory

/-! ## The document of a configuration -/

/-- What loading makes of the document of a configuration. -/
def checked (config : Config) : Except LoadFault Config :=
  match config.check with
  | .ok () => .ok config
  | .error cause => .error (.refused cause)

theorem loadDocument_document (config : Config) :
    loadDocument (document config) = checked config := by
  have parsed : Json.parse? (document config) = some config.toJson :=
    Json.parse?_indented (Config.faithful.integral config)
  rw [loadDocument, parsed, Option.bind_some, Config.faithful.read_write]
  rfl

/-- The file that a configuration is saved in. -/
def savedFile (config : Config) : Entry :=
  .file (Bytes.ofText (document config))

theorem load_of_savedFile {directory : ConfigDirectory} {config : Config}
    (saved : directory.config = savedFile config) : load directory = checked config := by
  rw [load, saved, savedFile]
  dsimp only
  rw [Bytes.toText?_ofText]
  exact loadDocument_document config

theorem load_congr {left right : ConfigDirectory} (same : left.config = right.config) :
    load left = load right := by
  rw [load, load, same]

/-! ## One saving -/

section Saving

variable (config : Config) (directory : ConfigDirectory) (hindrance : Option Hindrance)

/-- Whether nothing stands in the way of saving: there is no trouble from outside, and no directory
stands in the place of either file. -/
structure Unhindered : Prop where
  no_trouble : hindrance = none
  config_place : directory.config ≠ .directory
  temporary_place : directory.temporary ≠ .directory

/-- **A saving fails and leaves the configuration, or replaces it.** -/
theorem save_cases :
    (∃ reason temporary, ¬ directory.Unhindered hindrance ∧
      save config directory hindrance = (.error reason, { directory with temporary })) ∨
    (directory.Unhindered hindrance ∧
      save config directory hindrance = (.ok (), ⟨savedFile config, .absent⟩)) := by
  have troubled (trouble : Hindrance) : ¬ directory.Unhindered (some trouble) := by
    rintro ⟨⟨⟩, -, -⟩
  obtain ⟨current, second⟩ := directory
  cases hindrance with
  | some trouble =>
      refine .inl ?_
      match trouble with
      | .making reason => exact ⟨reason, second, troubled _, rfl⟩
      | .opening reason => cases second <;> exact ⟨_, _, troubled _, rfl⟩
      | .writing kept reason => cases second <;> exact ⟨_, _, troubled _, rfl⟩
      | .renaming reason => cases second <;> cases current <;> exact ⟨_, _, troubled _, rfl⟩
  | none =>
      -- what else stands in the place of the second file is overwritten
      by_cases temporary_place : second = .directory
      · subst temporary_place
        exact .inl ⟨_, _, fun free => free.temporary_place rfl, rfl⟩
      by_cases config_place : current = .directory
      · subst config_place
        refine .inl ⟨isDirectoryMessage, .file (Bytes.ofText (document config)),
          fun free => free.config_place rfl, ?_⟩
        cases second <;> first | rfl | contradiction
      · refine .inr ⟨⟨rfl, config_place, temporary_place⟩, ?_⟩
        cases second <;> cases current <;> first | rfl | contradiction

/-- A saving that fails leaves the configuration and what is loaded. -/
theorem load_of_save_error {reason : String}
    (failed : (save config directory hindrance).1 = .error reason) :
    (save config directory hindrance).2.config = directory.config ∧
      load (save config directory hindrance).2 = load directory := by
  rcases save_cases config directory hindrance with ⟨_, _, -, stopped⟩ | ⟨-, saved⟩
  · rw [stopped]
    exact ⟨rfl, load_congr rfl⟩
  · rw [saved] at failed
    cases failed

/-- A saving succeeds exactly if nothing stands in its way. -/
theorem save_eq_ok_iff :
    (save config directory hindrance).1 = .ok () ↔ directory.Unhindered hindrance := by
  rcases save_cases config directory hindrance with ⟨_, _, hindered, stopped⟩ | ⟨free, saved⟩
  · rw [stopped]
    exact ⟨nofun, fun free => absurd free hindered⟩
  · rw [saved]
    exact ⟨fun _ => free, fun _ => rfl⟩

end Saving

/-! ## Savings one after the other -/

/-- An attempt to save a configuration, and what hinders it. -/
structure Attempt where
  config : Config
  hindrance : Option Hindrance

/-- A directory after some savings, and how they came out, newest first. -/
structure Savings where
  directory : ConfigDirectory
  outcomes : List (Config × Except String Unit) := []

namespace Savings

/-- One more saving. -/
def save (savings : Savings) (attempt : Attempt) : Savings where
  directory := (ConfigDirectory.save attempt.config savings.directory attempt.hindrance).2
  outcomes :=
    (attempt.config, (ConfigDirectory.save attempt.config savings.directory attempt.hindrance).1) ::
      savings.outcomes

/-- More savings one after the other. -/
def run (savings : Savings) (attempts : List Attempt) : Savings :=
  attempts.foldl save savings

/-- The configuration of the last saving that succeeded. -/
def lastSaved? (savings : Savings) : Option Config :=
  savings.outcomes.findSome? fun
    | (config, .ok ()) => some config
    | (_, .error _) => none

/-- What stands in the place of the configuration after savings that began in a directory. -/
def Keeps (start : ConfigDirectory) (savings : Savings) : Prop :=
  savings.directory.config =
    match savings.lastSaved? with
    | none => start.config
    | some config => savedFile config

/-- **One more saving keeps the last configuration that was saved in its place.** -/
theorem keeps_save {start : ConfigDirectory} {savings : Savings} (keeps : savings.Keeps start)
    (attempt : Attempt) : (savings.save attempt).Keeps start := by
  rcases save_cases attempt.config savings.directory attempt.hindrance with
    ⟨reason, temporary, -, stopped⟩ | ⟨-, saved⟩
  · have same : (savings.save attempt).lastSaved? = savings.lastSaved? := by
      rw [lastSaved?, save, stopped]
      rfl
    rw [Keeps, same, save, stopped]
    exact keeps
  · have newest : (savings.save attempt).lastSaved? = some attempt.config := by
      rw [lastSaved?, save, saved]
      rfl
    rw [Keeps, newest, save, saved]

theorem keeps_run {start : ConfigDirectory} {savings : Savings} (keeps : savings.Keeps start)
    (attempts : List Attempt) : (savings.run attempts).Keeps start := by
  induction attempts generalizing savings with
  | nil => exact keeps
  | cons attempt attempts ih => exact ih (keeps_save keeps attempt)

end Savings

/-- **Loading depends on the last saving that succeeded.** A saving that fails leaves the
configuration and what is loaded, and it succeeds exactly if nothing stands in its way. After any
attempts, what is loaded is the last configuration that was saved, or the fault that the check finds
in it. If none was saved, it is what was loaded before, and without a file this is the standard
configuration. -/
theorem load_after_saves :
    (∀ (config : Config) (directory : ConfigDirectory) (hindrance : Option Hindrance),
      ((save config directory hindrance).1 = .ok () ↔ directory.Unhindered hindrance) ∧
      ∀ reason, (save config directory hindrance).1 = .error reason →
        (save config directory hindrance).2.config = directory.config ∧
          load (save config directory hindrance).2 = load directory) ∧
    (∀ (start : ConfigDirectory) (attempts : List Attempt),
      load (Savings.run ⟨start, []⟩ attempts).directory =
        match (Savings.run ⟨start, []⟩ attempts).lastSaved? with
        | none => load start
        | some config =>
            match config.check with
            | .ok () => .ok config
            | .error cause => .error (.refused cause)) ∧
    ∀ directory : ConfigDirectory, directory.config = .absent → load directory = .ok {} := by
  refine ⟨fun config directory hindrance => ⟨?_, fun reason => ?_⟩, ?_, ?_⟩
  · exact save_eq_ok_iff config directory hindrance
  · exact load_of_save_error config directory hindrance
  · intro start attempts
    have begun : Savings.Keeps start ⟨start, []⟩ := rfl
    have keeps := Savings.keeps_run begun attempts
    rw [Savings.Keeps] at keeps
    cases last : (Savings.run ⟨start, []⟩ attempts).lastSaved? with
    | none =>
        rw [last] at keeps
        exact load_congr keeps
    | some config =>
        rw [last] at keeps
        exact load_of_savedFile keeps
  · intro directory absent
    rw [load, absent]

/-- A configuration is saved over a file that cannot be read. Then saving another one breaks off
twice, and both times the first one is still loaded. Once the other one is saved, it is refused. -/
theorem load_after_saves_of_failures :
    let start : ConfigDirectory := ⟨.file [0xff], .absent⟩
    let first : Config := ⟨⟨64, 256, 1024⟩, ⟨10⟩, 8⟩
    let other : Config := ⟨.standard, ⟨0⟩, 18446744073709551615⟩
    let full : Attempt := ⟨other, some (.writing 7 "No space left on device (os error 28)")⟩
    let fixed : Attempt := ⟨other, some (.renaming "Permission denied (os error 13)")⟩
    let stopped := Savings.run ⟨start, []⟩ [⟨first, none⟩, full]
    let replaced := Savings.run ⟨start, []⟩ [⟨first, none⟩, full, fixed, ⟨other, none⟩]
    load start = .error (.unreadable notUtf8Message) ∧
      stopped.directory.temporary = .file ((Bytes.ofText (document other)).take 7) ∧
      load stopped.directory = .ok first ∧
      load (save fixed.config stopped.directory fixed.hindrance).2 = .ok first ∧
      load replaced.directory = .error (.refused .noHistory) := by
  intro start first other full fixed stopped replaced
  obtain ⟨one, all, -⟩ := load_after_saves
  have passes : first.check = .ok () := by decide
  have fails : other.check = .error .noHistory := by decide
  have kept : load stopped.directory = .ok first := by
    have last : stopped.lastSaved? = some first := rfl
    rw [all start [⟨first, none⟩, full], last]
    dsimp only
    rw [passes]
  have still := ((one fixed.config stopped.directory fixed.hindrance).2 _ rfl).2
  have refused : load replaced.directory = .error (.refused .noHistory) := by
    have last : replaced.lastSaved? = some other := rfl
    rw [all start [⟨first, none⟩, full, fixed, ⟨other, none⟩], last]
    dsimp only
    rw [fails]
  exact ⟨by decide, rfl, kept, still.trans kept, refused⟩

end ConfigDirectory

end ReplicaSync
