import Mathlib.Data.List.Induction
import ReplicaSync.Conflict.Artifact
import ReplicaSync.Proofs.Storage.Files

/-!
# Batches are all or nothing

A batch takes actions one after the other, and what it does next depends on what they answer. Which
sequences of actions and answers a batch allows, and how it ends after them, is a relation that
knows nothing of tables (`Batch.Takes`). The tables decide about the answers: a read answers what
the batch itself wrote last, and what was committed before if it wrote nothing there
(`ReadsLatest`).

A store takes a batch as a whole (`Store.batch_all_or_nothing`). If the batch ends with a value, its
writes take effect in their order. If it fails or breaks down, the tables stay as they were. After a
break-down the store refuses whatever is done with it, and neither it nor the index changes any more
(`Store.refuses_of_poisoned`).
-/

set_option autoImplicit false

universe u

namespace ReplicaSync

/-! ## Actions and their answers -/

/-- An action of a batch, together with what it answered if it is a read. -/
inductive Action where
  | gotFile (name : String) (found : Except Fault (Option Properties))
  | putFile (name : String) (properties : Properties)
  | gotSetting (key : String) (found : Option String)
  | putSetting (key value : String)
  | erasedSetting (key : String)

namespace Action

/-- The tables after an action. -/
def apply (tables : Tables) : Action → Tables
  | .putFile name properties => tables.putFile name properties
  | .putSetting key value => tables.putSetting key value
  | .erasedSetting key => tables.eraseSetting key
  | .gotFile _ _ | .gotSetting _ _ => tables

/-- What a caller learns of an action. A read that fails gives no answer. -/
def answer? : Action → Option Answer
  | .gotFile _ (.ok found) => some (.file found)
  | .gotFile _ (.error _) => none
  | .gotSetting _ found => some (.setting found)
  | .putFile _ _ | .putSetting _ _ | .erasedSetting _ => some .written

/-- What an action writes about a file, if it writes it. -/
def writtenFile? (name : String) : Action → Option Properties
  | .putFile other properties => if name = other then some properties else none
  | _ => none

/-- What an action leaves of a setting, if it writes or removes it. -/
def writtenSetting? (key : String) : Action → Option (Option String)
  | .putSetting other value => if key = other then some (some value) else none
  | .erasedSetting other => if key = other then some none else none
  | _ => none

end Action

/-- The tables after actions, one after the other. -/
def Tables.applyAll (tables : Tables) (actions : List Action) : Tables :=
  actions.foldl Action.apply tables

/-- What is read of a file after actions: what they wrote last, or else what was there before. -/
def Tables.latestFile (tables : Tables) (actions : List Action) (name : String) :
    Except Fault (Option Properties) :=
  match actions.reverse.findSome? (Action.writtenFile? name) with
  | some properties => .ok (some properties)
  | none => tables.getFile name

/-- What is read of a setting after actions: what they left last, or else what was there before. -/
def Tables.latestSetting (tables : Tables) (actions : List Action) (key : String) :
    Option String :=
  match actions.reverse.findSome? (Action.writtenSetting? key) with
  | some left => left
  | none => tables.settings.get? key

/-- Every read among some actions answers what was written last before it. -/
structure ReadsLatest (tables : Tables) (actions : List Action) : Prop where
  files : ∀ (before later : List Action) (name : String)
    (found : Except Fault (Option Properties)),
    actions = before ++ .gotFile name found :: later → found = tables.latestFile before name
  settings : ∀ (before later : List Action) (key : String) (found : Option String),
    actions = before ++ .gotSetting key found :: later → found = tables.latestSetting before key

namespace Tables

theorem getFile_apply (tables : Tables) (action : Action) (name : String) :
    (action.apply tables).getFile name =
      match action.writtenFile? name with
      | some properties => .ok (some properties)
      | none => tables.getFile name := by
  cases action with
  | putFile other properties =>
      simp only [Action.apply, getFile_putFile, Action.writtenFile?]
      split <;> rfl
  | gotFile | gotSetting | putSetting | erasedSetting => rfl

theorem get?_settings_apply (tables : Tables) (action : Action) (key : String) :
    (action.apply tables).settings.get? key =
      match action.writtenSetting? key with
      | some left => left
      | none => tables.settings.get? key := by
  cases action with
  | putSetting other value =>
      simp only [Action.apply, putSetting, NameMap.get?_insert, Action.writtenSetting?]
      split <;> rfl
  | erasedSetting other =>
      simp only [Action.apply, eraseSetting, NameMap.get?_erase, Action.writtenSetting?]
      split <;> rfl
  | gotFile | gotSetting | putFile => rfl

theorem applyAll_concat (tables : Tables) (actions : List Action) (last : Action) :
    tables.applyAll (actions ++ [last]) = last.apply (tables.applyAll actions) :=
  List.foldl_append

/-- **After actions, a file holds what they wrote last.** -/
theorem getFile_applyAll (tables : Tables) (actions : List Action) (name : String) :
    (tables.applyAll actions).getFile name = tables.latestFile actions name := by
  induction actions using List.reverseRecOn with
  | nil => rfl
  | append_singleton before last ih =>
      rw [applyAll_concat, getFile_apply, ih, latestFile, latestFile, List.reverse_concat,
        List.findSome?_cons]
      cases last.writtenFile? name <;> rfl

/-- **After actions, a setting is what they left last.** -/
theorem get?_settings_applyAll (tables : Tables) (actions : List Action) (key : String) :
    (tables.applyAll actions).settings.get? key = tables.latestSetting actions key := by
  induction actions using List.reverseRecOn with
  | nil => rfl
  | append_singleton before last ih =>
      rw [applyAll_concat, get?_settings_apply, ih, latestSetting, latestSetting,
        List.reverse_concat, List.findSome?_cons]
      cases last.writtenSetting? key <;> rfl

end Tables

/-! ## The actions of a batch -/

namespace Batch

variable {α : Type u}

/-- Which action a batch begins with, and what it does next, given what the action answers. -/
inductive Does : Batch α → Action → Batch α → Prop
  | getFile (name : String) (next : Except Fault (Option Properties) → Batch α)
      (found : Except Fault (Option Properties)) :
      Does (.getFile name next) (.gotFile name found) (next found)
  | putFile (name : String) (properties : Properties) (next : Batch α) :
      Does (.putFile name properties next) (.putFile name properties) next
  | getSetting (key : String) (next : Option String → Batch α) (found : Option String) :
      Does (.getSetting key next) (.gotSetting key found) (next found)
  | putSetting (key value : String) (next : Batch α) :
      Does (.putSetting key value next) (.putSetting key value) next
  | eraseSetting (key : String) (next : Batch α) :
      Does (.eraseSetting key next) (.erasedSetting key) next

/-- Which actions a batch takes and how it ends after them, given what the actions answer. -/
inductive Takes : Batch α → List Action → Ending α → Prop
  | done (value : α) : Takes (.done value) [] (.done value)
  | fail (fault : Fault) : Takes (.fail fault) [] (.failed fault)
  | breakDown : Takes .breakDown [] .brokeDown
  | act {batch next : Batch α} {action : Action} {actions : List Action} {ending : Ending α}
      (does : batch.Does action next) (rest : Takes next actions ending) :
      Takes batch (action :: actions) ending

end Batch

/-- Whether a read answers what stands in the tables. -/
def Action.Fits (tables : Tables) : Action → Prop
  | .gotFile name found => found = tables.getFile name
  | .gotSetting key found => found = tables.settings.get? key
  | .putFile _ _ | .putSetting _ _ | .erasedSetting _ => True

/-- Whether every read among some actions answers what then stands in the tables. -/
def Tables.FitsAll (tables : Tables) : List Action → Prop
  | [] => True
  | action :: later => action.Fits tables ∧ (action.apply tables).FitsAll later

theorem Tables.fitsAll_iff {tables : Tables} {actions : List Action} :
    tables.FitsAll actions ↔ ∀ (before later : List Action) (action : Action),
      actions = before ++ action :: later → action.Fits (tables.applyAll before) := by
  induction actions generalizing tables with
  | nil => simp [FitsAll]
  | cons first rest ih =>
      rw [FitsAll, ih]
      constructor
      · rintro ⟨here, others⟩ (_ | ⟨head, before⟩) later action split
        · obtain ⟨rfl, rfl⟩ := List.cons_eq_cons.mp split
          exact here
        · obtain ⟨rfl, rfl⟩ := List.cons_eq_cons.mp split
          exact others before later action rfl
      · intro all
        refine ⟨all [] rest first rfl, fun before later action split => ?_⟩
        exact all (first :: before) later action (by rw [split, List.cons_append])

/-- Reads answer what then stands in the tables exactly if they answer what was written last. -/
theorem Tables.fitsAll_iff_readsLatest {tables : Tables} {actions : List Action} :
    tables.FitsAll actions ↔ ReadsLatest tables actions := by
  rw [fitsAll_iff]
  constructor
  · intro all
    constructor
    · intro before later name found split
      exact (all before later _ split).trans (tables.getFile_applyAll before name)
    · intro before later key found split
      exact (all before later _ split).trans (tables.get?_settings_applyAll before key)
  · intro latest before later action split
    cases action with
    | gotFile name found =>
        exact (latest.files before later name found split).trans
          (tables.getFile_applyAll before name).symm
    | gotSetting key found =>
        exact (latest.settings before later key found split).trans
          (tables.get?_settings_applyAll before key).symm
    | putFile | putSetting | erasedSetting => trivial

namespace Batch

variable {α : Type u}

/-- The run of a batch that takes the given actions after the given answers. -/
def runOf (actions : List Action) (ending : Ending α) (answers : List Answer) (tables : Tables) :
    Run α :=
  ⟨(actions.filterMap Action.answer?).reverse ++ answers, ending, tables.applyAll actions⟩

theorem runOf_cons (action : Action) (actions : List Action) (ending : Ending α)
    (answers : List Answer) (tables : Tables) :
    runOf (action :: actions) ending answers tables =
      runOf actions ending (action.answer?.toList ++ answers) (action.apply tables) := by
  rw [runOf, runOf, List.filterMap_cons]
  cases action.answer? with
  | none => rfl
  | some answer =>
      dsimp only
      rw [List.reverse_cons, List.append_assoc]
      rfl

section Step

variable {batch next : Batch α} {action : Action} {tables : Tables}

/-- The run of a batch begins with an action that fits the tables. -/
theorem run_of_does (does : batch.Does action next) (fits : action.Fits tables)
    (answers : List Answer) :
    batch.run answers tables =
      next.run (action.answer?.toList ++ answers) (action.apply tables) := by
  cases does with
  | getFile name next found =>
      have read : found = tables.getFile name := fits
      rw [run, ← read]
      cases found <;> rfl
  | getSetting key next found =>
      have read : found = tables.settings.get? key := fits
      rw [run, ← read]
      rfl
  | putFile | putSetting | eraseSetting => rfl

/-- Only one action of a batch fits the tables. -/
theorem Does.unique {other : Action} {following : Batch α} (does : batch.Does action next)
    (fits : action.Fits tables) (also : batch.Does other following)
    (fits_other : other.Fits tables) : action = other ∧ next = following := by
  cases does with
  | getFile name next found =>
      cases also with
      | getFile _ _ answered =>
          obtain rfl : found = answered := fits.trans fits_other.symm
          exact ⟨rfl, rfl⟩
  | getSetting key next found =>
      cases also with
      | getSetting _ _ answered =>
          obtain rfl : found = answered := fits.trans fits_other.symm
          exact ⟨rfl, rfl⟩
  | putFile | putSetting | eraseSetting =>
      cases also
      exact ⟨rfl, rfl⟩

end Step

/-- Following a batch through tables: it takes actions that it allows, their reads answer what then
stands in the tables, and it leaves the tables as the actions leave them. -/
def Traced (batch : Batch α) (answers : List Answer) (tables : Tables) : Prop :=
  ∃ actions ending, batch.Takes actions ending ∧ tables.FitsAll actions ∧
    batch.run answers tables = runOf actions ending answers tables

/-- A batch can be followed if it can be followed after its first action. -/
theorem Traced.act {batch next : Batch α} {action : Action} {answers : List Answer}
    {tables : Tables} (does : batch.Does action next) (fits : action.Fits tables)
    (later : next.Traced (action.answer?.toList ++ answers) (action.apply tables)) :
    batch.Traced answers tables := by
  obtain ⟨actions, ending, takes, fits_later, ran⟩ := later
  refine ⟨action :: actions, ending, .act does takes, ⟨fits, fits_later⟩, ?_⟩
  rw [run_of_does does fits, ran, runOf_cons]

/-- **Every batch can be followed through the tables.** -/
theorem traced (batch : Batch α) (answers : List Answer) (tables : Tables) :
    batch.Traced answers tables := by
  -- the tables and the answers so far vary, since each action changes them for the rest
  induction batch generalizing answers tables with
  | done value => exact ⟨[], _, .done value, trivial, rfl⟩
  | fail fault => exact ⟨[], _, .fail fault, trivial, rfl⟩
  | breakDown => exact ⟨[], _, .breakDown, trivial, rfl⟩
  | getFile name next ih => exact .act (.getFile name next _) rfl (ih _ _ _)
  | getSetting key next ih => exact .act (.getSetting key next _) rfl (ih _ _ _)
  | putFile name properties next ih => exact .act (.putFile name properties next) trivial (ih _ _)
  | putSetting key value next ih => exact .act (.putSetting key value next) trivial (ih _ _)
  | eraseSetting key next ih => exact .act (.eraseSetting key next) trivial (ih _ _)

/-- What a batch takes is settled by what its reads answer. -/
theorem Takes.unique {batch : Batch α} {actions others : List Action} {ending other : Ending α}
    {tables : Tables} (takes : batch.Takes actions ending) (fits : tables.FitsAll actions)
    (also : batch.Takes others other) (fits_others : tables.FitsAll others) :
    actions = others ∧ ending = other := by
  induction takes generalizing others tables with
  | done | fail | breakDown =>
      cases also with
      | act does => cases does
      | _ => exact ⟨rfl, rfl⟩
  | act does rest ih =>
      cases also with
      | act does_other rest_other =>
          obtain ⟨rfl, rfl⟩ := does.unique fits.1 does_other fits_others.1
          obtain ⟨rfl, rfl⟩ := ih fits.2 rest_other fits_others.2
          exact ⟨rfl, rfl⟩
      | _ => cases does

end Batch

/-! ## The uses of a workspace -/

/-- A use of a store and the index that follows it: a batch, a look into the store, or an operation
on artifacts. -/
inductive Use where
  | batch (work : Batch Unit)
  | loadFile (name : String)
  | loadSetting (key : String)
  | storeFile (name : String) (properties : Properties)
  | createArtifact (name : String) (conflict : Conflict)
  | removeArtifact (name : String)
  | findArtifact (name : String)

namespace Use

variable {ι : Type} [SearchIndex ι]

/-- Carries out a use, and says whether it failed. -/
def run (use : Use) (workspace : Workspace Store ι) : Option Fault × Workspace Store ι :=
  match use with
  | .batch work => onStore (TransactionalStorage.execute work workspace.store)
  | .loadFile name => onStore (TransactionalStorage.loadFile name workspace.store)
  | .loadSetting key => onStore (TransactionalStorage.loadSetting key workspace.store)
  | .storeFile name properties =>
      onStore (TransactionalStorage.storeFile name properties workspace.store)
  | .createArtifact name conflict => (Artifact.create name conflict workspace).map faultOf id
  | .removeArtifact name => (Artifact.remove name workspace).map faultOf id
  | .findArtifact name => (Artifact.find name workspace).map faultOf id
where
  faultOf {α : Type} (answer : Except Fault α) : Option Fault :=
    match answer with
    | .ok _ => none
    | .error fault => some fault
  onStore {α : Type} (done : Except Fault α × Store) : Option Fault × Workspace Store ι :=
    (faultOf done.1, { workspace with store := done.2 })

/-- Carries out uses one after the other. -/
def runAll : List Use → Workspace Store ι → List (Option Fault) × Workspace Store ι
  | [], workspace => ([], workspace)
  | use :: later, workspace =>
      let (fault, after) := use.run workspace
      let (faults, final) := runAll later after
      (fault :: faults, final)

end Use

namespace Store

/-- A store that refuses whatever is done with it, as poisoned. Neither the store nor the index
changes. -/
def Refuses (store : Store) : Prop :=
  ∀ (ι : Type) [SearchIndex ι] (index : ι) (uses : List Use),
    Use.runAll uses ⟨store, index⟩ =
      (uses.map fun _ => some (.storage .poisoned), ⟨store, index⟩)

/-- One use of a poisoned store is refused and changes nothing. -/
theorem run_use_of_poisoned {ι : Type} [SearchIndex ι] {workspace : Workspace Store ι}
    (poisoned : workspace.store.poisoned = true) (use : Use) :
    use.run workspace = (some (.storage .poisoned), workspace) := by
  cases use with
  | batch work => rw [Use.run, execute_of_poisoned poisoned]; rfl
  | loadFile name =>
      rw [Use.run, TransactionalStorage.loadFile, execute_of_poisoned poisoned]; rfl
  | loadSetting key =>
      rw [Use.run, TransactionalStorage.loadSetting, execute_of_poisoned poisoned]; rfl
  | storeFile name properties =>
      rw [Use.run, TransactionalStorage.storeFile, execute_of_poisoned poisoned]; rfl
  | createArtifact name conflict =>
      rw [Use.run, Artifact.create, Artifact.change, execute_of_poisoned poisoned]; rfl
  | removeArtifact name =>
      rw [Use.run, Artifact.remove, Artifact.change, execute_of_poisoned poisoned]; rfl
  | findArtifact name =>
      rw [Use.run, Artifact.find, TransactionalStorage.loadSetting,
        execute_of_poisoned poisoned]; rfl

/-- **A poisoned store stays poisoned and changes nothing any more.** -/
theorem refuses_of_poisoned {store : Store} (poisoned : store.poisoned = true) :
    store.Refuses := by
  intro ι _ index uses
  induction uses with
  | nil => rfl
  | cons use later ih =>
      rw [Use.runAll, run_use_of_poisoned poisoned use]
      dsimp only
      rw [ih, List.map_cons]

/-! ## Batches as a whole -/

variable {α : Type}

/-- What a batch that took some actions and then ended comes to: the answer to its caller, and the
store that it leaves. -/
def Concludes (store : Store) (actions : List Action) (ending : Ending α) :
    Except Fault α × Store → Prop
  | (answer, after) =>
      match ending with
      | .done value =>
          answer = .ok value ∧ after.tables = store.tables.applyAll actions ∧
            after.poisoned = false
      | .failed fault => answer = .error fault ∧ after = store
      | .brokeDown =>
          answer = .error (.storage .poisoned) ∧ after = { store with poisoned := true } ∧
            after.Refuses

/-- **Batches are all or nothing.** A store that is poisoned refuses everything. On any other the
batch takes actions whose reads answer what was written last, and no others would do. Its writes
take effect in their order if it ends with a value. They leave nothing behind if it fails or breaks
down, and after a break-down the store refuses everything. -/
theorem batch_all_or_nothing (work : Batch α) (store : Store) :
    store.poisoned = true ∧ store.Refuses ∨
    store.poisoned = false ∧ ∃ actions ending,
      (work.Takes actions ending ∧ ReadsLatest store.tables actions) ∧
      (∀ others other, work.Takes others other → ReadsLatest store.tables others →
        others = actions ∧ other = ending) ∧
      (TransactionalStorage.batch work store).1 = ⟨actions.filterMap Action.answer?, ending⟩ ∧
      store.Concludes actions ending (TransactionalStorage.execute work store) := by
  cases poisoned : store.poisoned with
  | true => exact .inl ⟨rfl, refuses_of_poisoned poisoned⟩
  | false =>
      obtain ⟨actions, ending, takes, fits, ran⟩ := work.traced [] store.tables
      rw [Batch.runOf, List.append_nil] at ran
      refine .inr ⟨rfl, actions, ending, ⟨takes, Tables.fitsAll_iff_readsLatest.mp fits⟩,
        ?_, ?_, ?_⟩
      · intro others other alike latest
        exact Batch.Takes.unique alike (Tables.fitsAll_iff_readsLatest.mpr latest) takes fits
      · change (Store.batch work store).1 = _
        rw [Store.batch, if_neg (by rw [poisoned]; exact Bool.false_ne_true), ran]
        dsimp only
        rw [List.reverse_reverse]
      · rw [execute_eq poisoned, ran]
        cases ending with
        | done value =>
            refine ⟨rfl, ?_, poisoned⟩
            rw [afterBatch_tables, ran]
        | failed fault => exact ⟨rfl, rfl⟩
        | brokeDown => exact ⟨rfl, rfl, refuses_of_poisoned rfl⟩

/-- What a batch has written it reads, also if nothing of it stays in the end. -/
example : Store.batch (.putSetting "key" "text" (.getSetting "key" fun _ => .breakDown)) {} =
    (⟨[.written, .setting (some "text")], (.brokeDown : Ending Unit)⟩, { poisoned := true }) :=
  rfl

end Store

end ReplicaSync
