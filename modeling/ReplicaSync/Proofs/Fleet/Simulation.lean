import ReplicaSync.Proofs.Fleet.Account
import ReplicaSync.Proofs.Revision.Numbers

/-!
# A fleet does what its account says

Every operation of a node is followed through its store once, and what it does to the properties
of the file is what the account says. A step of a fleet then fails exactly when the account has it
fail, with the same fault, and otherwise leads to a fleet that is as the account says. The same
holds of runs (`Fleet.tally_run`), by induction on the steps.
-/

set_option autoImplicit false

namespace ReplicaSync

/-- Two computations that fail alike or come to related results. -/
inductive Tally {α β : Type} (related : α → β → Prop) : Except Fault α → Except Fault β → Prop
  | ok {left : α} {right : β} (both : related left right) : Tally related (.ok left) (.ok right)
  | error (fault : Fault) : Tally related (.error fault) (.error fault)

namespace Tally

variable {α β γ δ : Type} {related : α → β → Prop} {after : γ → δ → Prop}
variable {left : Except Fault α} {right : Except Fault β}

theorem map {f : α → γ} {g : β → δ} (tally : Tally related left right)
    (both : ∀ a b, related a b → after (f a) (g b)) : Tally after (left.map f) (right.map g) := by
  cases tally with
  | ok related => exact .ok (both _ _ related)
  | error fault => exact .error fault

theorem foldlM {ι : Type} {f : α → ι → Except Fault α} {g : β → ι → Except Fault β}
    {steps : List ι}
    (each : ∀ step ∈ steps, ∀ a b, related a b → Tally related (f a step) (g b step))
    {a : α} {b : β} (both : related a b) : Tally related (steps.foldlM f a) (steps.foldlM g b) := by
  induction steps generalizing a b with
  | nil => exact .ok both
  | cons step rest ih =>
      rw [List.foldlM_cons, List.foldlM_cons]
      have first := each step List.mem_cons_self a b both
      cases left_first : f a step with
      | error fault =>
          rw [left_first] at first
          cases right_first : g b step with
          | error _ =>
              rw [right_first] at first
              cases first
              exact .error fault
          | ok _ =>
              rw [right_first] at first
              cases first
      | ok next =>
          rw [left_first] at first
          cases right_first : g b step with
          | error _ =>
              rw [right_first] at first
              cases first
          | ok other =>
              rw [right_first] at first
              cases first with
              | ok both =>
                  exact ih (fun step member => each step (List.mem_cons_of_mem _ member)) both

theorem of_ok {a : α} (tally : Tally related (.ok a) right) : ∃ b, right = .ok b ∧ related a b := by
  cases tally with
  | ok both => exact ⟨_, rfl, both⟩

theorem to_ok {b : β} (tally : Tally related left (.ok b)) : ∃ a, left = .ok a ∧ related a b := by
  cases tally with
  | ok both => exact ⟨_, rfl, both⟩

end Tally

/-! ## One node -/

/-- An edit of a file that can be read takes effect unless the edit itself fails. -/
theorem Edit.apply_eq {name : String} {store : Store} {held : Option Properties}
    (sound : store.poisoned = false) (stored : store.tables.getFile name = .ok held)
    (edit : Properties → Except Fault Properties) :
    Edit.apply name edit store =
      match edit (held.getD .empty) with
      | .error fault => (.error fault, store)
      | .ok properties => (.ok properties, store.afterBatch (.storeFile name properties)) := by
  rw [Edit.apply, Edit.edited, Store.loadFile_eq sound, stored]
  dsimp only
  cases edit (held.getD .empty) with
  | error fault => rfl
  | ok properties =>
      dsimp only
      rw [Store.storeFile_eq sound]
      rfl

namespace Replica.Shows

variable {name : String} {replica : Replica} {copy : Option Copy} {resolution : Option Resolution}
variable {properties : Option Properties}

/-- What a node has stored, and how to load it. -/
theorem load (shows : replica.Shows name copy resolution) :
    ∃ properties, Properties.Match resolution (copy.map Copy.lineage) properties ∧
      replica.workspace.store.tables.getFile name = .ok properties ∧
      TransactionalStorage.loadFile name replica.workspace.store =
        (.ok properties, replica.workspace.store) := by
  obtain ⟨properties, stored, matching⟩ := shows.matching
  refine ⟨properties, matching, stored, ?_⟩
  rw [Store.loadFile_eq shows.sound, stored]

/-- A node whose properties of the file have been replaced. -/
theorem of_store {workspace : Workspace Store Index} {incoming : Properties} {held : Option Copy}
    {content : Bytes} (sound : workspace.store.poisoned = false)
    (matching : Properties.Match resolution (held.map Copy.lineage) (some incoming))
    (content_eq : ∀ copy ∈ held, content = copy.content) :
    Replica.Shows name
      ⟨{ workspace with store := workspace.store.afterBatch (.storeFile name incoming) }, content⟩
      held resolution where
  sound := sound
  matching := by
    refine ⟨some incoming, ?_, matching⟩
    rw [Store.afterBatch_tables]
    exact (workspace.store.tables.getFile_putFile name name incoming).trans (if_pos rfl)
  content_eq := content_eq

theorem take (sound : replica.workspace.store.poisoned = false) {incoming : Properties}
    {held : Copy} (shown : incoming.Show held.lineage resolution) :
    ∃ after, replica.take name incoming held.content = .ok after ∧
      after.Shows name (some held) resolution := by
  have content_eq : ∀ copy ∈ some held, held.content = copy.content := by
    rintro _ ⟨⟩
    rfl
  refine ⟨_, ?_, of_store sound shown content_eq⟩
  rw [Replica.take, Store.storeFile_eq sound]

/-- What a write leaves in the properties. -/
theorem written (retention : Retention) {server : String} (legible : Lineage.Legible server)
    (matching : Properties.Match resolution (copy.map Copy.lineage) properties) :
    Tally (fun after lineage => after.Show lineage resolution)
      (Edit.written server retention (properties.getD .empty))
      (Account.lineageAfter retention server (copy.map Copy.lineage)) := by
  rw [Edit.written]
  cases held : copy.map Copy.lineage with
  | none =>
      rw [held] at matching
      have first : ∀ before : Properties, Resolution.ofProperties before = .ok resolution →
          ((Lineage.first server).writeTo before).Show (Lineage.first server) resolution :=
        fun before kept => Properties.Show.writeTo legible kept
      cases properties with
      | none =>
          obtain rfl : resolution = none := matching
          exact .ok (first .empty Resolution.ofProperties_empty)
      | some before =>
          obtain ⟨unread, kept, -⟩ := matching
          dsimp only [Option.getD_some]
          rw [unread]
          exact .ok (first before kept)
  | some lineage =>
      rw [held] at matching
      cases properties with
      | none => cases matching
      | some before =>
          have shown : before.Show lineage resolution := matching
          dsimp only [Option.getD_some]
          rw [shown.lineage_eq]
          dsimp only [Account.lineageAfter]
          cases result : lineage.write server retention with
          | error fault => exact .error fault
          | ok next =>
              have legible_next : Lineage.Legible next.current.server := by
                rw [Lineage.server_of_write result]
                exact legible
              exact .ok (Properties.Show.writeTo legible_next shown.resolution_eq)

/-- **A write on a node makes the copy that the account says.** -/
theorem write (shows : replica.Shows name copy resolution) (retention : Retention)
    {server : String} (legible : Lineage.Legible server) (content : Bytes) :
    Tally (fun after lineage => after.Shows name (some ⟨lineage, content⟩) resolution)
      (replica.write name retention server content)
      (Account.lineageAfter retention server (copy.map Copy.lineage)) := by
  obtain ⟨properties, matching, stored, -⟩ := shows.load
  have edit := written retention legible matching
  rw [Replica.write, Edit.write, Edit.apply_eq shows.sound stored]
  generalize Edit.written server retention (properties.getD .empty) = edited at edit ⊢
  generalize Account.lineageAfter retention server (copy.map Copy.lineage) = lineage at edit ⊢
  cases edit with
  | error fault => exact .error fault
  | ok shown =>
      refine .ok (of_store shows.sound shown ?_)
      rintro _ ⟨⟩
      rfl

/-- Recording a resolution leaves the copy. -/
theorem resolve (shows : replica.Shows name copy resolution) (decided : Resolution) :
    ∃ after, replica.resolve name decided = .ok after ∧ after.Shows name copy (some decided) := by
  obtain ⟨properties, matching, stored, -⟩ := shows.load
  have matching_after : Properties.Match (some decided) (copy.map Copy.lineage)
      (some (decided.writeTo (properties.getD .empty))) := by
    cases held : copy.map Copy.lineage with
    | none =>
        rw [held] at matching
        refine ⟨?_, Resolution.ofProperties_writeTo decided _, rfl⟩
        rw [Resolution.writeTo, Lineage.ofProperties_insert (by decide)]
        cases properties with
        | none => rfl
        | some before => exact matching.1
    | some lineage =>
        rw [held] at matching
        cases properties with
        | none => cases matching
        | some before => exact Properties.Show.resolve matching decided
  refine ⟨_, ?_, of_store shows.sound matching_after shows.content_eq⟩
  rw [Replica.resolve, Edit.resolve, Edit.apply_eq shows.sound stored]

/-- Properties without a lineage stop a round. -/
theorem evaluate_of_unread {held incoming : Properties} {source : Lineage}
    (unread : Lineage.ofProperties held = .error Account.noLineage)
    (read : Lineage.ofProperties incoming = .ok source) (workspace : Workspace Store Index) :
    Round.evaluate name (some held) incoming workspace = (.error Account.noLineage, workspace) := by
  rw [Round.evaluate, read]
  dsimp only
  rw [Round.evaluateHeld, unread]

/-- A decision that transfers nothing leaves what the properties show. -/
theorem follow_show {held : Properties} {lineage source : Lineage}
    (shown : held.Show lineage resolution)
    (kept : (Round.decision lineage resolution source).mayTransfer = false) :
    (Round.follow (Round.decision lineage resolution source) held).Show lineage resolution := by
  cases decided : Round.decision lineage resolution source with
  | conflict conflict => exact shown.mark
  | upToDate => exact shown
  | newFile => rw [decided] at kept; cases kept
  | fastForward => rw [decided] at kept; cases kept
  | settled conflict => rw [decided] at kept; cases kept

/-- Properties that come in without a lineage are refused. -/
theorem accept_of_unread (shows : replica.Shows name copy resolution) {incoming : Properties}
    (unread : Lineage.ofProperties incoming = .error Account.noLineage) (content : Bytes) :
    replica.accept name incoming content = .error Account.noLineage := by
  obtain ⟨properties, -, -, load⟩ := shows.load
  rw [Replica.accept, Replica.properties, load]
  dsimp only
  rw [Round.evaluate, unread]

/-- **A node takes over what comes in when the account says so.** -/
theorem accept (shows : replica.Shows name copy resolution) {incoming : Properties}
    {source : Copy} {decided : Option Resolution} (shown : incoming.Show source.lineage decided) :
    Tally (fun after taken => after.Shows name (if taken then some source else copy)
        (if taken then decided else resolution))
      (replica.accept name incoming source.content)
      (Account.takes copy resolution source) := by
  obtain ⟨properties, matching, stored, load⟩ := shows.load
  rw [Replica.accept, Replica.properties, load]
  dsimp only
  cases copy with
  | none =>
      cases properties with
      | none =>
          obtain rfl : resolution = none := matching
          obtain ⟨after, taken, as_said⟩ : ∃ after,
              replica.take name incoming source.content = .ok after ∧
                after.Shows name (some source) decided := take shows.sound shown
          rw [Round.evaluate_none shown.lineage_eq]
          change Tally _ (replica.take name incoming source.content) _
          rw [taken]
          exact .ok as_said
      | some before =>
          obtain ⟨unread, -, some_decided⟩ := matching
          obtain ⟨decision, rfl⟩ := Option.isSome_iff_exists.mp some_decided
          rw [evaluate_of_unread unread shown.lineage_eq]
          exact .error _
  | some held =>
      cases properties with
      | none => cases matching
      | some before =>
          have before_shown : before.Show held.lineage resolution := matching
          obtain ⟨after, sound, files, evaluated⟩ :=
            Round.evaluate_eq shows.sound before_shown shown.lineage_eq stored
          rw [evaluated, Account.takes]
          dsimp only
          cases transfers : (Round.decision held.lineage resolution source.lineage).mayTransfer with
          | true =>
              obtain ⟨final, taken, as_said⟩ : ∃ final,
                  Replica.take name incoming source.content ⟨after, replica.content⟩ = .ok final ∧
                    final.Shows name (some source) decided := take sound shown
              rw [if_pos rfl, taken]
              exact .ok as_said
          | false =>
              refine .ok ⟨sound, ?_, shows.content_eq⟩
              refine ⟨_, (files name).trans (if_pos rfl), ?_⟩
              exact follow_show before_shown transfers

end Replica.Shows

/-! ## A fleet -/

/-- The servers that write go by names that reading leaves as they are. -/
def Step.Legible : Step → Prop
  | .write server _ => Lineage.Legible server
  | _ => True

instance (step : Step) : Decidable step.Legible :=
  match step with
  | .write server _ => inferInstanceAs (Decidable (Lineage.Legible server))
  | .pull .. | .resolve .. => inferInstanceAs (Decidable True)

namespace Fleet

variable {name : String} {retention : Retention} {fleet : Fleet} {account : Account}

/-- A fleet in which one node has changed as the account says. -/
theorem Shows.update (shows : fleet.Shows name account) {server : String} {replica : Replica}
    {after : Account} (changed : replica.Shows name (after.copies server) (after.decided server))
    (others : ∀ other, other ≠ server → after.copies other = account.copies other ∧
      after.decided other = account.decided other) :
    Fleet.Shows name (Function.update fleet server replica) after := by
  intro other
  by_cases same : other = server
  · subst same
    rw [Function.update_self]
    exact changed
  · rw [Function.update_of_ne same, (others other same).1, (others other same).2]
    exact shows other

theorem Shows.tally_pull (shows : fleet.Shows name account) (destination source : String) :
    Tally (Fleet.Shows name) (fleet.step name retention (.pull destination source))
      (account.step retention (.pull destination source)) := by
  obtain ⟨properties, matching, -, load⟩ := (shows source).load
  rw [step, Replica.properties, load, Account.step]
  cases held : account.copies source with
  | none =>
      rw [held] at matching
      cases properties with
      | none =>
          have undecided : account.decided source = none := matching
          rw [undecided]
          exact .ok shows
      | some incoming =>
          obtain ⟨unread, -, some_decided⟩ := matching
          obtain ⟨decision, decided⟩ := Option.isSome_iff_exists.mp some_decided
          dsimp only
          rw [decided, (shows destination).accept_of_unread unread]
          exact .error _
  | some copy =>
      rw [held] at matching
      cases properties with
      | none => cases matching
      | some incoming =>
          have content_eq : (fleet source).content = copy.content :=
            (shows source).content_eq copy held
          dsimp only
          rw [content_eq]
          refine ((shows destination).accept matching).map fun after taken as_said => ?_
          cases taken with
          | false => exact shows.update as_said fun other different => ⟨rfl, rfl⟩
          | true =>
              refine shows.update ?_ fun other different =>
                ⟨Account.copies_hold_of_ne different, Account.decided_decide_of_ne different⟩
              rw [if_pos rfl, Account.copies_take, Account.copies_hold_self,
                Account.decided_take, Account.decided_decide_self]
              exact as_said

/-- **A step of a fleet is the step of its account.** -/
theorem tally_step (shows : fleet.Shows name account) {step : Step} (legible : step.Legible) :
    Tally (Fleet.Shows name) (fleet.step name retention step) (account.step retention step) := by
  cases step with
  | write server content =>
      refine ((shows server).write retention legible content).map fun after lineage as_said => ?_
      refine shows.update ?_ fun other different => ⟨Account.copies_hold_of_ne different, rfl⟩
      rw [Account.copies_issue, Account.copies_hold_self]
      exact as_said
  | pull destination source => exact shows.tally_pull destination source
  | resolve server resolution =>
      obtain ⟨after, resolved, as_said⟩ := (shows server).resolve resolution
      rw [step, resolved]
      refine .ok (shows.update ?_ fun other different =>
        ⟨rfl, Account.decided_decide_of_ne different⟩)
      rw [Account.decided_decide_self]
      exact as_said

/-- A fleet without the file is as the account says at the start. -/
theorem Lacks.shows (lacks : fleet.Lacks name) : fleet.Shows name .empty := by
  intro server
  obtain ⟨sound, missing⟩ := lacks server
  refine ⟨sound, ⟨none, ?_, rfl⟩, fun _ held => by cases held⟩
  rw [Tables.getFile, missing]

/-- A node that holds a copy has stored properties that show it. -/
theorem Shows.exists_properties (shows : fleet.Shows name account) {server : String} {copy : Copy}
    (held : account.copies server = some copy) :
    ∃ properties, (fleet server).properties name = .ok (some properties) ∧
      properties.Show copy.lineage (account.decided server) ∧
      (fleet server).workspace.store.tables.getFile name = .ok (some properties) := by
  obtain ⟨properties, matching, found, load⟩ := (shows server).load
  rw [held] at matching
  cases properties with
  | none => cases matching
  | some properties =>
      refine ⟨properties, ?_, matching, found⟩
      rw [Replica.properties, load]

/-- What a node has stored shows the copy that it holds, if it shows a lineage. -/
theorem Shows.exists_copy (shows : fleet.Shows name account) {server : String}
    {properties : Properties} (stored : (fleet server).properties name = .ok (some properties))
    {lineage : Lineage} (read : Lineage.ofProperties properties = .ok lineage) :
    ∃ copy, account.copies server = some copy ∧ copy.lineage = lineage := by
  obtain ⟨found, matching, -, load⟩ := (shows server).load
  rw [Replica.properties, load] at stored
  cases stored
  cases held : account.copies server with
  | none =>
      rw [held] at matching
      obtain ⟨unread, -⟩ := matching
      rw [read] at unread
      cases unread
  | some copy =>
      rw [held] at matching
      have shown : properties.Show copy.lineage (account.decided server) := matching
      have same : Except.ok copy.lineage = Except.ok lineage := shown.lineage_eq.symm.trans read
      exact ⟨copy, rfl, Except.ok.inj same⟩

/-- What a round on a node decides about what comes in. -/
theorem Shows.decision_eq (shows : fleet.Shows name account) {server : String}
    {held incoming : Properties} {lineage source : Lineage}
    (stored : (fleet server).properties name = .ok (some held))
    (held_read : Lineage.ofProperties held = .ok lineage)
    (read : Lineage.ofProperties incoming = .ok source) :
    (Round.evaluate name (some held) incoming (fleet server).workspace).1 =
      .ok (Round.decision lineage (account.decided server) source) := by
  obtain ⟨copy, copy_held, rfl⟩ := shows.exists_copy stored held_read
  obtain ⟨properties, loaded, shown, found⟩ := shows.exists_properties copy_held
  rw [stored] at loaded
  cases loaded
  obtain ⟨after, -, -, evaluated⟩ := Round.evaluate_eq (shows server).sound shown read found
  rw [evaluated]

/-- **A run of a fleet is the run of its account.** -/
theorem tally_run (shows : fleet.Shows name account) {steps : List Step}
    (legible : ∀ step ∈ steps, step.Legible) :
    Tally (Fleet.Shows name) (fleet.run name retention steps) (account.run retention steps) :=
  Tally.foldlM (f := step name retention) (g := Account.step retention)
    (fun step member _ _ shows => tally_step shows (legible step member)) shows

section Lacks

variable {start : Fleet} (lacks : start.Lacks name) {steps : List Step}
variable (legible : ∀ step ∈ steps, step.Legible)
include lacks legible

theorem Lacks.exists_account (ran : start.run name retention steps = .ok fleet) :
    ∃ account, Account.empty.run retention steps = .ok account ∧ fleet.Shows name account := by
  have tally : Tally (Fleet.Shows name) (start.run name retention steps)
      (Account.empty.run retention steps) := tally_run lacks.shows legible
  rw [ran] at tally
  exact tally.of_ok

theorem Lacks.exists_fleet (noted : Account.empty.run retention steps = .ok account) :
    ∃ fleet, start.run name retention steps = .ok fleet ∧ fleet.Shows name account := by
  have tally : Tally (Fleet.Shows name) (start.run name retention steps)
      (Account.empty.run retention steps) := tally_run lacks.shows legible
  rw [noted] at tally
  exact tally.to_ok

end Lacks

end Fleet

end ReplicaSync
