import Mathlib.Data.List.Induction
import Mathlib.Data.Option.Basic
import ReplicaSync.Proofs.Repository.Operations
import ReplicaSync.Proofs.Signature.StoredForm

/-!
# A stored repository beside one in memory

A stored repository keeps encoded signatures and decodes them when they are asked for. Encoding
takes any signature, decoding only those that tile their stream. So the two kinds of repositories
answer alike, up to one thing: where a signature that does not tile its stream was put last, getting
it and asking for it answer what the check finds in it (`RepositoryOperation.Answered`). Such a
signature can be put, removed and replaced like any other, and nothing is seen of it under other
names.

After any operations the entries of the one repository are the encoded entries of the other, and
both are what was put last (`RepositoryOperation.Represents`). Every operation keeps this up, which
gives the answers of a whole run (`RepositoryOperation.runAll_encoded`).
-/

set_option autoImplicit false

namespace ReplicaSync

namespace RepositoryOperation

/-- The name that an operation is about. -/
def name : RepositoryOperation → String
  | .put name _ | .get name | .remove name | .contains name => name

/-- What an operation leaves under a name, if it changes anything there. -/
def left? (name : String) : RepositoryOperation → Option (Option Signature)
  | .put other signature => if name = other then some (some signature) else none
  | .remove other => if name = other then some none else none
  | .get _ | .contains _ => none

/-- What operations on an empty repository have put last under a name and not removed since. -/
def kept (operations : List RepositoryOperation) (name : String) : Option Signature :=
  (operations.reverse.findSome? (left? name)).join

/-- Whether a stored repository has room for what an operation is about: names are not empty there,
and the header of a stored form has to hold the length of the payload. -/
def Fits : RepositoryOperation → Prop
  | .put name signature => name ≠ "" ∧ signature.payload.length < UInt32.size
  | .get name | .remove name | .contains name => name ≠ ""

/-- What a repository in memory and a stored one answer to an operation, when a signature has been
put last under its name, or none has. -/
inductive Answered (held : Option Signature) :
    RepositoryOperation → RepositoryAnswer → RepositoryAnswer → Prop
  /-- Both take any signature. -/
  | put (name : String) (signature : Signature) :
      Answered held (.put name signature) (.put (.ok ())) (.put (.ok ()))
  /-- Both say whether there was a signature, whatever it was. -/
  | remove (name : String) :
      Answered held (.remove name) (.remove (.ok held.isSome)) (.remove (.ok held.isSome))
  /-- A signature that tiles its stream is got from both. -/
  | get (name : String) (tiled : ∀ signature, held = some signature → signature.check = .ok ()) :
      Answered held (.get name) (.get (.ok held)) (.get (.ok held))
  /-- Any other is got from memory alone. -/
  | getUntiled (name : String) {signature : Signature} {cause : InputFault}
      (put_last : held = some signature) (untiled : signature.check = .error cause) :
      Answered held (.get name) (.get (.ok (some signature))) (.get (.error (.input cause)))
  /-- Both say whether there is a signature, as long as it tiles its stream. -/
  | contains (name : String)
      (tiled : ∀ signature, held = some signature → signature.check = .ok ()) :
      Answered held (.contains name) (.contains (.ok held.isSome)) (.contains (.ok held.isSome))
  /-- Any other is there for memory alone. -/
  | containsUntiled (name : String) {signature : Signature} {cause : InputFault}
      (put_last : held = some signature) (untiled : signature.check = .error cause) :
      Answered held (.contains name) (.contains (.ok true)) (.contains (.error (.input cause)))

/-! ## What is kept -/

section Kept

variable (operations : List RepositoryOperation) (operation : RepositoryOperation)

theorem kept_concat (name : String) :
    kept (operations ++ [operation]) name =
      match operation.left? name with
      | some left => left
      | none => kept operations name := by
  rw [kept, kept, List.reverse_concat, List.findSome?_cons]
  cases operation.left? name <;> rfl

/-- What is kept was put. -/
theorem exists_put_of_kept {operations : List RepositoryOperation} {name : String}
    {signature : Signature} (found : kept operations name = some signature) :
    .put name signature ∈ operations := by
  obtain ⟨operation, member, left⟩ :=
    List.exists_of_findSome?_eq_some (Option.join_eq_some_iff.mp found)
  cases operation with
  | put other stored =>
      simp only [left?, Option.ite_none_right_eq_some, Option.some.injEq] at left
      obtain ⟨rfl, rfl⟩ := left
      exact List.mem_reverse.mp member
  | remove other => simp [left?] at left
  | get | contains => cases left

end Kept

/-! ## The two repositories -/

section State

variable (operation : RepositoryOperation) (name : String)

/-- An operation leaves in memory what it leaves under its name, and all else as it was. -/
theorem get?_run_memory (memory : MemoryRepository) :
    (operation.run memory).2.signatures.get? name =
      match operation.left? name with
      | some left => left
      | none => memory.signatures.get? name := by
  cases operation with
  | put other signature =>
      refine (memory.signatures.get?_insert other name signature).trans ?_
      rw [left?]
      split <;> rfl
  | remove other =>
      refine (memory.signatures.get?_erase other name).trans ?_
      rw [left?]
      split <;> rfl
  | get | contains => rfl

variable {compression : Compression}

/-- An operation leaves in a stored repository the stored form of what it leaves under its name, and
all else as it was. -/
theorem get?_run_stored (stored : StoredRepository compression) :
    (operation.run stored).2.entries.get? name =
      match operation.left? name with
      | some left => left.map (Signature.encode compression)
      | none => stored.entries.get? name := by
  cases operation with
  | put other signature =>
      refine (stored.entries.get?_insert other name _).trans ?_
      rw [left?]
      split <;> rfl
  | remove other =>
      refine (stored.entries.get?_erase other name).trans ?_
      rw [left?]
      split <;> rfl
  | get | contains => rfl

end State

section Runs

variable {compression : Compression}

/-- What two repositories keep after the same operations: the one keeps what was put last under
every name, the other its stored form. -/
structure Represents (operations : List RepositoryOperation) (memory : MemoryRepository)
    (stored : StoredRepository compression) : Prop where
  signatures : ∀ name, memory.signatures.get? name = kept operations name
  entries : ∀ name, stored.entries.get? name =
    (kept operations name).map (Signature.encode compression)

/-- Repositories that keep nothing. -/
theorem represents_nil : Represents [] {} ({} : StoredRepository compression) where
  signatures _ := rfl
  entries _ := rfl

namespace Represents

variable {operations : List RepositoryOperation} {memory : MemoryRepository}
variable {stored : StoredRepository compression} (represents : Represents operations memory stored)
include represents

/-- Every operation keeps this up. -/
theorem run (operation : RepositoryOperation) :
    Represents (operations ++ [operation]) (operation.run memory).2 (operation.run stored).2 where
  signatures name := by
    rw [get?_run_memory, kept_concat, represents.signatures]
  entries name := by
    rw [get?_run_stored, kept_concat, represents.entries]
    cases operation.left? name <;> rfl

/-- A stored repository reads what memory has, or what the check finds in it. -/
theorem fetch_cases (fit : ∀ operation ∈ operations, operation.Fits) (name : String) :
    (∀ signature, kept operations name = some signature → signature.check = .ok ()) ∧
        stored.fetch name = .ok (kept operations name) ∨
      ∃ signature cause, kept operations name = some signature ∧
        signature.check = .error cause ∧ stored.fetch name = .error (.input cause) := by
  rw [StoredRepository.fetch, represents.entries]
  cases found : kept operations name with
  | none => exact .inl ⟨by rintro _ ⟨⟩, rfl⟩
  | some signature =>
      have fits : signature.payload.length < UInt32.size := (fit _ (exists_put_of_kept found)).2
      have decoded := Signature.decode_encode_of_fits compression fits
      rw [Option.map_some]
      dsimp only
      rw [decoded]
      cases accepted : signature.check with
      | ok =>
          refine .inl ⟨fun other same => ?_, rfl⟩
          obtain rfl := Option.some.inj same
          exact accepted
      | error cause => exact .inr ⟨signature, cause, rfl, accepted, rfl⟩

/-- **Every operation is answered alike**, up to signatures that do not tile their stream. -/
theorem answered (fit : ∀ operation ∈ operations, operation.Fits)
    (operation : RepositoryOperation) :
    Answered (kept operations operation.name) operation (operation.run memory).1
      (operation.run stored).1 := by
  cases operation with
  | put name signature => exact .put name signature
  | remove name =>
      show Answered _ _ (.remove (.ok (memory.signatures.get? name).isSome))
        (.remove (.ok (stored.entries.get? name).isSome))
      rw [represents.signatures, represents.entries, Option.isSome_map]
      exact .remove name
  | get name =>
      show Answered _ _ (.get (.ok (memory.signatures.get? name))) (.get (stored.fetch name))
      rw [represents.signatures]
      rcases represents.fetch_cases fit name with
        ⟨tiled, read⟩ | ⟨signature, cause, put_last, untiled, read⟩
      · rw [read]
        exact .get name tiled
      · rw [read, put_last]
        exact .getUntiled name put_last untiled
  | contains name =>
      show Answered _ _ (.contains (.ok (memory.signatures.get? name).isSome))
        (.contains ((stored.fetch name).map Option.isSome))
      rw [represents.signatures]
      rcases represents.fetch_cases fit name with
        ⟨tiled, read⟩ | ⟨signature, cause, put_last, untiled, read⟩
      · rw [read]
        exact .contains name tiled
      · rw [read, put_last]
        exact .containsUntiled name put_last untiled

end Represents

/-- After a run on repositories that kept nothing, the stored one keeps the stored forms of what the
one in memory keeps. -/
theorem represents_runAll (operations : List RepositoryOperation) :
    Represents operations (runAll operations ({} : MemoryRepository)).2
      (runAll operations ({} : StoredRepository compression)).2 := by
  induction operations using List.reverseRecOn with
  | nil => exact represents_nil
  | append_singleton earlier last ih =>
      rw [runAll_append, runAll_append]
      exact ih.run last

/-- **A run on a stored repository is answered like the run in memory**, but for signatures that do
not tile their stream: where one was put last, getting it and asking for it answer what the check
finds in it. Each answer depends on what the operations before have left under the name, and on
nothing else. -/
theorem runAll_encoded (compression : Compression) (earlier later : List RepositoryOperation)
    (operation : RepositoryOperation)
    (fit : ∀ other ∈ earlier ++ operation :: later, other.Fits) :
    ∃ plain coded,
      (runAll (earlier ++ operation :: later) ({} : MemoryRepository)).1[earlier.length]? =
        some plain ∧
      (runAll (earlier ++ operation :: later)
        ({} : StoredRepository compression)).1[earlier.length]? = some coded ∧
      Answered (kept earlier operation.name) operation plain coded := by
  refine ⟨_, _, getElem?_runAll earlier later operation _,
    getElem?_runAll earlier later operation _, ?_⟩
  exact (represents_runAll earlier).answered
    (fun other member => fit other (List.mem_append_left _ member)) operation

/-- A signature whose block does not begin at the start of the stream is taken, and then refused
when it is asked for, which does not touch the name beside it. Removing it finds it, and what is put
in its place is got. -/
theorem runAll_encoded_of_untiled :
    ∃ (untiled : Signature) (operations : List RepositoryOperation)
      (answers : List RepositoryAnswer),
      untiled = ⟨[⟨1, 2, .ofContent []⟩], 3⟩ ∧
      operations = [.put "a" untiled, .put "b" .empty, .contains "a", .get "b", .remove "a",
        .put "a" .empty, .get "a"] ∧
      (∀ operation ∈ operations, operation.Fits) ∧
      (runAll operations ({} : StoredRepository .storedFrame)).1 = answers ∧
      answers[2]? = some (.contains (.error (.input (.misplacedBlock 0 1 0)))) ∧
      answers[3]? = some (.get (.ok (some .empty))) ∧
      answers[4]? = some (.remove (.ok true)) ∧
      answers[6]? = some (.get (.ok (some .empty))) := by
  let untiled : Signature := ⟨[⟨1, 2, .ofContent []⟩], 3⟩
  let operations : List RepositoryOperation := [.put "a" untiled, .put "b" .empty,
    .contains "a", .get "b", .remove "a", .put "a" .empty, .get "a"]
  have fit : ∀ operation ∈ operations, operation.Fits := by
    simp only [operations, List.forall_mem_cons, Fits, Signature.length_payload]
    exact ⟨⟨by decide, by decide⟩, ⟨by decide, by decide⟩, by decide, by decide, by decide,
      ⟨by decide, by decide⟩, by decide, List.forall_mem_nil _⟩
  refine ⟨untiled, operations, _, rfl, rfl, fit, rfl, ?_, ?_, ?_, ?_⟩
  · obtain ⟨_, coded, -, answer, answered⟩ :=
      runAll_encoded .storedFrame (operations.take 2) (operations.drop 3) (.contains "a") fit
    refine answer.trans ?_
    cases answered with
    | contains _ tiled => cases tiled untiled rfl
    | containsUntiled _ put_last refused =>
        cases put_last
        cases refused
        rfl
  · obtain ⟨_, coded, -, answer, answered⟩ :=
      runAll_encoded .storedFrame (operations.take 3) (operations.drop 4) (.get "b") fit
    refine answer.trans ?_
    cases answered with
    | get => rfl
    | getUntiled _ put_last refused =>
        cases put_last
        cases refused
  · obtain ⟨_, coded, -, answer, answered⟩ :=
      runAll_encoded .storedFrame (operations.take 4) (operations.drop 5) (.remove "a") fit
    refine answer.trans ?_
    cases answered
    rfl
  · obtain ⟨_, coded, -, answer, answered⟩ :=
      runAll_encoded .storedFrame (operations.take 6) (operations.drop 7) (.get "a") fit
    refine answer.trans ?_
    cases answered with
    | get => rfl
    | getUntiled _ put_last refused =>
        cases put_last
        cases refused

end Runs

end RepositoryOperation

end ReplicaSync
