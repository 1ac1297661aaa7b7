import ReplicaSync.Repository.Basic

/-!
# Runs of operations on a repository

A repository is used by putting, getting, removing and asking for signatures, one operation after
the other, and every operation has an answer. `RepositoryOperation.run` carries out one operation
and `RepositoryOperation.runAll` a sequence of them, on any repository.

The repository in memory and the stored repository are keyed: an operation only touches what is
kept under its name, and getting touches nothing (`SignatureRepository.Keyed`). What is put is got
back from a repository in memory, and from a stored repository if it can be decoded.
-/

set_option autoImplicit false

namespace ReplicaSync

/-! ## Operations -/

/-- One operation on a repository. -/
inductive RepositoryOperation where
  | put (name : String) (signature : Signature)
  | get (name : String)
  | remove (name : String)
  | contains (name : String)

/-- What an operation on a repository answers. -/
inductive RepositoryAnswer where
  | put (answer : Except Fault Unit)
  | get (answer : Except Fault (Option Signature))
  | remove (answer : Except Fault Bool)
  | contains (answer : Except Fault Bool)

namespace RepositoryOperation

variable {ρ : Type} [SignatureRepository ρ]

/-- Carries out an operation. -/
def run (operation : RepositoryOperation) (repository : ρ) : RepositoryAnswer × ρ :=
  match operation with
  | .put name signature => (SignatureRepository.put name signature repository).map .put id
  | .get name => (SignatureRepository.get name repository).map .get id
  | .remove name => (SignatureRepository.remove name repository).map .remove id
  | .contains name => (SignatureRepository.contains name repository).map .contains id

/-- Carries out operations one after the other. -/
def runAll : List RepositoryOperation → ρ → List RepositoryAnswer × ρ
  | [], repository => ([], repository)
  | operation :: later, repository =>
      let (answer, after) := operation.run repository
      let (answers, final) := runAll later after
      (answer :: answers, final)

/-- A run has as many answers as operations. -/
theorem length_runAll (operations : List RepositoryOperation) (repository : ρ) :
    (runAll operations repository).1.length = operations.length := by
  induction operations generalizing repository with
  | nil => rfl
  | cons operation later ih => exact congrArg Nat.succ (ih _)

/-- A run goes on where the run of its first operations has come to. -/
theorem runAll_append (earlier later : List RepositoryOperation) (repository : ρ) :
    runAll (earlier ++ later) repository =
      ((runAll earlier repository).1 ++ (runAll later (runAll earlier repository).2).1,
        (runAll later (runAll earlier repository).2).2) := by
  induction earlier generalizing repository with
  | nil => rfl
  | cons operation rest ih =>
      rw [List.cons_append, runAll, runAll]
      dsimp only
      rw [ih, List.cons_append]

/-- What an operation within a run answers. -/
theorem getElem?_runAll (earlier later : List RepositoryOperation)
    (operation : RepositoryOperation) (repository : ρ) :
    (runAll (earlier ++ operation :: later) repository).1[earlier.length]? =
      some (operation.run (runAll earlier repository).2).1 := by
  have before := length_runAll earlier repository
  rw [runAll_append, List.getElem?_append_right (Nat.le_of_eq before), before, Nat.sub_self]
  rfl

/-- Whether a signature that an operation puts is got back from a kind of repository. -/
def GivesBack (ρ : Type) [SignatureRepository ρ] : RepositoryOperation → Prop
  | .put name signature => ∀ repository : ρ,
      (SignatureRepository.get name (SignatureRepository.put name signature repository).2).1 =
        .ok (some signature)
  | .get _ | .remove _ | .contains _ => True

/-- Whether an operation is one for a stored repository: names are not empty there, and a signature
that is put can be decoded from its stored form. -/
def Storable (compression : Compression) : RepositoryOperation → Prop
  | .put name signature =>
      name ≠ "" ∧ Signature.decode compression (signature.encode compression) = .ok signature
  | .get name | .remove name | .contains name => name ≠ ""

end RepositoryOperation

/-! ## Keyed repositories -/

namespace SignatureRepository

/-- A repository that takes everything, is not changed by getting, and keeps what is under other
names when something is put or removed. -/
structure Keyed (ρ : Type) [SignatureRepository ρ] : Prop where
  put_ok : ∀ (name : String) (signature : Signature) (repository : ρ),
    (put name signature repository).1 = .ok ()
  get_state : ∀ (name : String) (repository : ρ), (get name repository).2 = repository
  get_put_of_ne : ∀ {name other : String} (signature : Signature) (repository : ρ),
    other ≠ name → (get other (put name signature repository).2).1 = (get other repository).1
  get_remove_of_ne : ∀ {name other : String} (repository : ρ),
    other ≠ name → (get other (remove name repository).2).1 = (get other repository).1

end SignatureRepository

namespace MemoryRepository

theorem keyed : SignatureRepository.Keyed MemoryRepository where
  put_ok _ _ _ := rfl
  get_state _ _ := rfl
  get_put_of_ne signature repository apart := by
    refine congrArg Except.ok ((repository.signatures.get?_insert _ _ signature).trans ?_)
    exact if_neg apart
  get_remove_of_ne repository apart := by
    refine congrArg Except.ok ((repository.signatures.get?_erase _ _).trans ?_)
    exact if_neg apart

/-- What is put into memory is got back. -/
theorem givesBack (operation : RepositoryOperation) : operation.GivesBack MemoryRepository := by
  cases operation with
  | put name signature =>
      intro repository
      refine congrArg Except.ok ((repository.signatures.get?_insert _ _ signature).trans ?_)
      exact if_pos rfl
  | get | remove | contains => trivial

end MemoryRepository

namespace StoredRepository

variable {compression : Compression}

/-- What is decoded depends on what is kept under the name. -/
theorem fetch_congr {left right : StoredRepository compression} {name : String}
    (same : left.entries.get? name = right.entries.get? name) :
    left.fetch name = right.fetch name := by
  rw [fetch, fetch, same]

theorem keyed : SignatureRepository.Keyed (StoredRepository compression) where
  put_ok _ _ _ := rfl
  get_state _ _ := rfl
  get_put_of_ne signature repository apart := by
    refine fetch_congr ((repository.entries.get?_insert _ _ _).trans ?_)
    exact if_neg apart
  get_remove_of_ne repository apart := by
    refine fetch_congr ((repository.entries.get?_erase _ _).trans ?_)
    exact if_neg apart

/-- A signature that can be decoded from its stored form is got back. -/
theorem givesBack {operation : RepositoryOperation} (storable : operation.Storable compression) :
    operation.GivesBack (StoredRepository compression) := by
  cases operation with
  | put name signature =>
      intro repository
      have kept : (repository.putBytes name (signature.encode compression)).entries.get? name =
          some (signature.encode compression) :=
        (repository.entries.get?_insert _ _ _).trans (if_pos rfl)
      show (repository.putBytes name (signature.encode compression)).fetch name = _
      rw [fetch, kept]
      simp only [storable.2]
      rfl
  | get | remove | contains => trivial

end StoredRepository

end ReplicaSync
