import ReplicaSync.Chunking.Generate
import ReplicaSync.NameMap
import ReplicaSync.Signature.Encoding

/-!
# Signature repositories

A repository keeps signatures under names. Putting replaces what was there, getting reads it
back, and removing says whether there was anything. A repository is a state, and every operation
answers with its result and the state after it, since also reading may change a state, and also
a failing operation may.

The memory repository keeps signatures as they are. The stored repository keeps their stored
form: it puts any signature, but only gets back what can be decoded.
-/

set_option autoImplicit false

namespace ReplicaSync

/-- The operations of a repository of signatures. -/
class SignatureRepository (ρ : Type) where
  put : String → Signature → ρ → Except Fault Unit × ρ
  get : String → ρ → Except Fault (Option Signature) × ρ
  remove : String → ρ → Except Fault Bool × ρ

namespace SignatureRepository

variable {ρ : Type} [SignatureRepository ρ]

/-- Whether a repository can get anything under a name. -/
def contains (name : String) (repository : ρ) : Except Fault Bool × ρ :=
  match get name repository with
  | (found, after) => (found.map Option.isSome, after)

end SignatureRepository

/-! ## Repositories in memory -/

/-- A repository that keeps signatures as they are. -/
structure MemoryRepository where
  signatures : NameMap Signature := .empty

instance : SignatureRepository MemoryRepository where
  put name signature repository := (.ok (), ⟨repository.signatures.insert name signature⟩)
  get name repository := (.ok (repository.signatures.get? name), repository)
  remove name repository :=
    (.ok (repository.signatures.contains name), ⟨repository.signatures.erase name⟩)

/-! ## Repositories of stored forms -/

/-- A repository that keeps signatures in their stored form. -/
structure StoredRepository (compression : Compression) where
  entries : NameMap Bytes := .empty

namespace StoredRepository

variable {compression : Compression}

/-- Keeps bytes under a name, whatever they are. -/
def putBytes (name : String) (bytes : Bytes) (repository : StoredRepository compression) :
    StoredRepository compression :=
  ⟨repository.entries.insert name bytes⟩

/-- Decodes what is kept under a name. -/
def fetch (name : String) (repository : StoredRepository compression) :
    Except Fault (Option Signature) :=
  match repository.entries.get? name with
  | none => .ok none
  | some bytes => (Signature.decode compression bytes).map some

end StoredRepository

instance (compression : Compression) : SignatureRepository (StoredRepository compression) where
  put name signature repository :=
    (.ok (), repository.putBytes name (signature.encode compression))
  get name repository := (repository.fetch name, repository)
  remove name repository :=
    (.ok (repository.entries.contains name), ⟨repository.entries.erase name⟩)

/-! ## Keeping generated signatures -/

namespace Chunker

variable {ρ : Type} [SignatureRepository ρ]

/-- Generates the signature of a stream and keeps it under a name. -/
def generateInto (chunker : Chunker) (reads : List Read) (name : String) (repository : ρ) :
    Except Fault Signature × ρ :=
  match chunker.generate reads with
  | .error fault => (.error fault, repository)
  | .ok signature =>
      match SignatureRepository.put name signature repository with
      | (.error fault, after) => (.error fault, after)
      | (.ok (), after) => (.ok signature, after)

end Chunker

end ReplicaSync
