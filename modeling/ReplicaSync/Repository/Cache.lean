import ReplicaSync.Repository.Basic

/-!
# Cached repositories

A cached repository keeps the signatures used last at hand, up to a capacity of at least one.
Getting a signature looks there first, and keeps what it had to read from the repository behind
the cache. Putting goes to the repository behind first, so that a put that fails leaves the
cache alone. Removing takes the signature out of the cache first.

The signatures at hand are listed with the one used last in front. The one at the end goes when
there is no room.
-/

set_option autoImplicit false

namespace ReplicaSync

/-- Signatures at hand, the one used last in front. -/
structure RecentSignatures where
  /-- The number of signatures there is room for. -/
  capacity : Nat
  entries : List (String × Signature) := []

namespace RecentSignatures

/-- Room for so many signatures, but for at least one. -/
def withCapacity (capacity : Nat) : RecentSignatures := { capacity := max 1 capacity }

/-- The signatures without the one under a name. -/
def erase (recent : RecentSignatures) (name : String) : RecentSignatures :=
  { recent with entries := recent.entries.filter fun entry => entry.1 != name }

/-- Puts a signature in front. The last one goes when there is no room. -/
def put (recent : RecentSignatures) (name : String) (signature : Signature) : RecentSignatures :=
  { recent with
    entries := ((name, signature) :: (recent.erase name).entries).take recent.capacity }

/-- The signature under a name. -/
def find? (recent : RecentSignatures) (name : String) : Option Signature :=
  (recent.entries.find? fun entry => entry.1 == name).map Prod.snd

/-- The signature under a name, which is then in front. -/
def get? (recent : RecentSignatures) (name : String) : Option (Signature × RecentSignatures) :=
  (recent.find? name).map fun signature =>
    (signature, { recent with entries := (name, signature) :: (recent.erase name).entries })

end RecentSignatures

/-- A repository behind a cache. -/
structure CachedRepository (ρ : Type) where
  behind : ρ
  recent : RecentSignatures

namespace CachedRepository

variable {ρ : Type} [SignatureRepository ρ]

/-- A repository behind an empty cache with the given capacity. -/
def ofRepository (behind : ρ) (capacity : Nat) : CachedRepository ρ :=
  ⟨behind, .withCapacity capacity⟩

/-- Puts a signature into the repository behind the cache, and then into the cache. -/
def put (name : String) (signature : Signature) (repository : CachedRepository ρ) :
    Except Fault Unit × CachedRepository ρ :=
  match SignatureRepository.put name signature repository.behind with
  | (.error fault, behind) => (.error fault, { repository with behind })
  | (.ok (), behind) => (.ok (), ⟨behind, repository.recent.put name signature⟩)

/-- Gets a signature from the cache, or else from the repository behind it. -/
def get (name : String) (repository : CachedRepository ρ) :
    Except Fault (Option Signature) × CachedRepository ρ :=
  match repository.recent.get? name with
  | some (signature, recent) => (.ok (some signature), { repository with recent })
  | none =>
      match SignatureRepository.get name repository.behind with
      | (.ok (some signature), behind) =>
          (.ok (some signature), ⟨behind, repository.recent.put name signature⟩)
      | (answer, behind) => (answer, { repository with behind })

/-- Removes a signature from the cache, and then from the repository behind it. -/
def remove (name : String) (repository : CachedRepository ρ) :
    Except Fault Bool × CachedRepository ρ :=
  match SignatureRepository.remove name repository.behind with
  | (answer, behind) => (answer, ⟨behind, repository.recent.erase name⟩)

end CachedRepository

instance (ρ : Type) [SignatureRepository ρ] : SignatureRepository (CachedRepository ρ) where
  put := CachedRepository.put
  get := CachedRepository.get
  remove := CachedRepository.remove

end ReplicaSync
