import ReplicaSync.Repository.Basic

/-!
# Repositories that fail

An unreliable repository can be told to refuse the next operation, which then has no effect on
the repository behind it.
-/

set_option autoImplicit false

namespace ReplicaSync

/-- A repository and the refusal that is due, if one is. -/
structure UnreliableRepository (ρ : Type) where
  behind : ρ
  due : Option RepositoryFault := none

namespace UnreliableRepository

variable {ρ : Type}

/-- Makes the next operation fail. -/
def failNext (cause : RepositoryFault) (repository : UnreliableRepository ρ) :
    UnreliableRepository ρ :=
  { repository with due := some cause }

/-- Runs an operation on the repository behind, unless a refusal is due. -/
def attempt {α : Type} (operation : ρ → Except Fault α × ρ)
    (repository : UnreliableRepository ρ) : Except Fault α × UnreliableRepository ρ :=
  match repository.due with
  | some cause => (.error (.repository cause), { repository with due := none })
  | none =>
      match operation repository.behind with
      | (answer, behind) => (answer, { repository with behind })

end UnreliableRepository

instance (ρ : Type) [SignatureRepository ρ] : SignatureRepository (UnreliableRepository ρ) where
  put name signature := UnreliableRepository.attempt (SignatureRepository.put name signature)
  get name := UnreliableRepository.attempt (SignatureRepository.get name)
  remove name := UnreliableRepository.attempt (SignatureRepository.remove name)

end ReplicaSync
