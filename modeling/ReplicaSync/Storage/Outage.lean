import ReplicaSync.Storage.Index
import ReplicaSync.Storage.Store

/-!
# Outages

Stores and indexes may refuse. An outage is planned ahead: a store refuses one batch after it
has let a number of others through, and an index refuses the next update. A refused batch or
update changes nothing else.
-/

set_option autoImplicit false

namespace ReplicaSync

/-- A planned refusal of a batch. -/
structure Outage where
  /-- The number of batches that go through before. -/
  after : Nat
  cause : StorageFault

/-- A store with a planned refusal, if there is one. -/
structure OutageStore (σ : Type) where
  store : σ
  outage : Option Outage := none

namespace OutageStore

variable {σ : Type} [TransactionalStorage σ]

/-- Runs a batch unless it is the one to refuse. -/
def batch {α : Type} (work : Batch α) (guarded : OutageStore σ) : Outcome α × OutageStore σ :=
  match guarded.outage with
  | some ⟨0, cause⟩ => (.refused (.storage cause), { guarded with outage := none })
  | some ⟨after + 1, cause⟩ =>
      match TransactionalStorage.batch work guarded.store with
      | (outcome, store) => (outcome, ⟨store, some ⟨after, cause⟩⟩)
  | none =>
      match TransactionalStorage.batch work guarded.store with
      | (outcome, store) => (outcome, { guarded with store })

end OutageStore

instance (σ : Type) [TransactionalStorage σ] : TransactionalStorage (OutageStore σ) where
  batch := OutageStore.batch

/-- An index with a refusal that is due, if one is. -/
structure OutageIndex (ι : Type) where
  index : ι
  due : Option StorageFault := none

namespace OutageIndex

variable {ι : Type} [SearchIndex ι]

/-- Updates the index unless a refusal is due. -/
def update (name : String) (properties : Properties) (guarded : OutageIndex ι) :
    Except Fault Unit × OutageIndex ι :=
  match guarded.due with
  | some cause => (.error (.storage cause), { guarded with due := none })
  | none =>
      match SearchIndex.update name properties guarded.index with
      | (answer, index) => (answer, { guarded with index })

end OutageIndex

instance (ι : Type) [SearchIndex ι] : SearchIndex (OutageIndex ι) where
  update := OutageIndex.update

end ReplicaSync
