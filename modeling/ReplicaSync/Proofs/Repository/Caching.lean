import ReplicaSync.Proofs.Repository.Operations
import ReplicaSync.Proofs.Signature.StoredForm
import ReplicaSync.Repository.Cache

/-!
# The cache shows nothing

A cache is coherent as long as every signature at hand is what the repository behind it would
answer. Every operation keeps this up (`CachedRepository.follows_run`): a put replaces what was at
hand, a removal takes it out, a get only adds what it has just read, and making room only takes
something out. So a run through a cache answers what the repository behind it answers without the
cache, and leaves it in the same state (`CachedRepository.runAll_transparent`).
-/

set_option autoImplicit false

namespace ReplicaSync

/-! ## Signatures at hand -/

namespace RecentSignatures

variable {recent : RecentSignatures} {name : String} {signature : Signature}

theorem mem_erase {entry : String × Signature} (member : entry ∈ (recent.erase name).entries) :
    entry ∈ recent.entries ∧ entry.1 ≠ name := by
  obtain ⟨listed, apart⟩ := List.mem_filter.mp member
  exact ⟨listed, by simpa using apart⟩

theorem mem_put {entry : String × Signature}
    (member : entry ∈ (recent.put name signature).entries) :
    entry = (name, signature) ∨ entry ∈ recent.entries ∧ entry.1 ≠ name :=
  (List.mem_cons.mp (List.mem_of_mem_take member)).imp_right mem_erase

theorem length_put_le : (recent.put name signature).entries.length ≤ recent.capacity :=
  List.length_take_le _ _

theorem length_erase_le : (recent.erase name).entries.length ≤ recent.entries.length :=
  List.length_filter_le _ _

/-- A signature that is found is at hand. -/
theorem mem_of_find? (found : recent.find? name = some signature) :
    (name, signature) ∈ recent.entries := by
  obtain ⟨⟨other, kept⟩, first, rfl⟩ := Option.map_eq_some_iff.mp found
  have same : other = name := by simpa using List.find?_some first
  exact same ▸ List.mem_of_find?_eq_some first

/-- Getting a signature that is at hand only moves it to the front. -/
theorem of_get? {after : RecentSignatures} (got : recent.get? name = some (signature, after)) :
    (name, signature) ∈ recent.entries ∧ after.capacity = recent.capacity ∧
      after.entries.length ≤ recent.entries.length ∧
      ∀ entry ∈ after.entries, entry ∈ recent.entries := by
  obtain ⟨kept, found, same⟩ := Option.map_eq_some_iff.mp got
  cases same
  have member := mem_of_find? found
  refine ⟨member, rfl, ?_, fun entry listed => ?_⟩
  · have shorter : (recent.erase name).entries.length < recent.entries.length :=
      List.length_filter_lt_length_iff_exists.mpr ⟨(name, signature), member, by simp⟩
    exact shorter
  · rcases List.mem_cons.mp listed with rfl | other
    · exact member
    · exact (mem_erase other).1

end RecentSignatures

/-! ## Coherence -/

namespace CachedRepository

variable {ρ : Type} [SignatureRepository ρ]

/-- Every signature at hand is what the repository behind the cache would answer, and there are not
more of them than there is room for. -/
structure Coherent (repository : CachedRepository ρ) : Prop where
  agrees : ∀ entry ∈ repository.recent.entries,
    (SignatureRepository.get entry.1 repository.behind).1 = .ok (some entry.2)
  within : repository.recent.entries.length ≤ repository.recent.capacity

/-- An empty cache is coherent. -/
theorem coherent_ofRepository (behind : ρ) (capacity : Nat) :
    (ofRepository behind capacity).Coherent where
  agrees _ member := nomatch member
  within := Nat.zero_le _

/-- What an operation does with a cache follows what it does without: the answer is the same, so is
the state of the repository behind the cache, and the cache is coherent and as large as it was. -/
structure Follows {α : Type} (capacity : Nat) (cached : α × CachedRepository ρ) (plain : α × ρ) :
    Prop where
  answer_eq : cached.1 = plain.1
  behind_eq : cached.2.behind = plain.2
  capacity_eq : cached.2.recent.capacity = capacity
  coherent : cached.2.Coherent

theorem Follows.map {α β : Type} {capacity : Nat} {cached : α × CachedRepository ρ}
    {plain : α × ρ} (follows : Follows capacity cached plain) (wrap : α → β) :
    Follows capacity (cached.map wrap id) (plain.map wrap id) :=
  ⟨congrArg wrap follows.answer_eq, follows.behind_eq, follows.capacity_eq, follows.coherent⟩

section Steps

variable (keyed : SignatureRepository.Keyed ρ) {repository : CachedRepository ρ}
variable (coherent : repository.Coherent)
include keyed coherent

/-- Getting answers what the repository behind the cache would answer. -/
theorem follows_get (name : String) :
    Follows repository.recent.capacity (SignatureRepository.get name repository)
      (SignatureRepository.get name repository.behind) := by
  have unchanged := keyed.get_state name repository.behind
  show Follows _ (get name repository) _
  rw [get]
  cases got : repository.recent.get? name with
  | some pair =>
      obtain ⟨signature, after⟩ := pair
      obtain ⟨member, same, shorter, listed⟩ := RecentSignatures.of_get? got
      exact ⟨(coherent.agrees _ member).symm, unchanged.symm, same,
        ⟨fun entry moved => coherent.agrees entry (listed entry moved),
          same ▸ Nat.le_trans shorter coherent.within⟩⟩
  | none =>
      -- Nothing is at hand, so the repository behind is asked, and stays as it is.
      rcases read : SignatureRepository.get name repository.behind with ⟨answer, behind⟩
      obtain rfl : behind = repository.behind := by rw [← unchanged, read]
      cases answer with
      | error fault => exact ⟨rfl, rfl, rfl, coherent⟩
      | ok found =>
          cases found with
          | none => exact ⟨rfl, rfl, rfl, coherent⟩
          | some signature =>
              refine ⟨rfl, rfl, rfl, ⟨fun entry member => ?_, RecentSignatures.length_put_le⟩⟩
              rcases RecentSignatures.mem_put member with rfl | ⟨listed, _⟩
              · rw [read]
              · exact coherent.agrees entry listed

/-- Asking for a signature answers what the repository behind the cache would answer. -/
theorem follows_contains (name : String) :
    Follows repository.recent.capacity (SignatureRepository.contains name repository)
      (SignatureRepository.contains name repository.behind) :=
  (follows_get keyed coherent name).map fun found => found.map Option.isSome

/-- Putting replaces what is at hand, so it is what will be got back. -/
theorem follows_put (name : String) {signature : Signature}
    (gives_back : (SignatureRepository.get name
      (SignatureRepository.put name signature repository.behind).2).1 = .ok (some signature)) :
    Follows repository.recent.capacity (SignatureRepository.put name signature repository)
      (SignatureRepository.put name signature repository.behind) := by
  have taken := keyed.put_ok name signature repository.behind
  have others (other : String) (apart : other ≠ name) :=
    keyed.get_put_of_ne signature repository.behind apart
  show Follows _ (put name signature repository) _
  rw [put]
  rcases written : SignatureRepository.put name signature repository.behind with ⟨answer, behind⟩
  rw [written] at taken gives_back others
  obtain rfl : answer = .ok () := taken
  refine ⟨rfl, rfl, rfl, ⟨fun entry member => ?_, RecentSignatures.length_put_le⟩⟩
  rcases RecentSignatures.mem_put member with rfl | ⟨listed, apart⟩
  · exact gives_back
  · exact (others entry.1 apart).trans (coherent.agrees entry listed)

/-- Removing takes out what is at hand. -/
theorem follows_remove (name : String) :
    Follows repository.recent.capacity (SignatureRepository.remove name repository)
      (SignatureRepository.remove name repository.behind) := by
  show Follows _ (remove name repository) _
  rw [remove]
  refine ⟨rfl, rfl, rfl, ⟨fun entry member => ?_,
    Nat.le_trans RecentSignatures.length_erase_le coherent.within⟩⟩
  obtain ⟨listed, apart⟩ := RecentSignatures.mem_erase member
  exact (keyed.get_remove_of_ne repository.behind apart).trans (coherent.agrees entry listed)

/-- Every operation follows what it does without the cache. -/
theorem follows_run {operation : RepositoryOperation} (gives_back : operation.GivesBack ρ) :
    Follows repository.recent.capacity (operation.run repository)
      (operation.run repository.behind) := by
  cases operation with
  | put name signature =>
      exact (follows_put keyed coherent name (gives_back repository.behind)).map _
  | get name => exact (follows_get keyed coherent name).map _
  | remove name => exact (follows_remove keyed coherent name).map _
  | contains name => exact (follows_contains keyed coherent name).map _

/-- **A run follows what it does without the cache.** -/
theorem follows_runAll {operations : List RepositoryOperation}
    (give_back : ∀ operation ∈ operations, operation.GivesBack ρ) :
    Follows repository.recent.capacity (RepositoryOperation.runAll operations repository)
      (RepositoryOperation.runAll operations repository.behind) := by
  induction operations generalizing repository with
  | nil => exact ⟨rfl, rfl, rfl, coherent⟩
  | cons operation later ih =>
      have here := follows_run keyed coherent (give_back operation List.mem_cons_self)
      have rest := ih here.coherent fun other member =>
        give_back other (List.mem_cons_of_mem operation member)
      rw [here.behind_eq, here.capacity_eq] at rest
      exact ⟨congr (congrArg List.cons here.answer_eq) rest.answer_eq, rest.behind_eq,
        rest.capacity_eq, rest.coherent⟩

end Steps

/-- A run through a cache, which is empty at first, answers what the run answers without the cache
and leaves the same behind it. What is then at hand is kept behind the cache under the same name,
and there is at most as much of it as there is room for. -/
structure Transparent (capacity : Nat) (operations : List RepositoryOperation) (behind : ρ) :
    Prop where
  answers_eq : (RepositoryOperation.runAll operations (ofRepository behind capacity)).1 =
    (RepositoryOperation.runAll operations behind).1
  behind_eq : (RepositoryOperation.runAll operations (ofRepository behind capacity)).2.behind =
    (RepositoryOperation.runAll operations behind).2
  agrees : ∀ entry ∈
      (RepositoryOperation.runAll operations (ofRepository behind capacity)).2.recent.entries,
    (SignatureRepository.get entry.1 (RepositoryOperation.runAll operations behind).2).1 =
      .ok (some entry.2)
  within : (RepositoryOperation.runAll operations
    (ofRepository behind capacity)).2.recent.entries.length ≤ max 1 capacity

theorem transparent_of_keyed (keyed : SignatureRepository.Keyed ρ) (capacity : Nat)
    {operations : List RepositoryOperation} (behind : ρ)
    (give_back : ∀ operation ∈ operations, operation.GivesBack ρ) :
    Transparent capacity operations behind := by
  have follows := follows_runAll keyed (coherent_ofRepository behind capacity) give_back
  refine ⟨follows.answer_eq, follows.behind_eq, fun entry member => ?_, ?_⟩
  · rw [show behind = (ofRepository behind capacity).behind from rfl, ← follows.behind_eq]
    exact follows.coherent.agrees entry member
  · exact Nat.le_trans follows.coherent.within (Nat.le_of_eq follows.capacity_eq)

/-- **A cache shows nothing.** Whatever its capacity and whatever is kept behind it at first, every
sequence of operations goes through the cache as it goes without, on a repository in memory and, for
signatures that can be decoded from their stored form, on a stored repository. Every beginning of
such a sequence is one too, so this holds after each of its operations. -/
theorem runAll_transparent (capacity : Nat) :
    (∀ (operations : List RepositoryOperation) (behind : MemoryRepository),
      Transparent capacity operations behind) ∧
    ∀ (compression : Compression) (operations : List RepositoryOperation)
      (behind : StoredRepository compression),
      (∀ operation ∈ operations, operation.Storable compression) →
        Transparent capacity operations behind := by
  refine ⟨fun operations behind => ?_, fun compression operations behind storable => ?_⟩
  · exact transparent_of_keyed MemoryRepository.keyed capacity behind
      fun operation _ => MemoryRepository.givesBack operation
  · exact transparent_of_keyed StoredRepository.keyed capacity behind
      fun operation member => StoredRepository.givesBack (storable operation member)

/-- There is room for one signature, so each of the two that are put is at hand until the other one
is. Asking for what cannot be decoded and removing what is at hand leave nothing, and at last the
signature that is left is read again. -/
theorem runAll_transparent_of_evicted :
    ∃ (operations : List RepositoryOperation) (behind : StoredRepository .storedFrame),
      operations = [.put "a" .empty, .put "b" ⟨[⟨0, 2, .ofContent [1, 2]⟩], 2⟩, .get "a",
        .get "c", .remove "a", .contains "a", .contains "b"] ∧
      behind = StoredRepository.putBytes "c" [0] {} ∧
      (∀ operation ∈ operations, operation.Storable .storedFrame) ∧
      Transparent 0 operations behind ∧
      (RepositoryOperation.runAll operations (ofRepository behind 0)).2.recent.entries.map
        Prod.fst = ["b"] := by
  let pair : Signature := ⟨[⟨0, 2, .ofContent [1, 2]⟩], 2⟩
  have back (signature : Signature) (accepted : signature.check = .ok ())
      (few : signature.blocks.length ≤ 1) :
      Signature.decode .storedFrame (signature.encode .storedFrame) = .ok signature := by
    refine Signature.decode_of_storedForm
      ⟨_, Signature.holds_encode _ ?_, List.prefix_refl _, accepted⟩
    rw [Signature.length_payload, UInt32.size]
    omega
  let operations : List RepositoryOperation :=
    [.put "a" .empty, .put "b" pair, .get "a", .get "c", .remove "a", .contains "a",
      .contains "b"]
  have storable : ∀ operation ∈ operations, operation.Storable .storedFrame := by
    simp only [operations, List.forall_mem_cons, RepositoryOperation.Storable]
    exact ⟨⟨by decide, back .empty rfl (by decide)⟩, ⟨by decide, back pair rfl (by decide)⟩,
      by decide, by decide, by decide, by decide, by decide, List.forall_mem_nil _⟩
  exact ⟨operations, _, rfl, rfl, storable,
    (runAll_transparent 0).2 .storedFrame operations _ storable, by decide +kernel⟩

end CachedRepository

end ReplicaSync
