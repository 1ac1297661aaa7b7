import ReplicaSync.Proofs.Chunking.Cuts
import ReplicaSync.Repository.Basic

/-!
# How a stream is delivered

A stream comes in pieces of any sizes that fit the buffer, with interruptions anywhere between
them. Wherever the pieces part its blocks, what has been read goes along with a scan of it
(`Chunker.generate_append`). So what is generated from it depends neither on the pieces nor on the
interruptions: it is what one pass over the whole string gives. A read that fails ends it, whatever
has been delivered before, and then nothing is kept either (`Chunker.generate_of_delivery`).
-/

set_option autoImplicit false

namespace ReplicaSync

namespace Read

/-- Whether reading goes on after an attempt that brings this: it was interrupted, or brought some
bytes, no more than the buffer holds. -/
def GoesOn : Read → Prop
  | .bytes delivered => 0 < delivered.length ∧ delivered.length ≤ Reader.bufferSize
  | .interrupted => True
  | .failed _ => False

instance (read : Read) : Decidable read.GoesOn :=
  match read with
  | .bytes delivered =>
      inferInstanceAs (Decidable (0 < delivered.length ∧ delivered.length ≤ Reader.bufferSize))
  | .interrupted => .isTrue trivial
  | .failed _ => .isFalse id

/-- The bytes that an attempt brings. -/
def brought : Read → Bytes
  | .bytes delivered => delivered
  | .interrupted | .failed _ => []

/-- Whether reads deliver a byte string: attempts after which reading goes on bring it, and then the
stream ends. -/
def Delivers (reads : List Read) (content : Bytes) : Prop :=
  ∃ attempts later, reads = attempts ++ .bytes [] :: later ∧
    (∀ attempt ∈ attempts, attempt.GoesOn) ∧ attempts.flatMap brought = content

end Read

namespace Chunker

/-- Attempts after which reading goes on keep the signature in the making along with a scan of what
they bring. -/
theorem generateFrom_append {limits : Limits} {draft : Draft} {scan : Scan}
    (follows : draft.Follows scan []) (buffer : Buffer) {attempts : List Read}
    (goes_on : ∀ attempt ∈ attempts, attempt.GoesOn) :
    ∃ next filled,
      Draft.Follows next (scan.feed limits (attempts.flatMap Read.brought)) [] ∧
        ∀ later, generateFrom limits draft buffer (attempts ++ later) =
          generateFrom limits next filled later := by
  induction attempts generalizing draft scan buffer with
  | nil => exact ⟨draft, buffer, follows, fun _ => rfl⟩
  | cons attempt rest ih =>
      have rest_goes_on := fun other member => goes_on other (List.mem_cons_of_mem attempt member)
      have here := goes_on attempt List.mem_cons_self
      simp only [List.flatMap_cons, Scan.feed_append, List.cons_append]
      cases attempt with
      | bytes delivered =>
          cases delivered with
          | nil => exact absurd here.1 (Nat.lt_irrefl 0)
          | cons first more =>
              exact ih (follows.deliver limits buffer (first :: more)) _ rest_goes_on
      | interrupted => exact ih follows buffer rest_goes_on
      | failed => exact here.elim

/-- Generation goes through attempts after which reading goes on, and has then come as far as a scan
of what they bring. -/
theorem generate_append (chunker : Chunker) {attempts : List Read}
    (goes_on : ∀ attempt ∈ attempts, attempt.GoesOn) :
    ∃ next filled,
      Draft.Follows next (Scan.feed chunker.limits {} (attempts.flatMap Read.brought)) [] ∧
        ∀ later,
          chunker.generate (attempts ++ later) = generateFrom chunker.limits next filled later :=
  generateFrom_append Draft.follows_fresh .blank goes_on

/-- The signature of what attempts bring is generated when nothing comes after them. -/
theorem generate_of_goesOn (chunker : Chunker) {attempts : List Read}
    (goes_on : ∀ attempt ∈ attempts, attempt.GoesOn) :
    chunker.generate attempts = .ok (chunker.signature (attempts.flatMap Read.brought)) := by
  obtain ⟨next, filled, follows, generated⟩ := chunker.generate_append goes_on
  have ended := generated []
  rw [List.append_nil] at ended
  rw [ended, generateFrom, follows.finish_eq, signature]

/-- The signature of a byte string is generated from any reads that deliver it. -/
theorem generate_of_delivers (chunker : Chunker) {reads : List Read} {content : Bytes}
    (delivers : Read.Delivers reads content) :
    chunker.generate reads = .ok (chunker.signature content) := by
  obtain ⟨attempts, later, rfl, goes_on, rfl⟩ := delivers
  obtain ⟨next, filled, follows, generated⟩ := chunker.generate_append goes_on
  rw [generated, generateFrom, follows.finish_eq, signature]

/-- **What is generated depends on the bytes of the stream alone.** However a byte string is cut
into reads and wherever these are interrupted, up to the read that brings nothing, the result is
the signature that one pass over the string gives. Where a read fails instead, that failure is the
result, and a repository in which the signature was to be kept is left as it was. -/
theorem generate_of_delivery (chunker : Chunker) (attempts later : List Read)
    (goes_on : ∀ attempt ∈ attempts, attempt.GoesOn) :
    chunker.generate (attempts ++ .bytes [] :: later) =
        .ok (chunker.onePass (attempts.flatMap Read.brought)) ∧
      ∀ cause, chunker.generate (attempts ++ .failed cause :: later) = .error (.io cause) ∧
        ∀ (ρ : Type) [SignatureRepository ρ] (name : String) (repository : ρ),
          chunker.generateInto (attempts ++ .failed cause :: later) name repository =
            (.error (.io cause), repository) := by
  have fails (cause : IoFault) :
      chunker.generate (attempts ++ .failed cause :: later) = .error (.io cause) := by
    obtain ⟨next, filled, -, generated⟩ := chunker.generate_append goes_on
    rw [generated, generateFrom]
  refine ⟨?_, fun cause => ⟨fails cause, fun ρ _ name repository => ?_⟩⟩
  · rw [← signature_eq_onePass]
    exact chunker.generate_of_delivers ⟨attempts, later, rfl, goes_on, rfl⟩
  · rw [generateInto, fails cause]

/-- A delivery in uneven pieces, with interruptions before, between and after them. The first block
ends at the maximum, the ones after it where their content says so, and the last one with the
stream. -/
theorem generate_of_delivery_of_interrupted :
    ∃ (chunker : Chunker) (attempts : List Read), chunker.limits = ⟨2, 2, 3⟩ ∧
      attempts = [.interrupted, .bytes [1, 2, 3, 4], .interrupted, .interrupted, .bytes [5],
        .bytes [6, 7, 8, 9, 10], .interrupted] ∧
      (∀ attempt ∈ attempts, attempt.GoesOn) ∧
      chunker.generate (attempts ++ [.bytes []]) =
        .ok (chunker.onePass [1, 2, 3, 4, 5, 6, 7, 8, 9, 10]) ∧
      (chunker.onePass [1, 2, 3, 4, 5, 6, 7, 8, 9, 10]).blocks.map Block.length =
        [3, 2, 2, 2, 1] ∧
      chunker.generateInto (attempts ++ [.failed (.reported .brokenPipe "peer went away")]) "name"
        (⟨.empty⟩ : MemoryRepository) =
          (.error (.io (.reported .brokenPipe "peer went away")), ⟨.empty⟩) := by
  let chunker : Chunker := ⟨⟨2, 2, 3⟩, rfl⟩
  let attempts : List Read := [.interrupted, .bytes [1, 2, 3, 4], .interrupted, .interrupted,
    .bytes [5], .bytes [6, 7, 8, 9, 10], .interrupted]
  have goes_on : ∀ attempt ∈ attempts, attempt.GoesOn := by decide
  obtain ⟨generated, failing⟩ := generate_of_delivery chunker attempts [] goes_on
  refine ⟨chunker, attempts, rfl, rfl, goes_on, generated, ?_,
    (failing _).2 MemoryRepository "name" ⟨.empty⟩⟩
  rw [← signature_eq_onePass]
  decide

end Chunker

end ReplicaSync
