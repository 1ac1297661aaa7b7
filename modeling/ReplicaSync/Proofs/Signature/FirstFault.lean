import ReplicaSync.Proofs.Signature.Tiling

/-!
# The first fault of a signature

In unbounded arithmetic, blocks are in order if each of them has bytes and begins where the lengths
of those before it lead (`Signature.InOrder`). The check follows the blocks with words instead. As
long as there are fewer blocks than 32 bits can count, both come to the same: a signature passes
exactly if its blocks are in order and lead to its length, and otherwise the check reports the first
block out of order, or the length if there is none (`Signature.FirstFault`). The end of a block is
computed only when the block and all before it are in order, so it never runs over the words.
-/

set_option autoImplicit false

namespace ReplicaSync

namespace Signature

/-! ## Blocks in order -/

/-- The number of bytes in some blocks. -/
def extent (blocks : List Block) : Nat :=
  (blocks.map fun block => block.length.toNat).sum

/-- Every block has bytes and begins where those before it end. -/
def InOrder (blocks : List Block) : Prop :=
  ∀ (before : List Block) (block : Block) (after : List Block),
    blocks = before ++ block :: after → 0 < block.length.toNat ∧ block.offset.toNat = extent before

/-- A tiling is in order behind its beginning, and its lengths lead to its end. -/
theorem tiles_iff {stop start : Nat} {blocks : List Block} :
    Tiles stop start blocks ↔
      (∀ (before : List Block) (block : Block) (after : List Block),
        blocks = before ++ block :: after →
          0 < block.length.toNat ∧ block.offset.toNat = start + extent before) ∧
        start + extent blocks = stop := by
  constructor
  · intro tiles
    refine ⟨?_, tiles.sum_length⟩
    rintro before block after rfl
    obtain ⟨placed, positive, -⟩ := tiles.of_append
    exact ⟨positive, placed⟩
  · rintro ⟨ordered, ends⟩
    induction blocks generalizing start with
    | nil => exact ends
    | cons first rest ih =>
        obtain ⟨positive, placed⟩ := ordered [] first rest rfl
        refine ⟨placed, positive, ih (fun before block after split => ?_) ?_⟩
        · obtain ⟨some_bytes, here⟩ := ordered (first :: before) block after (by rw [split]; rfl)
          refine ⟨some_bytes, here.trans ?_⟩
          simp only [extent, List.map_cons, List.sum_cons]
          omega
        · rw [← ends]
          simp only [extent, List.map_cons, List.sum_cons]
          omega

/-- Blocks in order are a tiling from the beginning of a stream. -/
theorem tiles_iff_inOrder {stop : Nat} {blocks : List Block} :
    Tiles stop 0 blocks ↔ InOrder blocks ∧ extent blocks = stop := by
  rw [tiles_iff]
  simp only [Nat.zero_add]
  rfl

/-! ## Following the blocks -/

/-- The check goes on with further blocks where it has come with the first ones. -/
theorem checkBlocks_append {index : Nat} {expected reached : UInt64} {blocks : List Block}
    (passed : checkBlocks index expected blocks = .ok reached) (more : List Block) :
    checkBlocks index expected (blocks ++ more) =
      checkBlocks (index + blocks.length) reached more := by
  induction blocks generalizing index expected with
  | nil =>
      cases passed
      rfl
  | cons block rest ih =>
      rw [checkBlocks] at passed
      rw [List.cons_append, checkBlocks, List.length_cons]
      split at passed
      · cases passed
      · next some_bytes =>
        split at passed
        · cases passed
        · next placed =>
          rw [if_neg some_bytes, if_neg placed, ih passed]
          congr 1
          omega

/-- What is wrong with a block where the check has come to an index and a place. -/
inductive Amiss (index : Nat) (reached : UInt64) (block : Block) : InputFault → Prop
  | empty (nothing : block.length = 0) : Amiss index reached block (.emptyBlock index block.offset)
  | misplaced (something : block.length ≠ 0) (elsewhere : block.offset ≠ reached) :
      Amiss index reached block (.misplacedBlock index block.offset reached)

/-- The check reports the first block at which something is wrong. -/
theorem checkBlocks_eq_error_iff {index : Nat} {expected : UInt64} {blocks : List Block}
    {fault : InputFault} :
    checkBlocks index expected blocks = .error fault ↔
      ∃ before block after reached, blocks = before ++ block :: after ∧
        checkBlocks index expected before = .ok reached ∧
          Amiss (index + before.length) reached block fault := by
  constructor
  · intro refused
    induction blocks generalizing index expected with
    | nil => cases refused
    | cons block rest ih =>
        rw [checkBlocks] at refused
        split at refused
        · next nothing =>
          cases refused
          exact ⟨[], block, rest, expected, rfl, rfl, .empty nothing⟩
        · next something =>
          split at refused
          · next elsewhere =>
            cases refused
            exact ⟨[], block, rest, expected, rfl, rfl, .misplaced something elsewhere⟩
          · next placed =>
            obtain ⟨before, other, after, reached, rfl, passed, amiss⟩ := ih refused
            refine ⟨block :: before, other, after, reached, rfl, ?_, ?_⟩
            · rw [checkBlocks, if_neg something, if_neg placed, passed]
            · rw [List.length_cons, Nat.add_comm before.length, ← Nat.add_assoc]
              exact amiss
  · rintro ⟨before, block, after, reached, rfl, passed, amiss⟩
    rw [checkBlocks_append passed, checkBlocks]
    cases amiss with
    | empty nothing => exact if_pos nothing
    | misplaced something elsewhere => rw [if_neg something, if_pos elsewhere]

/-- The first of few blocks are few. -/
theorem few_of_append {blocks more : List Block} (few : (blocks ++ more).length < UInt32.size) :
    blocks.length < UInt32.size := by
  rw [List.length_append] at few
  omega

section Few

variable {blocks : List Block} (few : blocks.length < UInt32.size)
include few

/-- The check follows blocks to a place exactly if they are in order and lead there. -/
theorem checkBlocks_eq_ok_iff {reached : UInt64} :
    checkBlocks 0 0 blocks = .ok reached ↔ InOrder blocks ∧ extent blocks = reached.toNat := by
  rw [← tiles_iff_inOrder]
  constructor
  · intro passed
    exact tiles_of_few (few_of_length_lt few) passed
  · intro tiles
    exact checkBlocks_of_tiles rfl tiles

/-- Few blocks have fewer bytes than a word can count. -/
theorem extent_lt : extent blocks < UInt64.size := by
  have short : extent blocks ≤ blocks.length * (UInt32.size - 1) := by
    -- the induction is over any number of blocks
    clear few
    rw [extent]
    induction blocks with
    | nil => exact Nat.zero_le _
    | cons block rest ih =>
        have bounded : block.length.toNat < UInt32.size := block.length.toNat_lt
        rw [List.map_cons, List.sum_cons, List.length_cons, Nat.succ_mul]
        omega
  simp only [UInt32.size, UInt64.size] at few short ⊢
  omega

/-- The check follows blocks in order to their end. -/
theorem exists_checkBlocks (ordered : InOrder blocks) :
    ∃ reached, checkBlocks 0 0 blocks = .ok reached ∧ reached.toNat = extent blocks := by
  have same : (UInt64.ofNat (extent blocks)).toNat = extent blocks :=
    UInt64.toNat_ofNat_of_lt (extent_lt few)
  exact ⟨_, (checkBlocks_eq_ok_iff few).mpr ⟨ordered, same.symm⟩, same⟩

end Few

/-! ## The check -/

/-- What is wrong first with a signature: with the first of its blocks that is out of order, where
a block without bytes counts as that wherever it stands, and with its length only if none is. -/
inductive FirstFault (signature : Signature) : InputFault → Prop
  | empty {before after : List Block} {block : Block}
      (split : signature.blocks = before ++ block :: after) (ordered : InOrder before)
      (nothing : block.length.toNat = 0) :
      FirstFault signature (.emptyBlock before.length block.offset)
  | misplaced {before after : List Block} {block : Block} {expected : UInt64}
      (split : signature.blocks = before ++ block :: after) (ordered : InOrder before)
      (something : 0 < block.length.toNat) (elsewhere : block.offset.toNat ≠ extent before)
      (expected_eq : expected.toNat = extent before) :
      FirstFault signature (.misplacedBlock before.length block.offset expected)
  | uncovered {covered : UInt64} (ordered : InOrder signature.blocks)
      (covered_eq : covered.toNat = extent signature.blocks)
      (differs : extent signature.blocks ≠ signature.length.toNat) :
      FirstFault signature (.uncovered covered signature.length)

section Few

variable {signature : Signature} (few : signature.blocks.length < UInt32.size)
include few

/-- A signature passes its check exactly if its blocks are in order and lead to its length. -/
theorem check_eq_ok_iff :
    signature.check = .ok () ↔
      InOrder signature.blocks ∧ extent signature.blocks = signature.length.toNat := by
  rw [← checkBlocks_eq_ok_iff few]
  constructor
  · exact checkBlocks_of_check
  · intro followed
    rw [check, followed]
    exact if_pos rfl

/-- What the check reports is wrong first. -/
theorem firstFault_of_check {fault : InputFault} (refused : signature.check = .error fault) :
    FirstFault signature fault := by
  rw [check] at refused
  split at refused
  · next found =>
    cases refused
    obtain ⟨before, block, after, reached, split, passed, amiss⟩ :=
      checkBlocks_eq_error_iff.mp found
    obtain ⟨ordered, ends⟩ := (checkBlocks_eq_ok_iff (few_of_append (split ▸ few))).mp passed
    rw [Nat.zero_add] at amiss
    cases amiss with
    | empty nothing => exact .empty split ordered (congrArg UInt32.toNat nothing)
    | misplaced something elsewhere =>
        refine .misplaced split ordered ?_ ?_ ends.symm
        · exact Nat.pos_of_ne_zero fun none => something (UInt32.toNat_inj.mp none)
        · exact fun same => elsewhere (UInt64.toNat_inj.mp (same.trans ends))
  · next covered followed =>
    split at refused
    · cases refused
    · next differs =>
      cases refused
      obtain ⟨ordered, ends⟩ := (checkBlocks_eq_ok_iff few).mp followed
      refine .uncovered ordered ends.symm fun same => differs ?_
      exact UInt64.toNat_inj.mp (ends.symm.trans same)

/-- The check comes to the first block at which something is wrong, and reports that. -/
theorem check_of_amiss {before after : List Block} {block : Block} {reached : UInt64}
    {fault : InputFault} (split : signature.blocks = before ++ block :: after)
    (ordered : InOrder before) (ends : reached.toNat = extent before)
    (amiss : Amiss before.length reached block fault) : signature.check = .error fault := by
  have passed := (checkBlocks_eq_ok_iff (few_of_append (split ▸ few))).mpr ⟨ordered, ends.symm⟩
  have found : checkBlocks 0 0 signature.blocks = .error fault :=
    checkBlocks_eq_error_iff.mpr ⟨before, block, after, reached, split, passed,
      (Nat.zero_add before.length).symm ▸ amiss⟩
  rw [check, found]

/-- What is wrong first is what the check reports. -/
theorem check_of_firstFault {fault : InputFault} (first : FirstFault signature fault) :
    signature.check = .error fault := by
  cases first with
  | empty split ordered nothing =>
      -- the offset of an empty block does not matter, so the place comes from the blocks before it
      obtain ⟨reached, -, ends⟩ := exists_checkBlocks (few_of_append (split ▸ few)) ordered
      exact check_of_amiss few split ordered ends (.empty (UInt32.toNat_inj.mp nothing))
  | misplaced split ordered something elsewhere expected_eq =>
      refine check_of_amiss few split ordered expected_eq (.misplaced ?_ ?_)
      · rintro nothing
        simp [nothing] at something
      · rintro rfl
        exact elsewhere expected_eq
  | uncovered ordered covered_eq differs =>
      have followed := (checkBlocks_eq_ok_iff few).mpr ⟨ordered, covered_eq.symm⟩
      rw [check, followed]
      refine if_neg fun same => differs ?_
      rw [← same, covered_eq]

/-- The check refuses a signature for what is wrong with it first. -/
theorem check_eq_error_iff {fault : InputFault} :
    signature.check = .error fault ↔ FirstFault signature fault :=
  ⟨firstFault_of_check few, check_of_firstFault few⟩

/-- Where the check gets past a block, it has come to the end of the block, and that is no place
beyond the words. -/
theorem stop_of_inOrder {before after : List Block} {block : Block}
    (split : signature.blocks = before ++ block :: after) (ordered : InOrder (before ++ [block])) :
    block.offset.toNat + block.length.toNat < UInt64.size ∧
      checkBlocks 0 0 (before ++ [block]) = .ok block.stop := by
  have fewer : (before ++ [block]).length < UInt32.size := by
    rw [split, List.append_cons] at few
    exact few_of_append few
  obtain ⟨reached, passed, ends⟩ := exists_checkBlocks fewer ordered
  have placed := (ordered before block [] rfl).2
  have whole : extent (before ++ [block]) = block.offset.toNat + block.length.toNat := by
    rw [placed]
    simp [extent]
  have fits : block.offset.toNat + block.length.toNat < UInt64.size := whole ▸ extent_lt fewer
  refine ⟨fits, ?_⟩
  rw [passed]
  refine congrArg Except.ok (UInt64.toNat_inj.mp ?_)
  rw [ends, whole, block.toNat_stop fits]

end Few

theorem ofBlocks_eq_ok_iff {signature built : Signature} :
    ofBlocks signature.blocks signature.length = .ok built ↔
      signature.check = .ok () ∧ built = signature := by
  rw [ofBlocks]
  cases signature.check with
  | error cause => simp
  | ok passed =>
      simp only [Except.ok.injEq, true_and]
      exact eq_comm

theorem ofBlocks_eq_error_iff {signature : Signature} {fault : Fault} :
    ofBlocks signature.blocks signature.length = .error fault ↔
      ∃ cause, signature.check = .error cause ∧ fault = .input cause := by
  rw [ofBlocks]
  cases signature.check <;> simp [eq_comm]

/-- **The check accepts exactly the tilings and reports the first fault**, and so does building a
signature from its blocks. It never computes the end of a block that lies beyond the words, when
there are fewer blocks than 32 bits can count. -/
theorem check_reports_first_fault (signature : Signature)
    (few : signature.blocks.length < UInt32.size) :
    (signature.check = .ok () ↔
      InOrder signature.blocks ∧ extent signature.blocks = signature.length.toNat) ∧
    (∀ fault, signature.check = .error fault ↔ FirstFault signature fault) ∧
    (∀ built, ofBlocks signature.blocks signature.length = .ok built ↔
      (InOrder signature.blocks ∧ extent signature.blocks = signature.length.toNat) ∧
        built = signature) ∧
    (∀ fault, ofBlocks signature.blocks signature.length = .error fault ↔
      ∃ cause, FirstFault signature cause ∧ fault = .input cause) ∧
    ∀ (before : List Block) (block : Block) (after : List Block),
      signature.blocks = before ++ block :: after → InOrder (before ++ [block]) →
        block.offset.toNat + block.length.toNat < UInt64.size ∧
          checkBlocks 0 0 (before ++ [block]) = .ok block.stop := by
  refine ⟨check_eq_ok_iff few, fun _ => check_eq_error_iff few, fun _ => ?_, fun _ => ?_,
    fun _ _ _ => stop_of_inOrder few⟩
  · rw [ofBlocks_eq_ok_iff, check_eq_ok_iff few]
  · rw [ofBlocks_eq_error_iff]
    simp only [check_eq_error_iff few]

/-- A block that is empty and out of place counts as empty, and what is wrong behind it does not
matter. A block out of place is reported before the empty block behind it, with the place where it
should be. Where all is in order the length is looked at. -/
theorem check_reports_first_fault_of_several :
    let digest : Digest := ⟨.replicate 32 0, rfl⟩
    let emptied : Signature := ⟨[⟨0, 4, digest⟩, ⟨9, 0, digest⟩, ⟨5, 6, digest⟩], 11⟩
    let moved : Signature :=
      ⟨[⟨0, 4, digest⟩, ⟨18446744073709551615, 6, digest⟩, ⟨4, 0, digest⟩], 9⟩
    let whole : Signature := ⟨[⟨0, 4, digest⟩, ⟨4, 4294967295, digest⟩], 4294967299⟩
    let longer : Signature := ⟨whole.blocks, 4294967300⟩
    FirstFault emptied (.emptyBlock 1 9) ∧
      FirstFault moved (.misplacedBlock 1 18446744073709551615 4) ∧
      FirstFault longer (.uncovered 4294967299 4294967300) ∧
      InOrder whole.blocks ∧ extent whole.blocks = whole.length.toNat ∧
      checkBlocks 0 0 whole.blocks = .ok (Block.stop ⟨4, 4294967295, digest⟩) := by
  intro digest emptied moved whole longer
  obtain ⟨-, faults, -⟩ := check_reports_first_fault emptied (by decide)
  obtain ⟨-, moved_faults, -⟩ := check_reports_first_fault moved (by decide)
  obtain ⟨-, longer_faults, -⟩ := check_reports_first_fault longer (by decide)
  obtain ⟨accepted, -, -, -, stops⟩ := check_reports_first_fault whole (by decide)
  obtain ⟨ordered, leads⟩ := accepted.mp (by decide)
  exact ⟨(faults _).mp (by decide), (moved_faults _).mp (by decide),
    (longer_faults _).mp (by decide), ordered, leads,
    (stops [⟨0, 4, digest⟩] ⟨4, 4294967295, digest⟩ [] rfl ordered).2⟩

end Signature

end ReplicaSync
