import ReplicaSync.Signature.Encoding

/-!
# Reading payloads

A payload is read field by field, and every field has a fixed width. So a block is taken off a byte
string exactly if that begins with the fields of the block, and the same goes for many blocks and
for whole signatures (`Signature.ofPayload?_eq_some_iff`): what comes after a payload does not
matter. The only way in which reading fails is that there are fewer bytes than the number of blocks
in front calls for (`Signature.ofPayload?_eq_none_iff`).
-/

set_option autoImplicit false

namespace ReplicaSync

/-! ## Blocks -/

namespace Block

theorem length_encode (block : Block) : block.encode.length = 44 := by
  rw [encode, List.length_append, List.length_append, Bytes.length_littleEndian,
    Bytes.length_littleEndian, block.checksum.length_eq]

theorem length_flatMap_encode (blocks : List Block) :
    (blocks.flatMap encode).length = 44 * blocks.length := by
  induction blocks with
  | nil => rfl
  | cons block rest ih =>
      rw [List.flatMap_cons, List.length_append, length_encode, ih, List.length_cons]
      omega

/-- A block in front is read back. -/
theorem decode?_encode (block : Block) (rest : Bytes) :
    decode? (block.encode ++ rest) = some (block, rest) := by
  have offset := Bytes.takeNumber?_littleEndian 8 block.offset.toNat block.offset.toNat_lt
    (Bytes.littleEndian 4 block.length.toNat ++ (block.checksum.bytes ++ rest))
  have length := Bytes.takeNumber?_littleEndian 4 block.length.toNat block.length.toNat_lt
    (block.checksum.bytes ++ rest)
  have checksum : Bytes.takeField? 32 (block.checksum.bytes ++ rest) =
      some (block.checksum.bytes, rest) :=
    Bytes.takeField?_eq_some_iff.mpr ⟨block.checksum.length_eq, rfl⟩
  simp only [decode?, encode, List.append_assoc, offset, length, checksum, Option.bind_eq_bind,
    Option.bind_some, Digest.ofBytes?_bytes, UInt64.ofNat_toNat, UInt32.ofNat_toNat]
  rfl

/-- A block is read off exactly a byte string that begins with its fields. -/
theorem decode?_eq_some_iff {bytes rest : Bytes} {block : Block} :
    decode? bytes = some (block, rest) ↔ bytes = block.encode ++ rest := by
  constructor
  · intro read
    simp only [decode?, Option.bind_eq_bind, Option.bind_eq_some_iff] at read
    obtain ⟨⟨offset, _⟩, offset_read, ⟨length, _⟩, length_read, ⟨field, _⟩, field_read,
      checksum, checksum_read, made⟩ := read
    obtain ⟨offset_fits, rfl⟩ := Bytes.takeNumber?_eq_some_iff.mp offset_read
    obtain ⟨length_fits, rfl⟩ := Bytes.takeNumber?_eq_some_iff.mp length_read
    obtain ⟨whole, rfl⟩ := Bytes.takeField?_eq_some_iff.mp field_read
    rw [Digest.ofBytes?, dif_pos whole] at checksum_read
    cases checksum_read
    cases made
    rw [encode, UInt64.toNat_ofNat_of_lt' offset_fits, UInt32.toNat_ofNat_of_lt' length_fits,
      List.append_assoc, List.append_assoc]
  · rintro rfl
    exact block.decode?_encode rest

/-- A block is read off any byte string that is as long as one. -/
theorem exists_decode? {bytes : Bytes} (enough : 44 ≤ bytes.length) :
    ∃ block rest, decode? bytes = some (block, rest) := by
  obtain ⟨offset, behind_offset, offset_read⟩ :=
    Bytes.exists_takeNumber? (show 8 ≤ bytes.length by omega)
  have offset_length := Bytes.length_of_takeNumber? offset_read
  obtain ⟨length, behind_length, length_read⟩ :=
    Bytes.exists_takeNumber? (show 4 ≤ behind_offset.length by omega)
  have length_length := Bytes.length_of_takeNumber? length_read
  obtain ⟨field, rest, field_read⟩ :=
    Bytes.exists_takeField? (show 32 ≤ behind_length.length by omega)
  have whole : field.length = 32 := (Bytes.takeField?_eq_some_iff.mp field_read).1
  refine ⟨⟨.ofNat offset, .ofNat length, ⟨field, whole⟩⟩, rest, ?_⟩
  simp only [decode?, offset_read, length_read, field_read, Digest.ofBytes?, dif_pos whole,
    Option.bind_eq_bind, Option.bind_some]
  rfl

/-- So many blocks are read off exactly a byte string that begins with the fields of so many
blocks. They come after those that were taken before. -/
theorem decodeMany?_eq_some_iff {count : Nat} {taken blocks : List Block} {bytes rest : Bytes} :
    decodeMany? count taken bytes = some (blocks, rest) ↔
      ∃ more, more.length = count ∧ blocks = taken.reverse ++ more ∧
        bytes = more.flatMap encode ++ rest := by
  induction count generalizing taken bytes with
  | zero =>
      rw [decodeMany?, Option.some.injEq, Prod.mk.injEq]
      constructor
      · rintro ⟨rfl, rfl⟩
        exact ⟨[], rfl, (List.append_nil _).symm, rfl⟩
      · rintro ⟨more, none, rfl, rfl⟩
        rw [List.eq_nil_of_length_eq_zero none, List.append_nil]
        exact ⟨rfl, rfl⟩
  | succ count ih =>
      rw [decodeMany?]
      constructor
      · intro read
        split at read
        · cases read
        · next block behind first =>
          obtain ⟨more, counted, rfl, rfl⟩ := ih.mp read
          refine ⟨block :: more, congrArg Nat.succ counted, ?_, ?_⟩
          · rw [List.reverse_cons, List.append_assoc, List.singleton_append]
          · rw [List.flatMap_cons, List.append_assoc]
            exact decode?_eq_some_iff.mp first
      · rintro ⟨more, counted, rfl, rfl⟩
        obtain ⟨block, later, rfl⟩ := List.exists_cons_of_length_eq_add_one counted
        rw [List.flatMap_cons, List.append_assoc, decode?_encode]
        refine ih.mpr ⟨later, Nat.succ.inj counted, ?_, rfl⟩
        rw [List.reverse_cons, List.append_assoc, List.singleton_append]

/-- So many blocks are read off any byte string that is as long as they are. -/
theorem exists_decodeMany? {count : Nat} (taken : List Block) {bytes : Bytes}
    (enough : 44 * count ≤ bytes.length) :
    ∃ blocks rest, decodeMany? count taken bytes = some (blocks, rest) ∧
      44 * count + rest.length = bytes.length := by
  induction count generalizing taken bytes with
  | zero => exact ⟨taken.reverse, bytes, rfl, by omega⟩
  | succ count ih =>
      obtain ⟨block, behind, first⟩ := exists_decode? (show 44 ≤ bytes.length by omega)
      have counted := congrArg List.length (decode?_eq_some_iff.mp first)
      rw [List.length_append, length_encode] at counted
      obtain ⟨blocks, rest, read, remaining⟩ :=
        ih (block :: taken) (show 44 * count ≤ behind.length by omega)
      refine ⟨blocks, rest, ?_, by omega⟩
      rw [decodeMany?, first]
      exact read

end Block

/-! ## Signatures -/

namespace Signature

/-- The payload of a signature takes 44 bytes for every block and 16 more. -/
theorem length_payload (signature : Signature) :
    signature.payload.length = 44 * signature.blocks.length + 16 := by
  rw [payload, List.length_append, List.length_append, Bytes.length_littleEndian,
    Bytes.length_littleEndian, Block.length_flatMap_encode]
  omega

/-- **A signature is read off exactly a byte string that begins with its payload.** -/
theorem ofPayload?_eq_some_iff {bytes : Bytes} {signature : Signature} :
    ofPayload? bytes = some signature ↔
      signature.blocks.length < UInt64.size ∧
        ∃ trailing, bytes = signature.payload ++ trailing := by
  constructor
  · intro read
    simp only [ofPayload?, Option.bind_eq_bind, Option.bind_eq_some_iff] at read
    obtain ⟨⟨count, _⟩, count_read, ⟨blocks, _⟩, blocks_read, ⟨length, trailing⟩, length_read,
      made⟩ := read
    obtain ⟨count_fits, rfl⟩ := Bytes.takeNumber?_eq_some_iff.mp count_read
    obtain ⟨more, rfl, rfl, rfl⟩ := Block.decodeMany?_eq_some_iff.mp blocks_read
    obtain ⟨length_fits, rfl⟩ := Bytes.takeNumber?_eq_some_iff.mp length_read
    cases made
    refine ⟨count_fits, trailing, ?_⟩
    rw [payload, UInt64.toNat_ofNat_of_lt' length_fits, List.append_assoc, List.append_assoc]
  · rintro ⟨few, trailing, rfl⟩
    have count_read := Bytes.takeNumber?_littleEndian 8 signature.blocks.length few
      (signature.blocks.flatMap Block.encode ++
        (Bytes.littleEndian 8 signature.length.toNat ++ trailing))
    have blocks_read : Block.decodeMany? signature.blocks.length []
        (signature.blocks.flatMap Block.encode ++
          (Bytes.littleEndian 8 signature.length.toNat ++ trailing)) =
        some (signature.blocks, Bytes.littleEndian 8 signature.length.toNat ++ trailing) :=
      Block.decodeMany?_eq_some_iff.mpr ⟨signature.blocks, rfl, rfl, rfl⟩
    have length_read := Bytes.takeNumber?_littleEndian 8 signature.length.toNat
      signature.length.toNat_lt trailing
    simp only [ofPayload?, payload, List.append_assoc, count_read, blocks_read, length_read,
      Option.bind_eq_bind, Option.bind_some, UInt64.ofNat_toNat]
    rfl

/-- **No signature is read exactly where there are fewer bytes than the number of blocks in front
calls for.** -/
theorem ofPayload?_eq_none_iff {bytes : Bytes} :
    ofPayload? bytes = none ↔
      bytes.length < 44 * Bytes.ofLittleEndian (bytes.take 8) + 16 := by
  constructor
  · intro failed
    refine Nat.not_le.mp fun enough => ?_
    obtain ⟨count, behind_count, count_read⟩ :=
      Bytes.exists_takeNumber? (show 8 ≤ bytes.length by omega)
    have count_length := Bytes.length_of_takeNumber? count_read
    obtain ⟨count_fits, rfl⟩ := Bytes.takeNumber?_eq_some_iff.mp count_read
    have count_eq : Bytes.ofLittleEndian ((Bytes.littleEndian 8 count ++ behind_count).take 8) =
        count := by
      rw [List.take_left' (Bytes.length_littleEndian 8 count),
        Bytes.ofLittleEndian_littleEndian 8 count count_fits]
    rw [count_eq] at enough
    obtain ⟨blocks, behind_blocks, blocks_read, blocks_length⟩ :=
      Block.exists_decodeMany? [] (show 44 * count ≤ behind_count.length by omega)
    obtain ⟨length, trailing, length_read⟩ :=
      Bytes.exists_takeNumber? (show 8 ≤ behind_blocks.length by omega)
    simp [ofPayload?, count_read, blocks_read, length_read] at failed
  · intro short
    rw [Option.eq_none_iff_forall_not_mem]
    intro signature read
    obtain ⟨few, trailing, rfl⟩ := ofPayload?_eq_some_iff.mp read
    rw [payload, List.append_assoc, List.append_assoc,
      List.take_left' (Bytes.length_littleEndian 8 _),
      Bytes.ofLittleEndian_littleEndian 8 _ few, ← List.append_assoc, ← List.append_assoc,
      ← payload, List.length_append, length_payload] at short
    omega

end Signature

end ReplicaSync
