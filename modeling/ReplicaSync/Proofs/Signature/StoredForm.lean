import ReplicaSync.Proofs.Signature.Payload
import ReplicaSync.Proofs.Signature.Tiling

/-!
# Stored forms

Decoding accepts a byte string exactly if that is a stored form of a signature: it has a header, the
rest can be decompressed to as many bytes as the header says, these begin with the payload of the
signature, and the signature tiles its stream (`Signature.StoredForm`). Everything else is refused
for one reason, the first that applies (`Signature.Refused`), so the two relations say all there is
to say about decoding (`Signature.decode_format`).

A stored form is short enough that the check never computes beyond the words, even where it ends up
refusing the signature.
-/

set_option autoImplicit false

namespace ReplicaSync.Signature

variable {compression : Compression} {bytes : Bytes}

/-! ## What is stored -/

/-- A byte string has a header and holds a payload that is as long as the header says. -/
structure Holds (compression : Compression) (bytes payload : Bytes) : Prop where
  room : 8 ≤ bytes.length
  marked : bytes.take 4 = magic
  readable : compression.decompress (bytes.drop 8) = .ok payload
  length_eq : payload.length = Bytes.ofLittleEndian ((bytes.drop 4).take 4)

/-- A byte string is a stored form of a signature. -/
def StoredForm (compression : Compression) (bytes : Bytes) (signature : Signature) : Prop :=
  ∃ payload, Holds compression bytes payload ∧ signature.payload <+: payload ∧
    signature.check = .ok ()

/-- Why a byte string is no stored form of any signature. -/
inductive Refused (compression : Compression) (bytes : Bytes) : Fault → Prop where
  /-- There is no room for the header. -/
  | tooShort (short : bytes.length < 8) : Refused compression bytes (.encoding .tooShort)
  /-- The header does not begin as it should. -/
  | wrongMagic (room : 8 ≤ bytes.length) (unmarked : bytes.take 4 ≠ magic) :
      Refused compression bytes (.encoding .wrongMagic)
  /-- What comes after the header is not compressed. -/
  | unreadable {cause : IoFault} (room : 8 ≤ bytes.length) (marked : bytes.take 4 = magic)
      (unreadable : compression.decompress (bytes.drop 8) = .error cause) :
      Refused compression bytes (.io cause)
  /-- The payload is longer or shorter than the header says. -/
  | payloadLength {payload : Bytes} {declared : Nat} (room : 8 ≤ bytes.length)
      (marked : bytes.take 4 = magic)
      (readable : compression.decompress (bytes.drop 8) = .ok payload)
      (declares : Bytes.ofLittleEndian ((bytes.drop 4).take 4) = declared)
      (differs : payload.length ≠ declared) :
      Refused compression bytes (.encoding (.payloadLength payload.length declared))
  /-- The payload ends before the blocks that it counts, and the length behind them. -/
  | truncated {payload : Bytes} (holds : Holds compression bytes payload)
      (short : payload.length < 44 * Bytes.ofLittleEndian (payload.take 8) + 16) :
      Refused compression bytes (.encoding .truncated)
  /-- The signature does not tile its stream. -/
  | untiled {payload : Bytes} {signature : Signature} {cause : InputFault}
      (holds : Holds compression bytes payload) (begins : signature.payload <+: payload)
      (refused : signature.check = .error cause) : Refused compression bytes (.input cause)

/-- Where there is room for the header, decoding goes on behind the first check. -/
theorem not_short_of_room (room : 8 ≤ bytes.length) : ¬ (bytes.take 8).length < 8 := by
  rw [List.length_take]
  omega

namespace Holds

variable {payload : Bytes} (holds : Holds compression bytes payload)
include holds

/-- The header has room for lengths of 32 bits. -/
theorem length_lt : payload.length < UInt32.size := by
  have room := holds.room
  have digits : ((bytes.drop 4).take 4).length = 4 := by
    rw [List.length_take, List.length_drop]
    omega
  have bound := Bytes.ofLittleEndian_lt ((bytes.drop 4).take 4)
  rw [digits] at bound
  rw [holds.length_eq]
  exact bound

/-- A signature that a payload begins with has fewer blocks than 32 bits can count. -/
theorem length_blocks_lt {signature : Signature} (begins : signature.payload <+: payload) :
    signature.blocks.length < UInt32.size := by
  have short := begins.length_le
  have bound := holds.length_lt
  rw [length_payload] at short
  omega

/-- The signature that a payload begins with is read. -/
theorem ofPayload?_eq {signature : Signature} (begins : signature.payload <+: payload) :
    ofPayload? payload = some signature := by
  have few := holds.length_blocks_lt begins
  obtain ⟨trailing, rfl⟩ := begins
  exact ofPayload?_eq_some_iff.mpr
    ⟨by simp only [UInt32.size, UInt64.size] at few ⊢; omega, trailing, rfl⟩

/-- Decoding comes to the payload. -/
theorem decode_eq :
    decode compression bytes = ofDeclaredPayload payload.length payload := by
  rw [decode, if_neg (not_short_of_room holds.room), if_neg (not_not_intro holds.marked),
    holds.readable, ← holds.length_eq]

end Holds

/-! ## Decoding -/

/-- A stored form is decoded. -/
theorem decode_of_storedForm {signature : Signature}
    (stored : StoredForm compression bytes signature) :
    decode compression bytes = .ok signature := by
  obtain ⟨payload, holds, begins, accepted⟩ := stored
  rw [holds.decode_eq, ofDeclaredPayload, if_neg (not_not_intro rfl), holds.ofPayload?_eq begins]
  simp only [accepted]

/-- A byte string that is refused is not decoded, for that reason. -/
theorem decode_of_refused {fault : Fault} (refused : Refused compression bytes fault) :
    decode compression bytes = .error fault := by
  cases refused with
  | tooShort short =>
      rw [decode, if_pos (by rw [List.length_take]; omega)]
  | wrongMagic room unmarked =>
      rw [decode, if_neg (not_short_of_room room), if_pos unmarked]
  | unreadable room marked unreadable =>
      rw [decode, if_neg (not_short_of_room room), if_neg (not_not_intro marked), unreadable]
  | payloadLength room marked readable declares differs =>
      rw [decode, if_neg (not_short_of_room room), if_neg (not_not_intro marked), readable]
      simp only [declares]
      rw [ofDeclaredPayload, if_pos differs]
  | truncated holds short =>
      rw [holds.decode_eq, ofDeclaredPayload, if_neg (not_not_intro rfl),
        ofPayload?_eq_none_iff.mpr short]
  | untiled holds begins refused =>
      rw [holds.decode_eq, ofDeclaredPayload, if_neg (not_not_intro rfl),
        holds.ofPayload?_eq begins]
      simp only [refused]

/-- **Every byte string is a stored form or refused.** -/
theorem storedForm_or_refused (compression : Compression) (bytes : Bytes) :
    (∃ signature, StoredForm compression bytes signature) ∨
      ∃ fault, Refused compression bytes fault := by
  rcases Nat.lt_or_ge bytes.length 8 with short | room
  · exact .inr ⟨_, .tooShort short⟩
  by_cases marked : bytes.take 4 = magic
  · cases readable : compression.decompress (bytes.drop 8) with
    | error cause => exact .inr ⟨_, .unreadable room marked readable⟩
    | ok payload =>
        by_cases length_eq : payload.length = Bytes.ofLittleEndian ((bytes.drop 4).take 4)
        · have holds : Holds compression bytes payload := ⟨room, marked, readable, length_eq⟩
          cases read : ofPayload? payload with
          | none => exact .inr ⟨_, .truncated holds (ofPayload?_eq_none_iff.mp read)⟩
          | some signature =>
              obtain ⟨_, trailing, whole⟩ := ofPayload?_eq_some_iff.mp read
              have begins : signature.payload <+: payload := ⟨trailing, whole.symm⟩
              cases accepted : signature.check with
              | error cause => exact .inr ⟨_, .untiled holds begins accepted⟩
              | ok => exact .inl ⟨signature, payload, holds, begins, accepted⟩
        · exact .inr ⟨_, .payloadLength room marked readable rfl length_eq⟩
  · exact .inr ⟨_, .wrongMagic room marked⟩

theorem decode_eq_ok_iff {signature : Signature} :
    decode compression bytes = .ok signature ↔ StoredForm compression bytes signature := by
  refine ⟨fun decoded => ?_, decode_of_storedForm⟩
  rcases storedForm_or_refused compression bytes with ⟨other, stored⟩ | ⟨fault, refused⟩
  · rw [decode_of_storedForm stored] at decoded
    cases decoded
    exact stored
  · rw [decode_of_refused refused] at decoded
    cases decoded

theorem decode_eq_error_iff {fault : Fault} :
    decode compression bytes = .error fault ↔ Refused compression bytes fault := by
  refine ⟨fun failed => ?_, decode_of_refused⟩
  rcases storedForm_or_refused compression bytes with ⟨signature, stored⟩ | ⟨other, refused⟩
  · rw [decode_of_storedForm stored] at failed
    cases failed
  · rw [decode_of_refused refused] at failed
    cases failed
    exact refused

/-! ## Encoding -/

/-- What is encoded has a header and can be decompressed. -/
theorem encode_parts (compression : Compression) (signature : Signature) :
    8 ≤ (signature.encode compression).length ∧
      (signature.encode compression).take 4 = magic ∧
      compression.decompress ((signature.encode compression).drop 8) = .ok signature.payload ∧
      Bytes.ofLittleEndian (((signature.encode compression).drop 4).take 4) =
        signature.payload.length % UInt32.size := by
  have header_length : (header signature.payload.length).length = 8 := by
    rw [header, List.length_append, Bytes.length_littleEndian]
    rfl
  have digits := Bytes.length_littleEndian 4 signature.payload.length
  refine ⟨?_, rfl, ?_, ?_⟩
  · rw [encode, List.length_append, header_length]
    exact Nat.le_add_right 8 _
  · rw [encode, List.drop_left' header_length, compression.decompress_compress]
  · rw [encode, header, List.append_assoc, List.drop_left' (show magic.length = 4 from rfl),
      List.take_left' digits, Bytes.ofLittleEndian_littleEndian_mod]

/-- What is encoded holds the payload, if the header has room for its length. -/
theorem holds_encode (compression : Compression) {signature : Signature}
    (fits : signature.payload.length < UInt32.size) :
    Holds compression (signature.encode compression) signature.payload := by
  obtain ⟨room, marked, readable, declared⟩ := encode_parts compression signature
  exact ⟨room, marked, readable, by rw [declared, Nat.mod_eq_of_lt fits]⟩

/-- What is encoded comes back if it tiles its stream, and is refused for what the check finds in it
otherwise, as long as the header has room for the length of the payload. -/
theorem decode_encode_of_fits (compression : Compression) {signature : Signature}
    (fits : signature.payload.length < UInt32.size) :
    decode compression (signature.encode compression) =
      match signature.check with
      | .ok () => .ok signature
      | .error cause => .error (.input cause) := by
  have holds := holds_encode compression fits
  cases accepted : signature.check with
  | ok => exact decode_of_storedForm ⟨_, holds, List.prefix_refl _, accepted⟩
  | error cause => exact decode_of_refused (.untiled holds (List.prefix_refl _) accepted)

/-- What is encoded is refused, if the header has no room for the length of the payload. -/
theorem refused_encode (compression : Compression) {signature : Signature}
    (long : UInt32.size ≤ signature.payload.length) :
    Refused compression (signature.encode compression)
      (.encoding (.payloadLength signature.payload.length
        (signature.payload.length % UInt32.size))) := by
  obtain ⟨room, marked, readable, declared⟩ := encode_parts compression signature
  refine .payloadLength room marked readable declared (Nat.ne_of_gt ?_)
  exact Nat.lt_of_lt_of_le (Nat.mod_lt _ (by decide)) long

/-! ## The format -/

/-- **Decoding accepts exactly the stored forms and says what is wrong with anything else.** A byte
string is a stored form of at most one signature, whose blocks tile its stream. Whatever signature
the check is put to, the place that it has reached is the sum of the lengths up to there, so no sum
runs over. A signature that does not tile its stream but fits the header is refused for what the
check finds in it. -/
theorem decode_format (compression : Compression) (bytes : Bytes) :
    (∀ signature, decode compression bytes = .ok signature ↔
      StoredForm compression bytes signature) ∧
    (∀ left right, StoredForm compression bytes left → StoredForm compression bytes right →
      left = right) ∧
    (∀ fault, decode compression bytes = .error fault ↔ Refused compression bytes fault) ∧
    (∀ signature, decode compression bytes = .ok signature →
      Tiles signature.length.toNat 0 signature.blocks) ∧
    (∀ (payload : Bytes) (signature : Signature) (earlier : List Block) (reached : UInt64),
      Holds compression bytes payload →
        signature.payload <+: payload → earlier <+: signature.blocks →
          checkBlocks 0 0 earlier = .ok reached →
            reached.toNat = (earlier.map fun block => block.length.toNat).sum) ∧
    ∀ (signature : Signature) (cause : InputFault), signature.check = .error cause →
      signature.payload.length < UInt32.size →
        decode compression (signature.encode compression) = .error (.input cause) := by
  refine ⟨fun _ => decode_eq_ok_iff, fun left right stored_left stored_right => ?_,
    fun _ => decode_eq_error_iff, fun signature decoded => ?_, ?_, ?_⟩
  · exact Except.ok.inj ((decode_of_storedForm stored_left).symm.trans
      (decode_of_storedForm stored_right))
  · obtain ⟨payload, holds, begins, accepted⟩ := decode_eq_ok_iff.mp decoded
    exact tiles_of_check (holds.length_blocks_lt begins) accepted
  · intro payload signature earlier reached holds begins first followed
    have few := Nat.lt_of_le_of_lt first.length_le (holds.length_blocks_lt begins)
    have counted := toNat_of_checkBlocks (few_of_length_lt few) followed
    rwa [UInt64.toNat_zero, Nat.zero_add] at counted
  · intro signature cause refused fits
    exact decode_of_refused
      (.untiled (holds_encode compression fits) (List.prefix_refl _) refused)

/-- A byte after the last field of a payload does not matter. A block that begins just below the
greatest number, so that a sum of words comes round to the length of the stream, is refused for
where it begins. -/
theorem decode_format_of_trailing :
    decode .storedFrame (header 17 ++ Compression.storedFrame.compress (empty.payload ++ [7])) =
      .ok empty ∧
    (Block.mk 18446744073709551615 2 (.ofContent [])).stop = 1 ∧
    decode .storedFrame
        (encode .storedFrame ⟨[⟨18446744073709551615, 2, .ofContent []⟩], 1⟩) =
      .error (.input (.misplacedBlock 0 18446744073709551615 0)) := by
  have holds : Holds .storedFrame
      (header 17 ++ Compression.storedFrame.compress (empty.payload ++ [7]))
      (empty.payload ++ [7]) :=
    ⟨by decide, rfl, Compression.decompress_compress _ _, rfl⟩
  refine ⟨((decode_format _ _).1 empty).mpr ⟨_, holds, ⟨[7], rfl⟩, rfl⟩, rfl, ?_⟩
  refine (decode_format _ []).2.2.2.2.2 _ _ rfl ?_
  rw [length_payload]
  decide

end ReplicaSync.Signature
