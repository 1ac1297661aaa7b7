import ReplicaSync.Proofs.Plan.Assembly

/-!
# Where an assembly stops

Any plan can be followed, also one whose pieces overlap, are empty, or lie beyond their sides. Each
piece has its turn, and the fetcher may answer as it likes. A piece whose turn it is either goes to
the output as a whole, or the assembly stops there, for one of four reasons (`Turn.Stops`): the seed
ends early, the fetcher refuses, it answers with another number of bytes than were asked for, or the
output has no room.

By induction over the pieces (`Assembly.bringAll_cases`) the output holds what the pieces before the
stop had to offer, and a beginning of what the piece at the stop has (`Plan.assemble_stops`). The
requests are those of the pieces up to the stop, and none comes after it.
-/

set_option autoImplicit false

namespace ReplicaSync

/-! ## Outputs with a bound -/

/-- Whether an output with the given bound, if it has one, takes so many bytes in all. -/
def Output.Takes (bound : Option (Nat × IoFault)) (count : Nat) : Prop :=
  ∀ limit cause, bound = some (limit, cause) → count ≤ limit

namespace Output

theorem Takes.of_le {bound : Option (Nat × IoFault)} {less more : Nat}
    (takes : Takes bound more) (fewer : less ≤ more) : Takes bound less :=
  fun limit cause bounded => Nat.le_trans fewer (takes limit cause bounded)

/-- An output that has counted the bytes it holds, and holds no more than it takes. -/
structure Sound (output : Output) : Prop where
  counted : output.size = output.contents.length
  within : Takes output.bound output.size

variable {output : Output}

theorem sound_accept (sound : output.Sound) {bytes : Bytes}
    (takes : Takes output.bound (output.size + bytes.length)) : (output.accept bytes).Sound where
  counted := by
    rw [contents_accept, List.length_append, ← sound.counted]
    rfl
  within := takes

/-- **A write goes through as a whole, or as far as there is room.** -/
theorem write_cases (sound : output.Sound) (bytes : Bytes) :
    Takes output.bound (output.size + bytes.length) ∧
        output.write bytes = (.ok (), output.accept bytes) ∨
      ∃ limit cause, output.bound = some (limit, cause) ∧ limit < output.size + bytes.length ∧
        output.write bytes =
          (.error (.io cause), output.accept (bytes.take (limit - output.size))) := by
  cases bounded : output.bound with
  | none => exact .inl ⟨nofun, write_unbounded bounded bytes⟩
  | some bound =>
      obtain ⟨limit, cause⟩ := bound
      have held : output.size ≤ limit := sound.within limit cause bounded
      rw [write, bounded]
      dsimp only
      by_cases room : bytes.length ≤ limit - output.size
      · refine .inl ⟨fun other reason same => ?_, if_pos room⟩
        obtain ⟨rfl, rfl⟩ := Prod.mk.inj (Option.some.inj same)
        omega
      · exact .inr ⟨limit, cause, rfl, by omega, if_neg room⟩

end Output

/-! ## Turns -/

/-- A piece of a plan whose turn has come, after a number of requests. -/
structure Turn where
  asked : Nat
  piece : Piece

namespace Turn

/-- The pieces in their order, each with the number of requests before it. -/
def ofPieces : Nat → List Piece → List Turn
  | _, [] => []
  | asked, piece :: rest =>
      ⟨asked, piece⟩ :: ofPieces (if piece.isSource then asked + 1 else asked) rest

/-- The requests of some turns. -/
def requests (turns : List Turn) : List Request :=
  (turns.filter fun turn => turn.piece.isSource).map fun turn => turn.piece.request

section Supply

variable (seed : Bytes) (fetch : Fetcher) (turn : Turn)

/-- The bytes that a piece has to offer: those of the seed up to its end, or those fetched. -/
def supply : Bytes :=
  match turn.piece.side with
  | .seed => seed.range turn.piece.offset.toNat turn.piece.length.toNat
  | .source =>
      match fetch turn.asked turn.piece.request with
      | .ok fetched => fetched
      | .error _ => []

/-- Whether all bytes of a piece are to be had: it is empty or within the seed, or the fetch answers
with as many bytes as were asked for. -/
def Whole : Prop :=
  match turn.piece.side with
  | .seed => 0 < turn.piece.length.toNat →
      turn.piece.offset.toNat + turn.piece.length.toNat ≤ seed.length
  | .source => ∃ fetched, fetch turn.asked turn.piece.request = .ok fetched ∧
      fetched.length = turn.piece.length.toNat

/-- How an assembly stops at a piece, when the output holds so many bytes already: the bytes of the
piece that are still written, and the fault. -/
inductive Stops (bound : Option (Nat × IoFault)) (filled : Nat) : Bytes → Fault → Prop
  | seedEnded (copied : turn.piece.side = .seed)
      (early : (turn.supply seed fetch).length < turn.piece.length.toNat)
      (takes : Output.Takes bound (filled + (turn.supply seed fetch).length)) :
      Stops bound filled (turn.supply seed fetch)
        (.io (.seedEnded (turn.supply seed fetch).length turn.piece.length turn.piece.offset))
  | refused {fault : Fault} (fetched : turn.piece.side = .source)
      (answer : fetch turn.asked turn.piece.request = .error fault) : Stops bound filled [] fault
  | mismatched {bytes : Bytes} (fetched : turn.piece.side = .source)
      (answer : fetch turn.asked turn.piece.request = .ok bytes)
      (wrong : bytes.length ≠ turn.piece.length.toNat) :
      Stops bound filled []
        (.input (.fetchedLength bytes.length turn.piece.offset turn.piece.length))
  | full {limit : Nat} {cause : IoFault} (bounded : bound = some (limit, cause))
      (offered : turn.piece.side = .seed ∨ turn.Whole seed fetch)
      (beyond : limit < filled + (turn.supply seed fetch).length) :
      Stops bound filled ((turn.supply seed fetch).take (limit - filled)) (.io cause)

end Supply

section Whole

variable {seed : Bytes} {fetch : Fetcher} {turn : Turn}

theorem supply_of_seed (copied : turn.piece.side = .seed) :
    turn.supply seed fetch = seed.range turn.piece.offset.toNat turn.piece.length.toNat := by
  rw [supply, copied]

theorem supply_of_source (remote : turn.piece.side = .source) {fetched : Bytes}
    (answer : fetch turn.asked turn.piece.request = .ok fetched) :
    turn.supply seed fetch = fetched := by
  rw [supply, remote]
  dsimp only
  rw [answer]

theorem whole_of_seed (copied : turn.piece.side = .seed) :
    turn.Whole seed fetch ↔ (turn.supply seed fetch).length = turn.piece.length.toNat := by
  rw [Whole, copied, supply_of_seed copied]
  simp only [Bytes.range, List.length_take, List.length_drop]
  omega

/-- A whole piece offers as many bytes as it says. -/
theorem Whole.length_supply (whole : turn.Whole seed fetch) :
    (turn.supply seed fetch).length = turn.piece.length.toNat := by
  cases side : turn.piece.side with
  | seed => exact (whole_of_seed side).mp whole
  | source =>
      rw [Whole, side] at whole
      obtain ⟨fetched, answer, same⟩ := whole
      rw [supply_of_source side answer, same]

variable {bound : Option (Nat × IoFault)} {filled : Nat} {bytes : Bytes} {fault : Fault}

/-- Where an assembly stops, the piece is not whole or the output has no room for it. -/
theorem Stops.not_whole (stops : turn.Stops seed fetch bound filled bytes fault)
    (takes : Output.Takes bound (filled + (turn.supply seed fetch).length)) :
    ¬ turn.Whole seed fetch := by
  intro whole
  cases stops with
  | seedEnded copied early =>
      rw [whole.length_supply] at early
      exact Nat.lt_irrefl _ early
  | refused remote answer =>
      rw [Whole, remote] at whole
      obtain ⟨fetched, other, -⟩ := whole
      rw [answer] at other
      cases other
  | mismatched remote answer wrong =>
      rw [← supply_of_source remote answer, whole.length_supply] at wrong
      exact wrong rfl
  | full bounded offered beyond => exact Nat.not_lt.mpr (takes _ _ bounded) beyond

/-- What is still written of a piece is a beginning of what it offers. -/
theorem Stops.isPrefix (stops : turn.Stops seed fetch bound filled bytes fault) :
    bytes <+: turn.supply seed fetch := by
  cases stops with
  | seedEnded => exact List.prefix_refl _
  | refused | mismatched => exact List.nil_prefix
  | full => exact List.take_prefix _ _

end Whole

end Turn

/-! ## One piece -/

namespace Assembly

/-- The turn of a piece in an assembly. -/
def turn (assembly : Assembly) (piece : Piece) : Turn := ⟨assembly.requests.length, piece⟩

/-- The requests after a piece has had its turn. -/
def requestsAfter (assembly : Assembly) (piece : Piece) : List Request :=
  if piece.isSource then piece.request :: assembly.requests else assembly.requests

/-- An assembly after all bytes of a piece have been written. -/
def having (assembly : Assembly) (piece : Piece) (bytes : Bytes) : Assembly where
  output := assembly.output.accept bytes
  requests := assembly.requestsAfter piece
  written := assembly.written

/-- What becomes of a piece: it goes to the output as a whole, or the assembly stops there. -/
inductive Brings (seed : Bytes) (fetch : Fetcher) (assembly : Assembly) (piece : Piece) :
    Except Fault Unit × Assembly → Prop
  | whole (whole : (assembly.turn piece).Whole seed fetch)
      (takes : Output.Takes assembly.output.bound
        (assembly.output.size + ((assembly.turn piece).supply seed fetch).length)) :
      Brings seed fetch assembly piece
        (.ok (), assembly.having piece ((assembly.turn piece).supply seed fetch))
  | stopped {bytes : Bytes} {fault : Fault} {stopped : Assembly}
      (stops : (assembly.turn piece).Stops seed fetch assembly.output.bound assembly.output.size
        bytes fault)
      (contents : stopped.output.contents = assembly.output.contents ++ bytes)
      (requests : stopped.requests = assembly.requestsAfter piece) :
      Brings seed fetch assembly piece (.error fault, stopped)

section Step

variable {seed : Bytes} {fetch : Fetcher} {assembly : Assembly} {piece : Piece}
variable (sound : assembly.output.Sound)
include sound

theorem bring_of_seed (copied : piece.side = .seed) :
    assembly.Brings seed fetch piece (assembly.bring seed fetch piece) := by
  have at_hand : (assembly.turn piece).supply seed fetch =
      seed.range piece.offset.toNat piece.length.toNat := Turn.supply_of_seed copied
  have no_request : assembly.requests = assembly.requestsAfter piece := by
    rw [requestsAfter, Piece.isSource, copied]
    rfl
  rw [bring, copied]
  dsimp only
  rw [copySeed, ← at_hand]
  rcases Output.write_cases sound ((assembly.turn piece).supply seed fetch) with
    ⟨takes, wrote⟩ | ⟨limit, cause, bounded, beyond, wrote⟩
  · simp only [wrote]
    by_cases all_found : ((assembly.turn piece).supply seed fetch).length = piece.length.toNat
    · have whole : (assembly.turn piece).Whole seed fetch :=
        (Turn.whole_of_seed copied).mpr all_found
      rw [if_pos all_found, no_request]
      exact .whole whole takes
    · have early : ((assembly.turn piece).supply seed fetch).length < piece.length.toNat := by
        refine Nat.lt_of_le_of_ne ?_ all_found
        rw [at_hand]
        exact List.length_take_le _ _
      rw [if_neg all_found]
      exact .stopped (.seedEnded copied early takes) (Output.contents_accept _ _) no_request
  · simp only [wrote]
    exact .stopped (.full bounded (.inl copied) beyond) (Output.contents_accept _ _) no_request

theorem bring_of_source (remote : piece.side = .source) :
    assembly.Brings seed fetch piece (assembly.bring seed fetch piece) := by
  have one_request : piece.request :: assembly.requests = assembly.requestsAfter piece := by
    rw [requestsAfter, Piece.isSource, remote]
    rfl
  have nothing_written : assembly.output.contents = assembly.output.contents ++ [] :=
    (List.append_nil _).symm
  rw [bring, remote]
  dsimp only
  rw [fetchSource]
  cases answer : fetch assembly.requests.length ⟨piece.offset, piece.length⟩ with
  | error fault => exact .stopped (.refused remote answer) nothing_written one_request
  | ok fetched =>
      dsimp only
      by_cases all_fetched : fetched.length = piece.length.toNat
      · have whole : (assembly.turn piece).Whole seed fetch := by
          rw [Turn.Whole, turn, remote]
          exact ⟨fetched, answer, all_fetched⟩
        have supply : (assembly.turn piece).supply seed fetch = fetched :=
          Turn.supply_of_source remote answer
        rw [if_pos all_fetched, ← supply]
        rcases Output.write_cases sound ((assembly.turn piece).supply seed fetch) with
          ⟨takes, wrote⟩ | ⟨limit, cause, bounded, beyond, wrote⟩
        · simp only [wrote]
          rw [Piece.request] at one_request
          rw [one_request]
          exact .whole whole takes
        · simp only [wrote]
          exact .stopped (.full bounded (.inr whole) beyond) (Output.contents_accept _ _)
            one_request
      · rw [if_neg all_fetched]
        exact .stopped (.mismatched remote answer all_fetched) nothing_written one_request

/-- **A piece goes to the output as a whole, or the assembly stops there.** Either way it makes its
request if it comes from the source. -/
theorem bring_cases (piece : Piece) :
    assembly.Brings seed fetch piece (assembly.bring seed fetch piece) := by
  cases side : piece.side with
  | seed => exact bring_of_seed sound side
  | source => exact bring_of_source sound side

end Step

/-! ## All pieces -/

/-- What following pieces comes to: all of them have gone to the output as a whole, or the assembly
has stopped at one of them. -/
inductive Follows (seed : Bytes) (fetch : Fetcher) (assembly : Assembly) (pieces : List Piece) :
    Except Fault UInt64 × Assembly → Prop
  | finished {final : Assembly}
      (whole : ∀ turn ∈ Turn.ofPieces assembly.requests.length pieces, turn.Whole seed fetch)
      (takes : Output.Takes assembly.output.bound (assembly.output.size +
        ((Turn.ofPieces assembly.requests.length pieces).flatMap (Turn.supply seed fetch)).length))
      (contents : final.output.contents = assembly.output.contents ++
        (Turn.ofPieces assembly.requests.length pieces).flatMap (Turn.supply seed fetch))
      (requests : final.requests.reverse = assembly.requests.reverse ++
        Turn.requests (Turn.ofPieces assembly.requests.length pieces)) :
      Follows seed fetch assembly pieces
        (.ok (pieces.foldl (fun sum piece => sum + piece.length.toUInt64) assembly.written), final)
  | stopped (before after : List Turn) (turn : Turn) (bytes : Bytes) {fault : Fault}
      {stopped : Assembly}
      (split : Turn.ofPieces assembly.requests.length pieces = before ++ turn :: after)
      (whole : ∀ earlier ∈ before, earlier.Whole seed fetch)
      (stops : turn.Stops seed fetch assembly.output.bound
        (assembly.output.size + (before.flatMap (Turn.supply seed fetch)).length) bytes fault)
      (contents : stopped.output.contents =
        assembly.output.contents ++ before.flatMap (Turn.supply seed fetch) ++ bytes)
      (requests : stopped.requests.reverse =
        assembly.requests.reverse ++ Turn.requests (before ++ [turn])) :
      Follows seed fetch assembly pieces (.error fault, stopped)

section Run

variable {seed : Bytes} {fetch : Fetcher} {assembly : Assembly}

theorem length_requestsAfter (assembly : Assembly) (piece : Piece) :
    (assembly.requestsAfter piece).length =
      if piece.isSource then assembly.requests.length + 1 else assembly.requests.length := by
  rw [requestsAfter]
  split <;> rfl

theorem reverse_requestsAfter (assembly : Assembly) (piece : Piece) (later : List Turn) :
    (assembly.requestsAfter piece).reverse ++ Turn.requests later =
      assembly.requests.reverse ++ Turn.requests (assembly.turn piece :: later) := by
  rw [requestsAfter, Turn.requests, Turn.requests, List.filter_cons]
  change _ = _ ++ List.map _ (if piece.isSource = true then _ else _)
  split
  · rw [List.reverse_cons, List.map_cons, List.append_assoc]
    rfl
  · rfl

theorem ofPieces_cons (assembly : Assembly) (piece : Piece) (rest : List Piece) :
    Turn.ofPieces assembly.requests.length (piece :: rest) =
      assembly.turn piece :: Turn.ofPieces (assembly.requestsAfter piece).length rest := by
  rw [Turn.ofPieces, length_requestsAfter]
  rfl

/-- An assembly after a whole piece has been counted. -/
def counting (seed : Bytes) (fetch : Fetcher) (assembly : Assembly) (piece : Piece) : Assembly :=
  { assembly.having piece ((assembly.turn piece).supply seed fetch) with
    written := assembly.written + piece.length.toUInt64 }

/-- What follows a whole piece follows the piece and the rest. -/
theorem Follows.of_whole {piece : Piece} {rest : List Piece}
    {result : Except Fault UInt64 × Assembly}
    (whole : (assembly.turn piece).Whole seed fetch)
    (follows : (assembly.counting seed fetch piece).Follows seed fetch rest result) :
    assembly.Follows seed fetch (piece :: rest) result := by
  have turns := ofPieces_cons assembly piece rest
  have held : (assembly.counting seed fetch piece).output.contents =
      assembly.output.contents ++ (assembly.turn piece).supply seed fetch :=
    Output.contents_accept _ _
  cases follows with
  | finished whole_later takes contents requests =>
      refine .finished ?_ ?_ ?_ ?_
      · rw [turns]
        exact List.forall_mem_cons.mpr ⟨whole, whole_later⟩
      · rw [turns, List.flatMap_cons, List.length_append, ← Nat.add_assoc]
        exact takes
      · rw [contents, held, turns, List.flatMap_cons, List.append_assoc]
        rfl
      · rw [requests, turns]
        exact reverse_requestsAfter assembly piece _
  | stopped before after turn bytes split whole_before stops contents requests =>
      refine .stopped (assembly.turn piece :: before) after turn bytes ?_ ?_ ?_ ?_ ?_
      · rw [turns, List.cons_append, ← split]
        rfl
      · exact List.forall_mem_cons.mpr ⟨whole, whole_before⟩
      · rw [List.flatMap_cons, List.length_append, ← Nat.add_assoc]
        exact stops
      · rw [contents, held, List.flatMap_cons]
        simp only [List.append_assoc]
      · rw [requests, List.cons_append]
        exact reverse_requestsAfter assembly piece _

/-- **Following pieces either finishes all of them, or stops at the first that fails.** -/
theorem bringAll_cases (sound : assembly.output.Sound) (pieces : List Piece) :
    assembly.Follows seed fetch pieces (bringAll seed fetch pieces assembly) := by
  induction pieces generalizing assembly with
  | nil =>
      refine .finished (List.forall_mem_nil _) sound.within ?_ ?_
      · exact (List.append_nil _).symm
      · exact (List.append_nil _).symm
  | cons piece rest ih =>
      have brought : assembly.Brings seed fetch piece (assembly.bring seed fetch piece) :=
        bring_cases sound piece
      rw [bringAll]
      generalize assembly.bring seed fetch piece = result at brought ⊢
      cases brought with
      | whole whole takes =>
          have sound_next : (assembly.counting seed fetch piece).output.Sound :=
            Output.sound_accept sound takes
          exact .of_whole whole (ih sound_next)
      | @stopped bytes fault stopped stops contents requests =>
          refine .stopped [] _ _ bytes (ofPieces_cons assembly piece rest) (List.forall_mem_nil _)
            stops ?_ ?_
          · rw [contents, List.flatMap_nil, List.append_nil]
          · rw [requests]
            exact (List.append_nil _).symm.trans (reverse_requestsAfter assembly piece [])

end Run

end Assembly

/-! ## Plans -/

namespace Turn

variable {seed : Bytes} {fetch : Fetcher}

theorem map_piece_ofPieces (asked : Nat) (pieces : List Piece) :
    (ofPieces asked pieces).map Turn.piece = pieces := by
  induction pieces generalizing asked with
  | nil => rfl
  | cons piece rest ih => rw [ofPieces, List.map_cons, ih]

theorem requests_append (earlier later : List Turn) :
    requests (earlier ++ later) = requests earlier ++ requests later := by
  rw [requests, List.filter_append, List.map_append]
  rfl

theorem requests_eq (turns : List Turn) :
    requests turns = ((turns.map Turn.piece).filter Piece.isSource).map Piece.request := by
  rw [requests, List.filter_map, List.map_map]
  rfl

/-- Whole pieces offer as many bytes as their lengths add up to. -/
theorem length_flatMap_supply {turns : List Turn} (whole : ∀ turn ∈ turns, turn.Whole seed fetch) :
    (turns.flatMap (supply seed fetch)).length =
      ((turns.map Turn.piece).map fun piece => piece.length.toNat).sum := by
  rw [List.length_flatMap, List.map_map]
  congr 1
  exact List.map_congr_left fun turn member => (whole turn member).length_supply

end Turn

namespace Plan

/-- The pieces of a plan in their order, each with the number of requests before it. -/
def turns (plan : Plan) : List Turn := Turn.ofPieces 0 plan.pieces

/-- The bytes that the pieces of a plan have to offer, one after the other. -/
def supply (seed : Bytes) (fetch : Fetcher) (plan : Plan) : Bytes :=
  plan.turns.flatMap (Turn.supply seed fetch)

theorem requests_turns (plan : Plan) : Turn.requests plan.turns = plan.requests := by
  rw [Turn.requests_eq, turns, Turn.map_piece_ofPieces]
  rfl

/-- The lengths of fewer than `2 ^ 32` pieces add up to a word. -/
theorem sum_length_lt {pieces : List Piece} (few : pieces.length < UInt32.size) :
    (pieces.map fun piece => piece.length.toNat).sum < UInt64.size := by
  have each : ∀ length ∈ pieces.map fun piece => piece.length.toNat, length ≤ UInt32.size - 1 := by
    intro length member
    obtain ⟨piece, -, rfl⟩ := List.mem_map.mp member
    exact Nat.le_pred_of_lt piece.length.toNat_lt
  have total : (pieces.map fun piece => piece.length.toNat).sum ≤
      (pieces.map fun piece => piece.length.toNat).length * (UInt32.size - 1) :=
    List.sum_le_card_nsmul _ _ each
  rw [List.length_map] at total
  have most : pieces.length * (UInt32.size - 1) ≤ (UInt32.size - 1) * (UInt32.size - 1) :=
    Nat.mul_le_mul_right _ (Nat.le_pred_of_lt few)
  exact Nat.lt_of_le_of_lt (total.trans most) (by decide)

section Assemble

variable (plan : Plan) (seed : Bytes) (fetch : Fetcher) (bound : Option (Nat × IoFault))

/-- An assembly either brings all pieces to the output, or it stops at one of them. -/
theorem assemble_cases :
    (∃ final, plan.assemble seed fetch { bound } = (.ok plan.totalLength, final) ∧
        (∀ turn ∈ plan.turns, turn.Whole seed fetch) ∧
        Output.Takes bound (plan.supply seed fetch).length ∧
        final.output.contents = plan.supply seed fetch ∧
        final.requests.reverse = plan.requests) ∨
      ∃ fault stopped before turn after bytes,
        plan.assemble seed fetch { bound } = (.error fault, stopped) ∧
        plan.turns = before ++ turn :: after ∧
        (∀ earlier ∈ before, earlier.Whole seed fetch) ∧
        turn.Stops seed fetch bound (before.flatMap (Turn.supply seed fetch)).length bytes fault ∧
        stopped.output.contents = before.flatMap (Turn.supply seed fetch) ++ bytes ∧
        stopped.requests.reverse = Turn.requests (before ++ [turn]) := by
  have sound : ({ bound } : Output).Sound := ⟨rfl, fun _ _ _ => Nat.zero_le _⟩
  let start : Assembly := { output := { bound } }
  have followed : start.Follows seed fetch plan.pieces (plan.assemble seed fetch { bound }) :=
    Assembly.bringAll_cases sound plan.pieces
  generalize plan.assemble seed fetch { bound } = result at followed ⊢
  have nothing_filled (count : Nat) : start.output.size + count = count := Nat.zero_add count
  cases followed with
  | finished whole takes contents requests =>
      rw [nothing_filled] at takes
      exact .inl ⟨_, rfl, whole, takes, contents, requests.trans plan.requests_turns⟩
  | stopped before after turn bytes split whole stops contents requests =>
      rw [nothing_filled] at stops
      exact .inr ⟨_, _, before, turn, after, bytes, rfl, split, whole, stops, contents, requests⟩

variable {plan seed fetch bound}

/-- Whole pieces offer as many bytes as the plan says. -/
theorem length_supply (few : plan.pieces.length < UInt32.size)
    (whole : ∀ turn ∈ plan.turns, turn.Whole seed fetch) :
    (plan.supply seed fetch).length = plan.totalLength.toNat := by
  rw [supply, Turn.length_flatMap_supply whole, turns, Turn.map_piece_ofPieces, totalLength,
    toNat_lengthSum (sum_length_lt few)]

/-- No assembly stops at a piece of a plan whose pieces are whole and fit the output. -/
theorem not_stops_of_whole {before after : List Turn} {turn : Turn} {bytes : Bytes} {fault : Fault}
    (split : plan.turns = before ++ turn :: after)
    (whole : ∀ turn ∈ plan.turns, turn.Whole seed fetch)
    (takes : Output.Takes bound (plan.supply seed fetch).length) :
    ¬ turn.Stops seed fetch bound (before.flatMap (Turn.supply seed fetch)).length bytes fault := by
  intro stops
  have member : turn ∈ plan.turns := split ▸ List.mem_append_right _ List.mem_cons_self
  refine stops.not_whole (takes.of_le ?_) (whole turn member)
  rw [supply, split, List.flatMap_append, List.flatMap_cons, List.length_append, List.length_append]
  omega

/-- What is written where an assembly stops is a beginning of what the plan has to offer. -/
theorem isPrefix_supply {before after : List Turn} {turn : Turn} {bytes : Bytes} {fault : Fault}
    {filled : Nat} (split : plan.turns = before ++ turn :: after)
    (stops : turn.Stops seed fetch bound filled bytes fault) :
    before.flatMap (Turn.supply seed fetch) ++ bytes <+: plan.supply seed fetch := by
  rw [supply, split, List.flatMap_append, List.flatMap_cons]
  exact (List.prefix_append_right_inj _).mpr (stops.isPrefix.trans (List.prefix_append _ _))

/-- The requests up to a turn are the first ones of the plan. -/
theorem isPrefix_requests {before after : List Turn} {turn : Turn}
    (split : plan.turns = before ++ turn :: after) :
    Turn.requests (before ++ [turn]) <+: plan.requests := by
  rw [← plan.requests_turns, split, List.append_cons before turn after,
    Turn.requests_append (before ++ [turn])]
  exact List.prefix_append _ _

end Assemble

/-- **An assembly writes a beginning of what its pieces offer, and stops at the first that fails.**
It makes the requests of the pieces up to there. It ends well exactly if every piece is whole and
the output takes all their bytes. Then it counts the bytes written, which are as many as the plan
says.
Otherwise the output holds what the pieces before the stop offer and what is still written of the
piece at the stop, and the fault is that of this piece. -/
theorem assemble_stops (plan : Plan) (seed : Bytes) (fetch : Fetcher)
    (bound : Option (Nat × IoFault)) (few : plan.pieces.length < UInt32.size) :
    ∃ answer assembly, plan.assemble seed fetch { bound } = (answer, assembly) ∧
      assembly.output.contents <+: plan.supply seed fetch ∧
      assembly.requests.reverse <+: plan.requests ∧
      ((∃ count, answer = .ok count) ↔
        (∀ turn ∈ plan.turns, turn.Whole seed fetch) ∧
          Output.Takes bound (plan.supply seed fetch).length) ∧
      (∀ count, answer = .ok count →
        count = plan.totalLength ∧ count.toNat = assembly.output.contents.length ∧
          assembly.output.contents = plan.supply seed fetch ∧
          assembly.requests.reverse = plan.requests) ∧
      ∀ fault, answer = .error fault →
        ∃ before turn after bytes, plan.turns = before ++ turn :: after ∧
          (∀ earlier ∈ before, earlier.Whole seed fetch) ∧
          turn.Stops seed fetch bound (before.flatMap (Turn.supply seed fetch)).length
            bytes fault ∧
          assembly.output.contents = before.flatMap (Turn.supply seed fetch) ++ bytes ∧
          assembly.requests.reverse = Turn.requests (before ++ [turn]) := by
  rcases plan.assemble_cases seed fetch bound with
    ⟨final, assembled, whole, takes, contents, requests⟩ |
    ⟨fault, stopped, before, turn, after, bytes, assembled, split, whole, stops, contents, requests⟩
  · refine ⟨_, final, assembled, ?_, ?_, ?_, ?_, nofun⟩
    · exact contents ▸ List.prefix_refl _
    · exact requests ▸ List.prefix_refl _
    · exact ⟨fun _ => ⟨whole, takes⟩, fun _ => ⟨_, rfl⟩⟩
    · intro count same
      obtain rfl := Except.ok.inj same
      refine ⟨rfl, ?_, contents, requests⟩
      rw [contents, length_supply few whole]
  · refine ⟨_, stopped, assembled, ?_, ?_, ?_, nofun, ?_⟩
    · rw [contents]
      exact isPrefix_supply split stops
    · rw [requests]
      exact isPrefix_requests split
    · constructor
      · rintro ⟨count, same⟩
        cases same
      · rintro ⟨all_whole, takes⟩
        exact absurd stops (not_stops_of_whole split all_whole takes)
    · intro other same
      obtain rfl := Except.error.inj same
      exact ⟨before, turn, after, bytes, split, whole, stops, contents, requests⟩

/-- The third piece runs beyond the end of the seed. What is there of it is written, and the piece
behind it is not asked for. -/
theorem assemble_stops_of_early_end :
    let plan : Plan := ⟨[⟨.seed, 0, 2⟩, ⟨.source, 5, 3⟩, ⟨.seed, 1, 9⟩, ⟨.source, 0, 1⟩], 15⟩
    let fetch : Fetcher := fun _ request => .ok (List.replicate request.length.toNat 7)
    plan.pieces.length < UInt32.size ∧
      ∃ assembly before turn after,
        plan.assemble [1, 2, 3] fetch {} = (.error (.io (.seedEnded 2 9 1)), assembly) ∧
        assembly.output.contents = [1, 2, 7, 7, 7, 2, 3] ∧
        assembly.output.contents <+: plan.supply [1, 2, 3] fetch ∧
        assembly.requests.reverse = [⟨5, 3⟩] ∧
        plan.turns = before ++ turn :: after ∧
        (∀ earlier ∈ before, earlier.Whole [1, 2, 3] fetch) ∧
        (IoFault.seedEnded 2 9 1).kind = .unexpectedEof := by
  intro plan fetch
  have few : plan.pieces.length < UInt32.size := by decide
  obtain ⟨answer, assembly, assembled, begins, -, -, -, stopped⟩ :=
    assemble_stops plan [1, 2, 3] fetch none few
  have computed : plan.assemble [1, 2, 3] fetch {} =
      (.error (.io (.seedEnded 2 9 1)),
        ⟨⟨[[2, 3], [7, 7, 7], [1, 2]], 7, none⟩, [⟨5, 3⟩], 5⟩) := rfl
  obtain ⟨rfl, rfl⟩ := Prod.mk.inj (assembled.symm.trans computed)
  obtain ⟨before, turn, after, -, split, whole, -⟩ := stopped _ rfl
  exact ⟨few, _, before, turn, after, computed, rfl, begins, rfl, split, whole, rfl⟩

end Plan

end ReplicaSync
