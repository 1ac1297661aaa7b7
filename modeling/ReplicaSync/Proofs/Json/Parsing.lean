import ReplicaSync.Json.Reader
import ReplicaSync.Proofs.Json.Grammar

/-!
# Which documents are read

A document is read as a value exactly if it spells the tokens of that value
(`Json.parse?_eq_some_iff`). The tokens of a value are read as it (`Json.run_tokens`). No others
are, since the place of the reader shows what it has taken (`Json.Place.taken`). Its stack holds
what has been read of the arrays and objects that are not finished.
-/

set_option autoImplicit false

namespace ReplicaSync.Json

/-! ## The tokens of a value are read -/

/-- An item does not begin with the end of the array. -/
theorem run_atFirstItem (value : Json) (stack : List Frame) (rest : List Token) :
    Place.run (.atFirstItem stack) (value.tokens ++ rest) =
      Place.run (.atValue (.items [] :: stack)) (value.tokens ++ rest) := by
  match value with
  | .null => rfl
  | .bool _ => rfl
  | .number _ => rfl
  | .string _ => rfl
  | .array [] => rfl
  | .array (_ :: _) => rfl
  | .object [] => rfl
  | .object (_ :: _) => rfl

mutual

/-- **The tokens of a value are read as that value.** -/
theorem run_tokens : ∀ (value : Json) (stack : List Frame) (rest : List Token),
    Place.run (.atValue stack) (value.tokens ++ rest) = Place.run (.finished stack value) rest
  | .null, _, _ => rfl
  | .bool _, _, _ => rfl
  | .number _, _, _ => rfl
  | .string _, _, _ => rfl
  | .array [], _, _ => rfl
  | .array (first :: items), stack, rest => by
      have opened (after : List Token) :
          Place.run (.atValue stack) (.openArray :: after) = Place.run (.atFirstItem stack) after :=
        rfl
      rw [tokens, List.cons_append, opened, List.append_assoc, run_atFirstItem, run_tokens first,
        run_itemTokens items]
      rfl
  | .object [], _, _ => rfl
  | .object ((key, value) :: members), stack, rest => by
      have opened (after : List Token) :
          Place.run (.atValue stack) (.openObject :: .atom (.string key) :: .colon :: after) =
            Place.run (.atValue (.member [] key :: stack)) after := rfl
      rw [tokens, List.cons_append, List.cons_append, List.cons_append, opened, List.append_assoc,
        run_tokens value, run_memberTokens members]
      rfl

theorem run_itemTokens : ∀ (items before : List Json) (last : Json) (stack : List Frame)
    (rest : List Token),
    Place.run (.finished (.items before :: stack) last) (itemTokens items ++ rest) =
      Place.run (.finished stack (.array ((last :: before).reverse ++ items))) rest
  | [], before, last, stack, rest => by
      rw [List.append_nil]
      rfl
  | item :: items, before, last, stack, rest => by
      have comma (after : List Token) :
          Place.run (.finished (.items before :: stack) last) (.comma :: after) =
            Place.run (.atValue (.items (last :: before) :: stack)) after := rfl
      rw [itemTokens, List.cons_append, comma, List.append_assoc, run_tokens item,
        run_itemTokens items, List.reverse_cons, List.append_assoc]
      rfl

theorem run_memberTokens : ∀ (members before : List (JsonText × Json)) (key : JsonText)
    (last : Json) (stack : List Frame) (rest : List Token),
    Place.run (.finished (.member before key :: stack) last) (memberTokens members ++ rest) =
      Place.run (.finished stack (.object (((key, last) :: before).reverse ++ members))) rest
  | [], before, key, last, stack, rest => by
      rw [List.append_nil]
      rfl
  | (next, value) :: members, before, key, last, stack, rest => by
      have comma (after : List Token) :
          Place.run (.finished (.member before key :: stack) last)
              (.comma :: .atom (.string next) :: .colon :: after) =
            Place.run (.atValue (.member ((key, last) :: before) next :: stack)) after := rfl
      rw [memberTokens, List.cons_append, List.cons_append, List.cons_append, comma,
        List.append_assoc, run_tokens value, run_memberTokens members, List.reverse_cons,
        List.append_assoc]
      rfl

end

/-! ## What has been taken -/

/-- Whether a token is punctuation or a value without parts. -/
def Token.Simple (token : Token) : Prop :=
  ∀ value, token = .atom value → value.tokens = [.atom value]

/-- The tokens that documents spell are simple. -/
theorem Spells.simple {tokens : List Token} {characters : List Char}
    (spells : Spells tokens characters) : ∀ token ∈ tokens, token.Simple := by
  induction spells with
  | done => exact nofun
  | space _ _ ih => exact ih
  | punctuation means _ ih =>
      rintro token (_ | ⟨_, behind⟩) value rfl
      · unfold punctuation? at means
        split at means <;> cases means
      · exact ih _ behind value rfl
  | text _ _ ih =>
      rintro token (_ | ⟨_, behind⟩)
      · rintro _ ⟨⟩
        rfl
      · exact ih token behind
  | word means _ _ ih =>
      rintro token (_ | ⟨_, behind⟩)
      · rintro _ ⟨⟩
        cases means <;> rfl
      · exact ih token behind

/-- The tokens of items, each with the comma behind it. -/
def takenItems (items : List Json) : List Token :=
  items.flatMap fun item => item.tokens ++ [.comma]

/-- The tokens of members, each with the comma behind it. -/
def takenMembers (members : List (JsonText × Json)) : List Token :=
  members.flatMap fun member => .atom (.string member.1) :: .colon :: (member.2.tokens ++ [.comma])

/-- The tokens taken of an unfinished array or object. -/
def Frame.taken : Frame → List Token
  | .items before => .openArray :: takenItems before.reverse
  | .member before key =>
      .openObject :: (takenMembers before.reverse ++ [.atom (.string key), .colon])

/-- The tokens taken of unfinished arrays and objects within each other, innermost first. -/
def takenOf : List Frame → List Token
  | [] => []
  | frame :: stack => takenOf stack ++ frame.taken

/-- The tokens taken on the way to a place. -/
def Place.taken : Place → List Token
  | .atValue stack => takenOf stack
  | .atFirstItem stack => takenOf stack ++ [.openArray]
  | .atFirstKey stack => takenOf stack ++ [.openObject]
  | .atKey stack before => takenOf stack ++ .openObject :: takenMembers before.reverse
  | .atColon stack before key =>
      takenOf stack ++ .openObject :: (takenMembers before.reverse ++ [.atom (.string key)])
  | .finished stack value => takenOf stack ++ value.tokens

/-! ### The ends of arrays and objects -/

theorem itemTokens_append (items : List Json) (last : Json) :
    itemTokens (items ++ [last]) =
      .comma :: (takenItems items ++ (last.tokens ++ [.closeArray])) := by
  induction items with
  | nil => rfl
  | cons item items ih =>
      rw [List.cons_append, itemTokens, ih, takenItems, takenItems, List.flatMap_cons]
      simp only [List.append_assoc, List.cons_append, List.nil_append]

theorem tokens_array_append (items : List Json) (last : Json) :
    (Json.array (items ++ [last])).tokens =
      .openArray :: (takenItems items ++ (last.tokens ++ [.closeArray])) := by
  cases items with
  | nil => rfl
  | cons item items =>
      rw [List.cons_append, tokens, itemTokens_append, takenItems, takenItems, List.flatMap_cons]
      simp only [List.append_assoc, List.cons_append, List.nil_append]

theorem memberTokens_append (members : List (JsonText × Json)) (key : JsonText) (last : Json) :
    memberTokens (members ++ [(key, last)]) =
      .comma :: (takenMembers members ++
        .atom (.string key) :: .colon :: (last.tokens ++ [.closeObject])) := by
  induction members with
  | nil => rfl
  | cons member members ih =>
      rw [List.cons_append, memberTokens, ih, takenMembers, takenMembers, List.flatMap_cons]
      simp only [List.append_assoc, List.cons_append, List.nil_append]

theorem tokens_object_append (members : List (JsonText × Json)) (key : JsonText) (last : Json) :
    (Json.object (members ++ [(key, last)])).tokens =
      .openObject :: (takenMembers members ++
        .atom (.string key) :: .colon :: (last.tokens ++ [.closeObject])) := by
  cases members with
  | nil => rfl
  | cons member members =>
      rw [List.cons_append, tokens, memberTokens_append, takenMembers, takenMembers,
        List.flatMap_cons]
      simp only [List.append_assoc, List.cons_append, List.nil_append]

/-! ### Steps -/

section Steps

variable {next : Place} {stack : List Frame} {token : Token}

theorem taken_begin (simple : token.Simple) (begun : Place.begin stack token = some next) :
    next.taken = takenOf stack ++ [token] := by
  cases token with
  | atom value =>
      cases begun
      rw [Place.taken, simple value rfl]
  | openArray =>
      cases begun
      rfl
  | openObject =>
      cases begun
      rfl
  | closeArray => cases begun
  | closeObject => cases begun
  | comma => cases begun
  | colon => cases begun

theorem taken_continueAfter {frame : Frame} {value : Json}
    (continued : Place.continueAfter value stack frame token = some next) :
    next.taken = takenOf stack ++ frame.taken ++ value.tokens ++ [token] := by
  unfold Place.continueAfter at continued
  split at continued
  · next before =>
    cases continued
    simp [Place.taken, takenOf, Frame.taken, takenItems]
  · next before =>
    cases continued
    rw [Place.taken, List.reverse_cons, tokens_array_append, Frame.taken]
    simp only [List.append_assoc, List.cons_append]
  · next before key =>
    cases continued
    simp [Place.taken, Frame.taken, takenMembers]
  · next before key =>
    cases continued
    rw [Place.taken, List.reverse_cons, tokens_object_append, Frame.taken]
    simp only [List.append_assoc, List.cons_append, List.nil_append]
  · cases continued

/-- **A step takes its token and no other.** -/
theorem taken_step {place : Place} (simple : token.Simple) (step : place.step token = some next) :
    next.taken = place.taken ++ [token] := by
  unfold Place.step at step
  split at step
  · exact taken_begin simple step
  · cases step
    simp [Place.taken, tokens]
  · rw [taken_begin simple step]
    rfl
  · cases step
    simp [Place.taken, tokens]
  · cases step
    simp [Place.taken, takenMembers]
  · cases step
    simp [Place.taken]
  · cases step
    simp [Place.taken, takenOf, Frame.taken]
  · rw [taken_continueAfter step]
    rfl
  · cases step

end Steps

/-- What the reader has taken at the end is what it had taken and the tokens behind that. -/
theorem taken_run {place last : Place} {tokens : List Token}
    (simple : ∀ token ∈ tokens, token.Simple) (run : place.run tokens = some last) :
    last.taken = place.taken ++ tokens := by
  induction tokens generalizing place with
  | nil =>
      obtain rfl := Option.some.inj run
      exact (List.append_nil _).symm
  | cons token tokens ih =>
      rw [Place.run] at run
      split at run
      · cases run
      · next next step =>
        rw [ih (fun other member => simple other (List.mem_cons_of_mem _ member)) run,
          taken_step (simple token List.mem_cons_self) step, List.append_assoc]
        rfl

/-! ## Documents -/

theorem ofTokens?_tokens (value : Json) : ofTokens? value.tokens = some value := by
  have read := run_tokens value [] []
  rw [List.append_nil] at read
  rw [ofTokens?, read]
  rfl

/-- Simple tokens are read as the value whose tokens they are. -/
theorem ofTokens?_eq_some_iff {tokens : List Token} {value : Json}
    (simple : ∀ token ∈ tokens, token.Simple) :
    ofTokens? tokens = some value ↔ tokens = value.tokens := by
  constructor
  · intro read
    -- at the end nothing is unfinished, so what has been taken is the value
    unfold ofTokens? at read
    split at read
    · next last run =>
      obtain rfl := Option.some.inj read
      exact (taken_run simple run).symm
    · cases read
  · rintro rfl
    exact ofTokens?_tokens value

/-- **A document is read as a value exactly if it spells the tokens of that value.** -/
theorem parse?_eq_some_iff {document : String} {value : Json} :
    parse? document = some value ↔ Spells value.tokens document.toList := by
  rw [parse?, ofDocument?, Option.bind_eq_some_iff]
  constructor
  · rintro ⟨tokens, found, read⟩
    have spells := tokens?_eq_some_iff.mp found
    rwa [← (ofTokens?_eq_some_iff spells.simple).mp read]
  · intro spells
    exact ⟨value.tokens, tokens?_eq_some_iff.mpr spells, ofTokens?_tokens value⟩

end ReplicaSync.Json
