import ReplicaSync.Json.Token

/-!
# Reading JSON documents

The tokens of a document are read with a stack of unfinished arrays and objects. The reader
knows at every place what may come next: a value, the first item or the end of an array, a key,
the first key or the end of an object, a colon, or what follows a finished value. The document
is complete when a value is finished and the stack is empty.
-/

set_option autoImplicit false

namespace ReplicaSync.Json

/-- An unfinished array or object. What it holds so far comes newest first. -/
inductive Frame where
  | items (before : List Json)
  /-- An object of which the value of a key is due. -/
  | member (before : List (JsonText × Json)) (key : JsonText)

/-- What may come next. -/
inductive Place where
  | atValue (stack : List Frame)
  | atFirstItem (stack : List Frame)
  | atFirstKey (stack : List Frame)
  | atKey (stack : List Frame) (before : List (JsonText × Json))
  | atColon (stack : List Frame) (before : List (JsonText × Json)) (key : JsonText)
  | finished (stack : List Frame) (value : Json)

namespace Place

/-- Takes a token that begins a value. -/
def begin (stack : List Frame) : Token → Option Place
  | .atom value => some (.finished stack value)
  | .openArray => some (.atFirstItem stack)
  | .openObject => some (.atFirstKey stack)
  | _ => none

/-- Takes the token after a value that is finished inside an array or object. -/
def continueAfter (value : Json) (stack : List Frame) : Frame → Token → Option Place
  | .items before, .comma => some (.atValue (.items (value :: before) :: stack))
  | .items before, .closeArray => some (.finished stack (.array (value :: before).reverse))
  | .member before key, .comma => some (.atKey stack ((key, value) :: before))
  | .member before key, .closeObject =>
      some (.finished stack (.object ((key, value) :: before).reverse))
  | _, _ => none

/-- Takes one token. -/
def step : Place → Token → Option Place
  | .atValue stack, token => begin stack token
  | .atFirstItem stack, .closeArray => some (.finished stack (.array []))
  | .atFirstItem stack, token => begin (.items [] :: stack) token
  | .atFirstKey stack, .closeObject => some (.finished stack (.object []))
  | .atFirstKey stack, .atom (.string key) => some (.atColon stack [] key)
  | .atKey stack before, .atom (.string key) => some (.atColon stack before key)
  | .atColon stack before key, .colon => some (.atValue (.member before key :: stack))
  | .finished (frame :: stack) value, token => continueAfter value stack frame token
  | _, _ => none

/-- Takes one token after the other. -/
def run : Place → List Token → Option Place
  | place, [] => some place
  | place, token :: rest =>
      match place.step token with
      | none => none
      | some next => run next rest

end Place

/-- The value that a sequence of tokens denotes. -/
def ofTokens? (tokens : List Token) : Option Json :=
  match Place.run (.atValue []) tokens with
  | some (.finished [] value) => some value
  | _ => none

/-- The value of a document. -/
def ofDocument? (characters : List Char) : Option Json :=
  (tokens? characters).bind ofTokens?

/-- The value of a document given as a text. -/
def parse? (document : String) : Option Json :=
  ofDocument? document.toList

end ReplicaSync.Json
