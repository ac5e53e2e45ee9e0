import SeriesQuery.Json.Token

set_option autoImplicit false

/-!
# Reading JSON

A list of tokens becomes a value. The reader keeps the arrays and objects that are still open as a
stack of frames, and what may come next as a mode; each token moves it one step. A text is read if
it ends when one value is complete and nothing is open.
-/

namespace SeriesQuery.Json

open SeriesQuery.Text

/-- An array or object that is still open, with what it holds so far, the latest first. -/
inductive Frame where
  | array (items : List Json)
  /-- An object before the value of `key`. -/
  | member (members : List (Option String × Json)) (key : Option String)
  deriving Repr

inductive Mode where
  | value
  /-- The first item of an array, or its end. -/
  | firstItem
  /-- The first key of an object, or its end. -/
  | firstKey
  | key (members : List (Option String × Json))
  | colon (members : List (Option String × Json)) (key : Option String)
  /-- What follows a complete value: a comma, the end of what is open, or the end of the text. -/
  | after (value : Json)
  deriving Repr

structure State where
  /-- What is open, innermost first. -/
  frames : List Frame
  mode : Mode
  deriving Repr

/-- Takes a token that starts or is a value. -/
def State.begin (frames : List Frame) : Token → Option State
  | .openArray => some ⟨frames, .firstItem⟩
  | .openObject => some ⟨frames, .firstKey⟩
  | .null => some ⟨frames, .after .null⟩
  | .bool value => some ⟨frames, .after (.bool value)⟩
  | .number written => some ⟨frames, .after (.number written)⟩
  | .string content => some ⟨frames, .after (.string content)⟩
  | .closeArray | .closeObject | .comma | .colon => none

def State.afterValue (frames : List Frame) (value : Json) (token : Token) : Option State :=
  match frames, token with
  | .array items :: frames, .comma => some ⟨.array (value :: items) :: frames, .value⟩
  | .array items :: frames, .closeArray =>
    some ⟨frames, .after (.array (value :: items).reverse)⟩
  | .member members key :: frames, .comma => some ⟨frames, .key ((key, value) :: members)⟩
  | .member members key :: frames, .closeObject =>
    some ⟨frames, .after (.object ((key, value) :: members).reverse)⟩
  | _, _ => none

/-- Takes the next token; none if it may not come here. -/
def State.step (state : State) (token : Token) : Option State :=
  match state.mode, token with
  | .value, token => State.begin state.frames token
  | .firstItem, .closeArray => some ⟨state.frames, .after (.array [])⟩
  | .firstItem, token => State.begin (.array [] :: state.frames) token
  | .firstKey, .closeObject => some ⟨state.frames, .after (.object [])⟩
  | .firstKey, .string key => some ⟨state.frames, .colon [] key⟩
  | .firstKey, _ => none
  | .key members, .string key => some ⟨state.frames, .colon members key⟩
  | .key _, _ => none
  | .colon members key, .colon => some ⟨.member members key :: state.frames, .value⟩
  | .colon _ _, _ => none
  | .after value, token => State.afterValue state.frames value token

def State.run (state : State) : List Token → Option State
  | [] => some state
  | token :: rest =>
    match state.step token with
    | some next => next.run rest
    | none => none

def ofTokens? (tokens : List Token) : Option Json :=
  match State.run ⟨[], .value⟩ tokens with
  | some ⟨[], .after value⟩ => some value
  | _ => none

/-- The value that bytes write. Ill-formed parts may stand in strings, which then have no text. -/
def readBytes? (bytes : List UInt8) : Option Json :=
  (tokens (Utf8.parts bytes)).bind ofTokens?

def read? (text : List Char) : Option Json :=
  (tokens (text.map some)).bind ofTokens?

end SeriesQuery.Json
