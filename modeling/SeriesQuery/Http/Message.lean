import SeriesQuery.Error
import SeriesQuery.Json.Printer
import SeriesQuery.Text.Letter

set_option autoImplicit false

/-!
# Requests and responses

What the service sees of an HTTP request and what it sends back. Header names are compared without
regard to letter case; a header whose value has a control character in it counts as absent.
-/

namespace SeriesQuery.Http

open SeriesQuery.Text

inductive Method where
  | get
  | head
  | post
  | options
  | other (name : String)
  deriving DecidableEq, Repr

/-- The method of a name. Case matters in it. -/
def Method.ofName (name : String) : Method :=
  if name = "GET" then .get
  else if name = "HEAD" then .head
  else if name = "POST" then .post
  else if name = "OPTIONS" then .options
  else .other name

structure Request where
  method : Method
  /-- What is asked for: a path with an optional query string and fragment. -/
  target : String
  /-- The headers, by name, in the order in which they were sent. -/
  headers : List (String × String)
  body : List UInt8
  deriving DecidableEq, Repr

/-- Whether a text can be the value of a header: of the control characters it may hold the tab
alone. -/
def isHeaderValue (value : String) : Bool :=
  value.toList.all fun c => c == '\t' || (32 ≤ c.toNat && c.toNat != 127)

/-- The value of the first header of a name that has a proper value. -/
def Request.header? (request : Request) (name : String) : Option String :=
  (request.headers.find? fun (given, value) => sameLetters given name && isHeaderValue value).map
    Prod.snd

/-- The content type of a request. One with characters outside ASCII counts as absent. -/
def Request.contentType? (request : Request) : Option String :=
  (request.header? "content-type").filter fun value => value.toList.all fun c => c.toNat < 128

inductive Body where
  | empty
  | json (value : Json)
  | samples (values : List (String × Nat))

/-- The text of a body. A page of samples has a line for each of them. -/
def Body.text : Body → String
  | .empty => ""
  | .json value => value.compact
  | .samples values =>
    String.join (values.map fun (name, value) => name ++ " " ++ Numeral.natText value ++ "\n")

structure Response where
  status : Nat
  /-- The headers, by name in lower case. -/
  headers : List (String × String)
  body : Body

namespace Response

/-- A response that says nothing but its status. -/
def plain (status : Nat) : Response := ⟨status, [], .empty⟩

def ofJson (status : Nat) (value : Json) : Response :=
  ⟨status, [("content-type", "application/json")], .json value⟩

def ofSamples (values : List (String × Nat)) : Response :=
  ⟨200, [("content-type", "text/plain; version=0.0.4")], .samples values⟩

def ofError (error : Error) : Response :=
  ofJson error.status (Json.ofMembers [("error", Json.ofText error.message)])

/-- The response to an outcome, whose value is told as `encode` writes it. -/
def ofOutcome {Value : Type} (encode : Value → Json) : Except Error Value → Response
  | .ok value => ofJson 200 (encode value)
  | .error error => ofError error

def withHeaders (response : Response) (headers : List (String × String)) : Response :=
  { response with headers := response.headers ++ headers }

def withoutBody (response : Response) : Response :=
  { response with body := .empty }

end Response

end SeriesQuery.Http
