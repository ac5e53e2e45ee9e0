import SeriesQuery.Http.Message
import SeriesQuery.Text.Split

set_option autoImplicit false

/-!
# Routes

Which resource the target of a request names. A target may name a scheme and a host first, which
have no say. Paths are compared as they are written, so nothing in them is decoded here, and a slash
more or less makes another path. All that stands below the API's path is the URI of a query.
-/

namespace SeriesQuery.Http

open SeriesQuery.Text

/-- The target of a request, without its fragment. -/
structure Target where
  path : List Char
  /-- The text after the first question mark, if there is one. -/
  query : Option (List Char)
  deriving DecidableEq, Repr

/-- Whether a character may stand in the name of a scheme. -/
def isSchemeChar (c : Char) : Bool :=
  c.isAlphanum || c == '+' || c == '-' || c == '.' || c == '~'

/-- The text after a scheme and the host that follows it, if there is a scheme. The host ends where
the path or the query starts. -/
def afterHost? (text : List Char) : Option (List Char) :=
  (after? "://".toList (text.dropWhile isSchemeChar)).map fun host =>
    host.dropWhile fun c => c != '/' && c != '?'

/-- The target that a text writes. After a host, an empty path stands for the topmost one. -/
def Target.ofText (text : String) : Target :=
  let whole := (cut '#' text.toList).1
  match afterHost? whole with
  | none =>
    let (path, query) := cut '?' whole
    ⟨path, query⟩
  | some below =>
    let (path, query) := cut '?' below
    ⟨if path = [] then ['/'] else path, query⟩

inductive Route where
  | health
  | counters
  | batch
  | single (uri : String)
  deriving DecidableEq, Repr

namespace Route

def apiPath : String := "/api/v1/metrics"

/-- The URI of a query, from the path below the API's path and the query string. Slashes that the
path starts with do not belong to the URI. -/
def uriBelow (path : List Char) (query : Option (List Char)) : String :=
  String.ofList (path.dropWhile (· = '/') ++
    match query with
    | some query => '?' :: query
    | none => [])

def ofTarget? (target : Target) : Option Route :=
  if target.path = "/health".toList then some .health
  else if target.path = "/metrics".toList then some .counters
  else if target.path = apiPath.toList then some .batch
  else
    match after? (apiPath ++ "/").toList target.path with
    | none | some [] => none
    | some below => some (.single (uriBelow below target.query))

/-- The methods that a resource has, as a header lists them. Asking for the head of a resource that
can be got is always possible. -/
def allow : Route → String
  | .batch => "POST"
  | _ => "GET,HEAD"

end Route

end SeriesQuery.Http
