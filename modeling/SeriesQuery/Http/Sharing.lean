import SeriesQuery.Http.Message

set_option autoImplicit false

/-!
# Sharing responses with other origins

Pages of other origins may read responses if the service says so. It says so to all of them if no
origins are configured, else to those that are.
-/

namespace SeriesQuery.Http

/-- What stands for every origin in a header. -/
def everyOrigin : String := "*"

/-- Whether origins can be listed as those that responses are shared with. What stands for all of them
is not an origin to be listed. -/
def canList (origins : List String) : Bool :=
  !(origins.filter isHeaderValue).contains everyOrigin

theorem canList_iff {origins : List String} : canList origins = true ↔ everyOrigin ∉ origins := by
  have proper : isHeaderValue everyOrigin = true := by decide
  simp [canList, proper]

/-- The header that says who may read a response. -/
def sharedWith (origins : List String) (request : Request) : List (String × String) :=
  let shared : Option String :=
    if origins.isEmpty then some "*"
    else (request.header? "origin").filter fun origin =>
      (origins.filter isHeaderValue).contains origin
  shared.toList.map fun value => ("access-control-allow-origin", value)

/-- The headers that say which requests pages of other origins may make. -/
def permissions : List (String × String) :=
  [("access-control-allow-methods", "GET,POST,OPTIONS"), ("access-control-allow-headers", "*")]

end SeriesQuery.Http
