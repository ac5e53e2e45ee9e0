import SeriesQuery.Query.Refusal
import SeriesQuery.Text.Blank
import SeriesQuery.Text.Percent
import SeriesQuery.Text.Split

set_option autoImplicit false

/-!
# The two halves of a metrics URI

A URI is trimmed, loses its fragment, and is cut at its first question mark into a path and a query
string. The path is a list of segments: empty ones are left out, each other one is percent-decoded
on its own. A segment that decodes to one dot or two is refused rather than resolved.
-/

namespace SeriesQuery.Query

open SeriesQuery.Text

/-- The path and the query string of a URI, both as written. -/
def splitUri (uri : List Char) : List Char × List Char :=
  let (path, query) := cut '?' (cut '#' (trim uri)).1
  (path, query.getD [])

/-- The segment that a non-empty piece of a path writes. -/
def segment (raw : List Char) : Except Refusal String :=
  match Utf8.decode? (Percent.decode raw) with
  | none => .error (.notUtf8 (String.ofList raw))
  | some text =>
    if text = ['.'] ∨ text = ['.', '.'] then .error (.dotSegment (String.ofList raw))
    else .ok (String.ofList text)

/-- The segments of a path, in order. The first piece that is refused refuses the path. -/
def segments (path : List Char) : Except Refusal (List String) :=
  ((pieces '/' path).filter (· ≠ [])).mapM segment

end SeriesQuery.Query
