import SeriesQuery.Text.Split

set_option autoImplicit false

/-!
# Dotted names

Contexts, metric names and tags are dotted: `app.f.flow` lies under `app.f` and under `app`, but not
under `app.fl`. Every name lies under the empty prefix.
-/

namespace SeriesQuery.Text.Dotted

/-- Whether a dotted name lies under a dotted prefix: it is the prefix or goes on after it with a
dot. -/
def isUnder (name above : String) : Bool :=
  above.isEmpty ||
    match after? above.toList name.toList with
    | some [] => true
    | some (c :: _) => c == '.'
    | none => false

/-- The components of a dotted name, at least one. -/
def components (name : String) : List (List Char) :=
  pieces '.' name.toList

def join (left right : String) : String :=
  left ++ "." ++ right

end SeriesQuery.Text.Dotted
