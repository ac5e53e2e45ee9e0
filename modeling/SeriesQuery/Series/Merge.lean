import SeriesQuery.Series.Point

set_option autoImplicit false

/-!
# Merging rows of points

Rows of points become one series. `interleave` takes, again and again, the earliest of the points
that stand first in their rows, and of points at one second that of the first row; `sumRuns` adds up
neighbours at one second. Rows without points do not count, and if only one row has points the
series is that row as it is.
-/

namespace SeriesQuery.Series

/-- The earliest of the points that stand first in their rows, with the rows left after it is taken.
There is none if no row has a point. -/
def takeEarliest : List (List Point) → Option (Point × List (List Point))
  | [] => none
  | [] :: rows => takeEarliest rows
  | (point :: row) :: rows =>
    match takeEarliest rows with
    | none => some (point, row :: rows)
    | some (other, left) =>
      if other.time < point.time then some (other, (point :: row) :: left)
      else some (point, row :: rows)

def pointCount (rows : List (List Point)) : Nat :=
  rows.flatten.length

theorem pointCount_of_takeEarliest {rows left : List (List Point)} {point : Point}
    (taken : takeEarliest rows = some (point, left)) : pointCount left < pointCount rows := by
  induction rows generalizing point left with
  | nil => simp [takeEarliest] at taken
  | cons row rows ih =>
      cases row with
      | nil =>
          have fewer := ih (by simpa [takeEarliest] using taken)
          simpa [pointCount] using fewer
      | cons first row =>
          simp only [takeEarliest] at taken
          split at taken
          · simp only [Option.some.injEq, Prod.mk.injEq] at taken
            rw [← taken.2]
            simp [pointCount]
          · next other others found =>
              have fewer := ih found
              split at taken <;> simp only [Option.some.injEq, Prod.mk.injEq] at taken <;>
                rw [← taken.2]
              · simpa [pointCount] using fewer
              · simp [pointCount]

/-- The points of all rows, each taken when it is the earliest that stands first. -/
def interleave (rows : List (List Point)) : List Point :=
  match _taken : takeEarliest rows with
  | none => []
  | some (point, left) => point :: interleave left
termination_by pointCount rows
decreasing_by exact pointCount_of_takeEarliest _taken

/-- Neighbours at one second become one point with the sum of their values. -/
def sumRuns : List Point → List Point
  | [] => []
  | [point] => [point]
  | point :: next :: rest =>
    if point.time = next.time then sumRuns (⟨point.time, point.value + next.value⟩ :: rest)
    else point :: sumRuns (next :: rest)
termination_by points => points.length

/-- The series of rows in general: interleaved, with the values of one second summed. -/
def combine (rows : List (List Point)) : List Point :=
  sumRuns (interleave rows)

/-- The series of rows. A single row with points is taken as it is. -/
def merge (rows : List (List Point)) : List Point :=
  match rows.filter (· ≠ []) with
  | [] => []
  | [row] => row
  | filled => combine filled

end SeriesQuery.Series
