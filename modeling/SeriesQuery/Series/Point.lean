import SeriesQuery.Text.Numeral

set_option autoImplicit false

/-!
# Points

A point is a second and the value counted in it. Seconds and values are signed 64-bit numbers;
arithmetic on both wraps around.
-/

namespace SeriesQuery.Series

structure Point where
  /-- The second, counted from the Unix epoch. -/
  time : Int64
  value : Int64
  deriving DecidableEq, Repr

/-- A point as text: its value, `@`, and its second. -/
def Point.text (point : Point) : String :=
  Text.Numeral.int64Text point.value ++ "@" ++ Text.Numeral.int64Text point.time

/-- The wrapping sum of the values of a list of points. -/
def total (points : List Point) : Int64 :=
  points.foldl (fun sum point => sum + point.value) 0

/-- The wrapping sum of the values at one second. -/
def totalAt (time : Int64) (points : List Point) : Int64 :=
  total (points.filter (·.time = time))

/-- Each point is later than the one before it. -/
def Increasing (points : List Point) : Prop :=
  points.Pairwise fun earlier later => earlier.time < later.time

end SeriesQuery.Series
