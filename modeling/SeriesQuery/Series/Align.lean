import SeriesQuery.Series.Point

set_option autoImplicit false

/-!
# Aligning a series to wanted seconds

A series is read forward against the seconds that an answer wants. A point is used when its second
is wanted; a point that is older than the wanted second is passed over; a newer one waits. Seconds
without a point have the value 0.
-/

namespace SeriesQuery.Series

/-- The value at a wanted second, and the points that are left for later seconds. -/
def valueAt (points : List Point) (target : Int64) : Int64 × List Point :=
  match points.dropWhile (·.time < target) with
  | [] => (0, [])
  | point :: rest => if point.time = target then (point.value, rest) else (0, point :: rest)

/-- The `count` seconds from `start` on. They wrap around at 64 bits. -/
def targets (start : Int64) (count : Nat) : List Int64 :=
  (List.range count).map fun offset => start + Int64.ofNat offset

/-- The values at wanted seconds in turn, after the values in `done`, which are in reverse. -/
def valuesAtFrom (done : List Int64) (points : List Point) : List Int64 → List Int64
  | [] => done.reverse
  | target :: rest =>
    let (value, left) := valueAt points target
    valuesAtFrom (value :: done) left rest

def valuesAt (points : List Point) (wanted : List Int64) : List Int64 :=
  valuesAtFrom [] points wanted

theorem valuesAtFrom_eq (done : List Int64) (points : List Point) (wanted : List Int64) :
    valuesAtFrom done points wanted = done.reverse ++ valuesAt points wanted := by
  induction wanted generalizing done points with
  | nil => simp [valuesAtFrom, valuesAt]
  | cons target rest ih =>
      simp only [valuesAt, valuesAtFrom]
      rw [ih, ih [(valueAt points target).1]]
      simp

@[simp] theorem valuesAt_nil (points : List Point) : valuesAt points [] = [] := rfl

theorem valuesAt_cons (points : List Point) (target : Int64) (rest : List Int64) :
    valuesAt points (target :: rest) =
      (valueAt points target).1 :: valuesAt (valueAt points target).2 rest := by
  show valuesAtFrom [(valueAt points target).1] (valueAt points target).2 rest = _
  rw [valuesAtFrom_eq]
  rfl

def fillDense (points : List Point) (start : Int64) (count : Nat) : List Point :=
  let wanted := targets start count
  List.zipWith Point.mk wanted (valuesAt points wanted)

end SeriesQuery.Series
