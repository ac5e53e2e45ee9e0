import SeriesQuery.Proofs.Series.Cursor

set_option autoImplicit false

/-!
# The place of a reading

A reading can keep the whole series and the place of the next point in it, in place of the points that
are left. It tells the same values. The place never goes past the end of the series, so the number of
points from it on can be counted after every reading, and that number does not grow. Over an increasing
series and increasing seconds it is the number of points later than the second wanted last.
-/

namespace SeriesQuery.Series

/-! ## Readings in turn, with what they leave -/

/-- What a forward reading tells for wanted seconds in turn, each time with the points that it leaves. -/
def readings (points : List Point) : List Int64 → List (Int64 × List Point)
  | [] => []
  | target :: rest => valueAt points target :: readings (valueAt points target).2 rest

theorem length_valueAt_le (points : List Point) (target : Int64) :
    (valueAt points target).2.length ≤ points.length := by
  induction points with
  | nil => exact Nat.le_refl 0
  | cons point rest ih =>
      by_cases older : point.time < target
      · simp only [valueAt_cons_of_lt older, List.length_cons]
        exact Nat.le_succ_of_le ih
      · simp only [valueAt_cons_of_not_lt older]
        split
        · exact Nat.le_succ rest.length
        · exact Nat.le_refl _

/-- No reading leaves more points than one before it, whatever the order of the series and of the wanted
seconds. -/
theorem lengths_readings (points : List Point) (wanted : List Int64) :
    (points.length :: (readings points wanted).map fun reading => reading.2.length).Pairwise
      (· ≥ ·) := by
  induction wanted generalizing points with
  | nil => exact List.pairwise_singleton _ _
  | cons target rest ih =>
      have fewer := length_valueAt_le points target
      have later := ih (valueAt points target).2
      refine List.pairwise_cons.mpr ⟨?_, later⟩
      intro count member
      obtain ⟨fromNext, _⟩ := List.pairwise_cons.mp later
      cases List.mem_cons.mp member with
      | inl next => exact next ▸ fewer
      | inr after => exact Nat.le_trans (fromNext count after) fewer

/-- Over an increasing series, increasing seconds each get what was counted in them, and the points
later than them are left. -/
theorem readings_of_increasing {points : List Point} (increasing : Increasing points)
    {wanted : List Int64} (ascending : wanted.Pairwise (· < ·)) :
    readings points wanted = wanted.map fun target =>
      (totalAt target points, points.filter fun point => target < point.time) := by
  induction wanted generalizing points with
  | nil => rfl
  | cons first rest ih =>
      obtain ⟨afterFirst, restAscending⟩ := List.pairwise_cons.mp ascending
      simp only [readings, valueAt_of_increasing increasing, List.map_cons]
      rw [ih (increasing.filter _) restAscending]
      congr 1
      apply List.map_congr_left
      intro target member
      have firstBefore := afterFirst target member
      -- What the first reading passes over is not later than any of the other seconds.
      have counted : totalAt target (points.filter fun point => first < point.time) =
          totalAt target points := by
        rw [totalAt_filter target (fun time => first < time), if_pos (decide_eq_true firstBefore)]
      have left : (points.filter fun point => first < point.time).filter
          (fun point => target < point.time) = points.filter fun point => target < point.time := by
        rw [List.filter_filter]
        apply List.filter_congr
        intro point _
        by_cases later : target < point.time
        · have pointAfter : first < point.time := Int64.lt_trans firstBefore later
          simp [later, pointAfter]
        · simp [later]
      rw [counted, left]

/-! ## Cursors -/

/-- A series and the place of the next point to read in it. -/
structure Cursor where
  points : List Point
  place : Nat

namespace Cursor

def start (points : List Point) : Cursor where
  points
  place := 0

def left (cursor : Cursor) : List Point :=
  cursor.points.drop cursor.place

def next (cursor : Cursor) : Cursor :=
  { cursor with place := cursor.place + 1 }

/-- The number of points that are neither used nor passed over: those of the series less those before
the place. A place past the end has no such number. -/
def remaining? (cursor : Cursor) : Option Nat :=
  if cursor.place ≤ cursor.points.length then some (cursor.points.length - cursor.place) else none

/-- The value at a wanted second, and the cursor after it was read. -/
def read (cursor : Cursor) (target : Int64) : Int64 × Cursor :=
  match _found : cursor.points[cursor.place]? with
  | none => (0, cursor)
  | some point =>
    if point.time < target then cursor.next.read target
    else if point.time = target then (point.value, cursor.next)
    else (0, cursor)
termination_by cursor.points.length - cursor.place
decreasing_by
  obtain ⟨inside, _⟩ := List.getElem?_eq_some_iff.mp _found
  simp only [next]
  omega

/-- What a cursor tells for wanted seconds in turn: the value, and the number of points that remain. -/
def replies (cursor : Cursor) : List Int64 → List (Int64 × Option Nat)
  | [] => []
  | target :: rest =>
    let (value, after) := cursor.read target
    (value, after.remaining?) :: after.replies rest

def Inside (cursor : Cursor) : Prop :=
  cursor.place ≤ cursor.points.length

section

variable {cursor : Cursor}

theorem inside_start (points : List Point) : (start points).Inside :=
  Nat.zero_le _

theorem left_of_some {point : Point} (found : cursor.points[cursor.place]? = some point) :
    cursor.left = point :: cursor.next.left := by
  obtain ⟨inside, rfl⟩ := List.getElem?_eq_some_iff.mp found
  exact List.drop_eq_getElem_cons inside

theorem left_of_none (ended : cursor.points[cursor.place]? = none) : cursor.left = [] :=
  List.drop_eq_nil_of_le (List.getElem?_eq_none_iff.mp ended)

theorem Inside.next_of_some {point : Point} (found : cursor.points[cursor.place]? = some point) :
    cursor.next.Inside := by
  obtain ⟨inside, _⟩ := List.getElem?_eq_some_iff.mp found
  exact inside

theorem Inside.remaining?_eq (inside : cursor.Inside) :
    cursor.remaining? = some cursor.left.length := by
  simp only [remaining?, left, List.length_drop]
  exact if_pos inside

/-- A cursor that stands in its series or at its end does so after a reading. -/
theorem Inside.read (inside : cursor.Inside) (target : Int64) : (cursor.read target).2.Inside := by
  fun_induction Cursor.read cursor target with
  | case1 => exact inside
  | case2 cursor point found _ ih => exact ih (.next_of_some found)
  | case3 cursor point found => exact .next_of_some found
  | case4 => exact inside

/-- A cursor tells and leaves what the reading of the points from its place on does. -/
theorem valueAt_left (cursor : Cursor) (target : Int64) :
    valueAt cursor.left target = ((cursor.read target).1, (cursor.read target).2.left) := by
  fun_induction Cursor.read cursor target with
  | case1 cursor ended =>
      simp only [left_of_none ended]
      rfl
  | case2 cursor point found older ih =>
      rw [left_of_some found, valueAt_cons_of_lt older, ih]
  | case3 cursor point found notOlder here =>
      rw [left_of_some found, valueAt_cons_of_not_lt notOlder, if_pos here]
  | case4 cursor point found notOlder elsewhere =>
      rw [left_of_some found, valueAt_cons_of_not_lt notOlder, if_neg elsewhere]

theorem Inside.replies_eq (inside : cursor.Inside) (wanted : List Int64) :
    cursor.replies wanted =
      (readings cursor.left wanted).map fun reading => (reading.1, some reading.2.length) := by
  induction wanted generalizing cursor with
  | nil => rfl
  | cons target rest ih =>
      have after := inside.read target
      simp only [replies, readings, valueAt_left, after.remaining?_eq, ih after, List.map_cons]

end

/-- A cursor from the start of a series tells what a forward reading tells and counts what it leaves, for
every series and all wanted seconds: the count is always defined and never grows. If the series and the
seconds are increasing, each second gets the value of the point at it, or 0, and the points later than it
remain. -/
theorem replies_start (points : List Point) (wanted : List Int64) :
    (start points).replies wanted =
        (readings points wanted).map (fun reading => (reading.1, some reading.2.length)) ∧
      (points.length :: (readings points wanted).map fun reading => reading.2.length).Pairwise
        (· ≥ ·) ∧
      (Increasing points → wanted.Pairwise (· < ·) →
        (start points).replies wanted = wanted.map fun target =>
          (valueOf target points, some (points.countP fun point => target < point.time))) := by
  have told := (inside_start points).replies_eq wanted
  refine ⟨told, lengths_readings points wanted, ?_⟩
  intro increasing ascending
  have found := readings_of_increasing increasing ascending
  calc (start points).replies wanted
      = (readings points wanted).map fun reading => (reading.1, some reading.2.length) := told
    _ = wanted.map fun target =>
          (valueOf target points, some (points.countP fun point => target < point.time)) := by
        simp only [found, List.map_map, Function.comp_def, increasing.totalAt_eq,
          List.countP_eq_length_filter]

theorem replies_start_gaps :
    let points : List Point := [⟨2, 9⟩, ⟨5, 1⟩, ⟨7, 2⟩, ⟨Int64.maxValue, 4⟩]
    let wanted : List Int64 := [4, 5, 6, Int64.maxValue]
    Increasing points ∧ wanted.Pairwise (· < ·) ∧
      (start points).replies wanted = [(0, some 3), (1, some 2), (0, some 2), (4, some 0)] := by
  intro points wanted
  have increasing : Increasing points := by decide
  have ascending : wanted.Pairwise (· < ·) := by decide
  have told := (replies_start points wanted).2.2 increasing ascending
  exact ⟨increasing, ascending, told.trans (by decide)⟩

end Cursor

end SeriesQuery.Series
