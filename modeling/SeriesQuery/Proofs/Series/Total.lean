import SeriesQuery.Series.Point

set_option autoImplicit false

/-!
# Laws of wrapping sums

Sums of values follow the order and the grouping of points in no way: they are additive over
appended lists and the same for every permutation. The sum of a list is the exact integer sum of its
values, taken modulo the range of 64 bits.
-/

namespace SeriesQuery.Series

/-- The sum of values as integers, without a bound. -/
def exactSum : List Int64 → Int
  | [] => 0
  | value :: rest => value.toInt + exactSum rest

theorem exactSum_append (left right : List Int64) :
    exactSum (left ++ right) = exactSum left + exactSum right := by
  induction left with
  | nil => exact (Int.zero_add _).symm
  | cons value left ih => rw [List.cons_append, exactSum, ih, exactSum, Int.add_assoc]

theorem exactSum_zeros {Item : Type} (items : List Item) :
    exactSum (items.map fun _ => 0) = 0 := by
  induction items with
  | nil => rfl
  | cons item items ih =>
      rw [List.map_cons, exactSum, ih]
      rfl

theorem exactSum_perm {left right : List Int64} (same : left.Perm right) :
    exactSum left = exactSum right := by
  induction same with
  | nil => rfl
  | cons value _ ih => rw [exactSum, exactSum, ih]
  | swap first second rest =>
      simp only [exactSum]
      omega
  | trans _ _ leftIH rightIH => exact leftIH.trans rightIH

/-- The wrapping sum of the values of several lists is that of their wrapping sums. -/
theorem ofInt_exactSum_flatMap {Item : Type} (values : Item → List Int64) (items : List Item) :
    Int64.ofInt (exactSum (items.flatMap values)) =
      Int64.ofInt (exactSum (items.map fun item => Int64.ofInt (exactSum (values item)))) := by
  induction items with
  | nil => rfl
  | cons item items ih =>
      rw [List.flatMap_cons, List.map_cons, exactSum_append, exactSum, Int64.ofInt_add, ih,
        Int64.ofInt_add, Int64.ofInt_toInt]

/-- A running sum that wraps at each step wraps as the exact sum does. -/
theorem foldl_add_eq_ofInt_exactSum {Item : Type} (value : Item → Int64) (first : Int64)
    (items : List Item) :
    items.foldl (fun sum item => sum + value item) first =
      first + Int64.ofInt (exactSum (items.map value)) := by
  induction items generalizing first with
  | nil => simp [exactSum]
  | cons item items ih =>
      rw [List.foldl_cons, ih, List.map_cons, exactSum, Int64.ofInt_add, Int64.ofInt_toInt,
        Int64.add_assoc]

theorem total_eq_ofInt_exactSum (points : List Point) :
    total points = Int64.ofInt (exactSum (points.map (·.value))) := by
  rw [total, foldl_add_eq_ofInt_exactSum, Int64.zero_add]

@[simp] theorem total_nil : total [] = 0 := rfl

@[simp] theorem total_cons (point : Point) (rest : List Point) :
    total (point :: rest) = point.value + total rest := by
  simp [total_eq_ofInt_exactSum, exactSum]

@[simp] theorem total_append (left right : List Point) :
    total (left ++ right) = total left + total right := by
  induction left with
  | nil => simp
  | cons point left ih => rw [List.cons_append, total_cons, ih, total_cons, Int64.add_assoc]

theorem total_perm {left right : List Point} (same : left.Perm right) :
    total left = total right := by
  rw [total_eq_ofInt_exactSum, total_eq_ofInt_exactSum, exactSum_perm (same.map _)]

/-- Points that are kept for one of two reasons, but never for both, count once. -/
theorem total_filter_or {first second : Point → Bool}
    (apart : ∀ point, first point = true → second point = false) (points : List Point) :
    total (points.filter fun point => first point || second point) =
      total (points.filter first) + total (points.filter second) := by
  induction points with
  | nil => simp
  | cons point points ih =>
      cases isFirst : first point with
      | true =>
          have notSecond := apart point isFirst
          simp [isFirst, notSecond, ih, Int64.add_assoc]
      | false =>
          cases isSecond : second point with
          | true =>
              simp only [isFirst, isSecond, Bool.false_or, List.filter_cons_of_pos,
                List.filter_cons, total_cons, ih]
              grind
          | false => simpa [isFirst, isSecond] using ih

@[simp] theorem totalAt_nil (time : Int64) : totalAt time [] = 0 := rfl

theorem totalAt_cons (time : Int64) (point : Point) (rest : List Point) :
    totalAt time (point :: rest) =
      (if point.time = time then point.value else 0) + totalAt time rest := by
  by_cases here : point.time = time <;> simp [totalAt, here]

@[simp] theorem totalAt_append (time : Int64) (left right : List Point) :
    totalAt time (left ++ right) = totalAt time left + totalAt time right := by
  simp [totalAt]

theorem totalAt_perm (time : Int64) {left right : List Point} (same : left.Perm right) :
    totalAt time left = totalAt time right :=
  total_perm (same.filter _)

/-- A second without a point counts nothing. -/
theorem totalAt_eq_zero {time : Int64} {points : List Point}
    (absent : ∀ point ∈ points, point.time ≠ time) : totalAt time points = 0 := by
  have none : points.filter (·.time = time) = [] := by
    simpa [List.filter_eq_nil_iff] using absent
  rw [totalAt, none, total_nil]

/-- Points that are kept by their second count in full or not at all. -/
theorem totalAt_filter (time : Int64) (kept : Int64 → Bool) (points : List Point) :
    totalAt time (points.filter fun point => kept point.time) =
      if kept time then totalAt time points else 0 := by
  induction points with
  | nil => simp
  | cons point points ih =>
      by_cases here : point.time = time
      · subst here
        by_cases keep : kept point.time <;> simp_all [totalAt_cons]
      · by_cases keep : kept point.time <;> simp_all [totalAt_cons]

end SeriesQuery.Series
