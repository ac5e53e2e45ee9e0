import SeriesQuery.Proofs.Series.Merge

set_option autoImplicit false

/-!
# The short way and the general way of merging

A merged series has exactly the seconds of its rows and counts in each what the rows count in it. Of
rows in the order of time, the general way makes an increasing series, which is settled by its seconds
and by what it counts in them. A single row with points is taken as it is instead. That gives the same
series if and only if the row has no second twice: with repeats it is merged into itself, and the
repeats stay.
-/

namespace SeriesQuery.Series

/-- A series has a point at a second. -/
def HasSecond (time : Int64) (points : List Point) : Prop :=
  ∃ point ∈ points, point.time = time

@[simp] theorem not_hasSecond_nil (time : Int64) : ¬ HasSecond time [] := by
  simp [HasSecond]

theorem hasSecond_cons {time : Int64} {point : Point} {rest : List Point} :
    HasSecond time (point :: rest) ↔ point.time = time ∨ HasSecond time rest := by
  simp [HasSecond]

theorem hasSecond_perm {left right : List Point} (same : left.Perm right) (time : Int64) :
    HasSecond time left ↔ HasSecond time right := by
  simp only [HasSecond, same.mem_iff]

theorem hasSecond_flatten {time : Int64} {rows : List (List Point)} :
    HasSecond time rows.flatten ↔ ∃ row ∈ rows, HasSecond time row := by
  constructor
  · rintro ⟨point, member, same⟩
    obtain ⟨row, isRow, inRow⟩ := List.mem_flatten.mp member
    exact ⟨row, isRow, point, inRow, same⟩
  · rintro ⟨row, isRow, point, inRow, same⟩
    exact ⟨point, List.mem_flatten.mpr ⟨row, isRow, inRow⟩, same⟩

/-! ## Seconds of a merged series -/

theorem hasSecond_sumRuns (time : Int64) (points : List Point) :
    HasSecond time (sumRuns points) ↔ HasSecond time points := by
  fun_induction sumRuns points with
  | case1 => rfl
  | case2 point => rfl
  | case3 point next rest same ih =>
      rw [ih, hasSecond_cons, hasSecond_cons, hasSecond_cons, ← same, ← or_assoc, or_self]
  | case4 point next rest different ih => rw [hasSecond_cons, ih, ← hasSecond_cons]

theorem hasSecond_combine (time : Int64) (rows : List (List Point)) :
    HasSecond time (combine rows) ↔ HasSecond time rows.flatten := by
  rw [combine, hasSecond_sumRuns, hasSecond_perm (interleave_perm rows)]

theorem totalAt_combine (time : Int64) (rows : List (List Point)) :
    totalAt time (combine rows) = totalAt time rows.flatten := by
  rw [combine, totalAt_sumRuns, totalAt_perm time (interleave_perm rows)]

theorem combine_increasing {rows : List (List Point)} (ordered : ∀ row ∈ rows, Ordered row) :
    Increasing (combine rows) :=
  sumRuns_increasing (interleave_ordered ordered)

theorem hasSecond_merge (time : Int64) (rows : List (List Point)) :
    HasSecond time (merge rows) ↔ HasSecond time rows.flatten := by
  rw [← flatten_filter_ne_nil rows, merge]
  split
  · next none => rw [none, List.flatten_nil]
  · next row only => rw [only, List.flatten_singleton]
  · exact hasSecond_combine time _

/-- Merging rows, sorted or not, keeps their seconds and what they count in them: no second is made
up or lost, and what is counted in one is the wrapping sum over the rows at hand from the start and
those that came later. Of increasing rows it makes an increasing series. -/
theorem merge_keeps (given later : List (List Point)) :
    (∀ time, totalAt time (merge (given ++ later)) =
      totalAt time given.flatten + totalAt time later.flatten) ∧
    (∀ time, HasSecond time (merge (given ++ later)) ↔
      ∃ row ∈ given ++ later, HasSecond time row) ∧
    ((∀ row ∈ given ++ later, Increasing row) → Increasing (merge (given ++ later))) := by
  refine ⟨fun time => ?_, fun time => ?_, merge_increasing⟩
  · rw [totalAt_merge, List.flatten_append, totalAt_append]
  · rw [hasSecond_merge, hasSecond_flatten]

theorem merge_keeps_ties :
    let given : List (List Point) := [[⟨1, 1⟩, ⟨3, Int64.maxValue⟩], []]
    let later : List (List Point) := [[⟨2, 20⟩, ⟨3, 1⟩]]
    (∀ row ∈ given ++ later, Increasing row) ∧ Increasing (merge (given ++ later)) ∧
      totalAt 3 (merge (given ++ later)) = Int64.minValue := by
  intro given later
  have increasing : ∀ row ∈ given ++ later, Increasing row := by decide
  obtain ⟨counted, _, ordered⟩ := merge_keeps given later
  exact ⟨increasing, ordered increasing, (counted 3).trans (by decide)⟩

/-! ## The short way -/

theorem Increasing.not_hasSecond_head {point : Point} {rest : List Point}
    (increasing : Increasing (point :: rest)) : ¬ HasSecond point.time rest := by
  rintro ⟨other, member, same⟩
  have later := (increasing_cons.mp increasing).1 other member
  grind

theorem Increasing.le_of_hasSecond {time : Int64} {point : Point} {rest : List Point}
    (increasing : Increasing (point :: rest)) (has : HasSecond time (point :: rest)) :
    point.time ≤ time := by
  rcases hasSecond_cons.mp has with rfl | ⟨other, member, rfl⟩
  · exact Int64.le_refl _
  · exact Int64.le_of_lt ((increasing_cons.mp increasing).1 other member)

/-- An increasing series is settled by its seconds and by what it counts in them. -/
theorem Increasing.eq_of_same {left right : List Point} (leftIncreasing : Increasing left)
    (rightIncreasing : Increasing right)
    (seconds : ∀ time, HasSecond time left ↔ HasSecond time right)
    (counted : ∀ time, totalAt time left = totalAt time right) : left = right := by
  induction left generalizing right with
  | nil =>
      cases right with
      | nil => rfl
      | cons point rest =>
          exact absurd ((seconds point.time).mpr ⟨point, by simp, rfl⟩) (not_hasSecond_nil _)
  | cons point left ih =>
      cases right with
      | nil => exact absurd ((seconds point.time).mp ⟨point, by simp, rfl⟩) (not_hasSecond_nil _)
      | cons other right =>
          -- Each of the two first points stands at the earliest second that both series have.
          have time : point.time = other.time := by
            have low := rightIncreasing.le_of_hasSecond
              ((seconds point.time).mp ⟨point, by simp, rfl⟩)
            have high := leftIncreasing.le_of_hasSecond
              ((seconds other.time).mpr ⟨other, by simp, rfl⟩)
            exact Int64.le_antisymm high low
          have leftEnds := leftIncreasing.not_hasSecond_head
          have rightEnds := rightIncreasing.not_hasSecond_head
          have leftZero : totalAt point.time left = 0 :=
            totalAt_eq_zero fun next member same => leftEnds ⟨next, member, same⟩
          have rightZero : totalAt other.time right = 0 :=
            totalAt_eq_zero fun next member same => rightEnds ⟨next, member, same⟩
          have value : point.value = other.value := by
            have here := counted point.time
            rwa [totalAt_cons, totalAt_cons, if_pos rfl, if_pos time.symm, leftZero, time,
              rightZero, Int64.add_zero, Int64.add_zero] at here
          have same : point = other := by
            cases point
            cases other
            simp_all
          subst same
          refine congrArg (point :: ·) (ih (increasing_cons.mp leftIncreasing).2
            (increasing_cons.mp rightIncreasing).2 (fun second => ?_) fun second => ?_)
          · have both := seconds second
            rw [hasSecond_cons, hasSecond_cons] at both
            by_cases first : point.time = second
            · subst first
              exact iff_of_false leftEnds rightEnds
            · simpa [first] using both
          · have both := counted second
            rw [totalAt_cons, totalAt_cons] at both
            by_cases first : point.time = second
            · subst first
              rw [leftZero, rightZero]
            · simpa [first] using both

theorem merge_singleton_filled {rows : List (List Point)} {row : List Point}
    (only : rows.filter (· ≠ []) = [row]) : merge rows = row := by
  rw [merge, only]

/-- Of rows in the order of time, the merged series is increasing unless it is a single row with a
second twice. -/
theorem merge_increasing_iff {rows : List (List Point)} (ordered : ∀ row ∈ rows, Ordered row) :
    Increasing (merge rows) ↔ ∀ row, rows.filter (· ≠ []) = [row] → Increasing row := by
  constructor
  · intro increasing row only
    rwa [merge_singleton_filled only] at increasing
  · intro single
    rw [merge]
    split
    · exact increasing_nil
    · next row only => exact single row only
    · exact combine_increasing fun row member => ordered row (List.mem_filter.mp member).1

/-- Of rows in the order of time, the general way makes an increasing series with the values of each
second summed. The merged series is that one if and only if it is not a single row with a second
twice. -/
theorem merge_eq_combine_iff {rows : List (List Point)} (ordered : ∀ row ∈ rows, Ordered row) :
    (Increasing (combine rows) ∧
      (∀ time, HasSecond time (combine rows) ↔ ∃ row ∈ rows, HasSecond time row) ∧
      ∀ time, totalAt time (combine rows) = totalAt time rows.flatten) ∧
    (merge rows = combine rows ↔
      ∀ row, rows.filter (· ≠ []) = [row] → Increasing row) ∧
    (Increasing (merge rows) ↔ ∀ row, rows.filter (· ≠ []) = [row] → Increasing row) := by
  have combined := combine_increasing ordered
  refine ⟨⟨combined, fun time => ?_, fun time => totalAt_combine time rows⟩, ?_,
    merge_increasing_iff ordered⟩
  · rw [hasSecond_combine, hasSecond_flatten]
  · rw [← merge_increasing_iff ordered]
    constructor
    · exact fun same => same ▸ combined
    · intro merged
      refine merged.eq_of_same combined (fun time => ?_) fun time => ?_
      · rw [hasSecond_merge, hasSecond_combine]
      · rw [totalAt_merge, totalAt_combine]

theorem merge_eq_combine_twoRows :
    let rows : List (List Point) := [[⟨1, 1⟩, ⟨1, 2⟩, ⟨4, 3⟩], [], [⟨1, 5⟩]]
    (∀ row ∈ rows, Ordered row) ∧ merge rows = combine rows ∧ Increasing (merge rows) := by
  intro rows
  have ordered : ∀ row ∈ rows, Ordered row := by
    simp [rows, Ordered]
  obtain ⟨_, same, increasing⟩ := merge_eq_combine_iff ordered
  have severalFilled : ∀ row, rows.filter (· ≠ []) = [row] → Increasing row := by
    intro row only
    exact absurd (congrArg List.length only) (by simp [rows])
  exact ⟨ordered, same.mpr severalFilled, increasing.mpr severalFilled⟩

/-- A single row that has a second twice is taken as it is, also beside a row without points. The
general way sums its values. -/
theorem merge_keeps_repeats :
    let row : List Point := [⟨1, 1⟩, ⟨1, 2⟩]
    Ordered row ∧ combine [row] = [⟨1, 3⟩] ∧ merge [row] ≠ combine [row] ∧
      merge [row, []] ≠ combine [row, []] ∧ ¬ Increasing (merge [row]) := by
  intro row
  have ordered : Ordered row := by simp [row, Ordered]
  have summed : combine [row] = [⟨1, 3⟩] := by decide +kernel
  exact ⟨ordered, summed, by decide +kernel, by decide +kernel, by decide⟩

end SeriesQuery.Series
