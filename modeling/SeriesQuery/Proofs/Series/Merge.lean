import SeriesQuery.Proofs.Series.Cursor
import SeriesQuery.Series.Merge

set_option autoImplicit false

/-!
# What a merge keeps

Merging neither loses nor doubles a point: each second of the merged series counts what all rows
together count in it, whatever the rows hold. Rows in the order of time are interleaved in the order
of time, so that equal seconds are neighbours and are summed into one point.
-/

namespace SeriesQuery.Series

def Ordered (points : List Point) : Prop :=
  points.Pairwise fun earlier later => earlier.time ≤ later.time

theorem ordered_cons {point : Point} {rest : List Point} :
    Ordered (point :: rest) ↔
      (∀ later ∈ rest, point.time ≤ later.time) ∧ Ordered rest :=
  List.pairwise_cons

theorem Increasing.ordered {points : List Point} (increasing : Increasing points) :
    Ordered points :=
  increasing.imp fun earlier => Int64.le_of_lt earlier

/-! ## Taking the earliest point -/

theorem flatten_eq_nil_of_takeEarliest {rows : List (List Point)}
    (nothing : takeEarliest rows = none) : rows.flatten = [] := by
  induction rows with
  | nil => rfl
  | cons row rows ih =>
      cases row with
      | nil => simpa using ih (by simpa [takeEarliest] using nothing)
      | cons point row =>
          simp only [takeEarliest] at nothing
          split at nothing
          · cases nothing
          · split at nothing <;> cases nothing

theorem perm_of_takeEarliest {rows left : List (List Point)} {point : Point}
    (taken : takeEarliest rows = some (point, left)) :
    rows.flatten.Perm (point :: left.flatten) := by
  induction rows generalizing point left with
  | nil => cases taken
  | cons row rows ih =>
      cases row with
      | nil => simpa using ih (by simpa [takeEarliest] using taken)
      | cons first row =>
          simp only [takeEarliest] at taken
          split at taken
          · cases taken
            simp
          · next other others found =>
              split at taken
              · cases taken
                have rest := (ih found).append_left (first :: row)
                exact rest.trans List.perm_middle
              · cases taken
                simp

/-- Taking a point leaves rows in the order of time, and none of them holds an earlier point. -/
theorem ordered_of_takeEarliest {rows left : List (List Point)} {point : Point}
    (ordered : ∀ row ∈ rows, Ordered row) (taken : takeEarliest rows = some (point, left)) :
    (∀ row ∈ left, Ordered row) ∧ ∀ other ∈ left.flatten, point.time ≤ other.time := by
  induction rows generalizing point left with
  | nil => cases taken
  | cons row rows ih =>
      have rowOrdered := ordered row (by simp)
      have restOrdered : ∀ other ∈ rows, Ordered other := fun other member =>
        ordered other (by simp [member])
      cases row with
      | nil => exact ih restOrdered (by simpa [takeEarliest] using taken)
      | cons first row =>
          obtain ⟨firstEarliest, tailOrdered⟩ := ordered_cons.mp rowOrdered
          simp only [takeEarliest] at taken
          split at taken
          · next nothing =>
              cases taken
              have none := flatten_eq_nil_of_takeEarliest nothing
              exact ⟨by simpa [tailOrdered] using restOrdered, by simpa [none] using firstEarliest⟩
          · next other others found =>
              obtain ⟨othersOrdered, otherEarliest⟩ := ih restOrdered found
              split at taken
              · next earlier =>
                  cases taken
                  refine ⟨by simpa [rowOrdered] using othersOrdered, ?_⟩
                  intro next member
                  rw [List.flatten_cons, List.mem_append, List.mem_cons] at member
                  rcases member with (rfl | inRow) | inOthers
                  · exact Int64.le_of_lt earlier
                  · have := firstEarliest next inRow
                    grind
                  · exact otherEarliest next inOthers
              · next notEarlier =>
                  cases taken
                  refine ⟨by simpa [tailOrdered] using restOrdered, ?_⟩
                  intro next member
                  rw [List.flatten_cons, List.mem_append] at member
                  rcases member with inRow | inRows
                  · exact firstEarliest next inRow
                  · -- A point of the other rows is the one found there or one left after it.
                    have found := (perm_of_takeEarliest found).mem_iff.mp inRows
                    rcases List.mem_cons.mp found with rfl | inOthers
                    · grind
                    · have := otherEarliest next inOthers
                      grind

/-! ## Interleaving -/

theorem interleave_perm (rows : List (List Point)) : (interleave rows).Perm rows.flatten := by
  fun_induction interleave rows with
  | case1 rows nothing => rw [flatten_eq_nil_of_takeEarliest nothing]
  | case2 rows point left taken ih => exact (ih.cons point).trans (perm_of_takeEarliest taken).symm

theorem interleave_ordered {rows : List (List Point)} (ordered : ∀ row ∈ rows, Ordered row) :
    Ordered (interleave rows) := by
  fun_induction interleave rows with
  | case1 rows nothing => exact List.Pairwise.nil
  | case2 rows point left taken ih =>
      obtain ⟨leftOrdered, earliest⟩ := ordered_of_takeEarliest ordered taken
      refine ordered_cons.mpr ⟨?_, ih leftOrdered⟩
      intro later member
      exact earliest later ((interleave_perm left).mem_iff.mp member)

/-! ## Summing neighbours -/

theorem totalAt_sumRuns (time : Int64) (points : List Point) :
    totalAt time (sumRuns points) = totalAt time points := by
  fun_induction sumRuns points with
  | case1 => rfl
  | case2 point => rfl
  | case3 point next rest same ih =>
      rw [ih, totalAt_cons, totalAt_cons, totalAt_cons, ← same]
      by_cases here : point.time = time <;> simp [here, Int64.add_assoc]
  | case4 point next rest different ih => rw [totalAt_cons, ih, ← totalAt_cons]

theorem exists_of_mem_sumRuns {points : List Point} {point : Point}
    (member : point ∈ sumRuns points) : ∃ source ∈ points, source.time = point.time := by
  fun_induction sumRuns points with
  | case1 => simp at member
  | case2 only => exact ⟨point, by simpa using member, rfl⟩
  | case3 first next rest same ih =>
      obtain ⟨source, inside, time⟩ := ih member
      rcases List.mem_cons.mp inside with rfl | inRest
      · exact ⟨first, by simp, time⟩
      · exact ⟨source, by simp [inRest], time⟩
  | case4 first next rest different ih =>
      rcases List.mem_cons.mp member with rfl | inRest
      · exact ⟨point, by simp, rfl⟩
      · obtain ⟨source, inside, time⟩ := ih inRest
        exact ⟨source, List.mem_cons_of_mem _ inside, time⟩

theorem sumRuns_increasing {points : List Point} (ordered : Ordered points) :
    Increasing (sumRuns points) := by
  fun_induction sumRuns points with
  | case1 => exact increasing_nil
  | case2 point => exact increasing_cons.mpr ⟨by simp, increasing_nil⟩
  | case3 point next rest same ih =>
      obtain ⟨pointFirst, tailOrdered⟩ := ordered_cons.mp ordered
      obtain ⟨_, restOrdered⟩ := ordered_cons.mp tailOrdered
      exact ih (ordered_cons.mpr ⟨fun later inside => pointFirst later (by simp [inside]),
        restOrdered⟩)
  | case4 point next rest different ih =>
      obtain ⟨pointFirst, tailOrdered⟩ := ordered_cons.mp ordered
      obtain ⟨nextFirst, _⟩ := ordered_cons.mp tailOrdered
      refine increasing_cons.mpr ⟨?_, ih tailOrdered⟩
      intro later member
      obtain ⟨source, inside, time⟩ := exists_of_mem_sumRuns member
      have afterPoint := pointFirst next (by simp)
      rcases List.mem_cons.mp inside with rfl | inRest
      · grind
      · have := nextFirst source inRest
        grind

/-! ## Merging -/

theorem flatten_filter_ne_nil (rows : List (List Point)) :
    (rows.filter (· ≠ [])).flatten = rows.flatten := by
  induction rows with
  | nil => rfl
  | cons row rows ih => cases row <;> simp_all

/-- The merged series counts in each second what the rows together count in it. -/
theorem totalAt_merge (time : Int64) (rows : List (List Point)) :
    totalAt time (merge rows) = totalAt time rows.flatten := by
  rw [← flatten_filter_ne_nil rows, merge]
  split
  · next none => rw [none, List.flatten_nil]
  · next row only => rw [only, List.flatten_singleton]
  · rw [combine, totalAt_sumRuns, totalAt_perm time (interleave_perm _)]

/-- Of increasing rows, each second of the merged series counts the values that the rows have there. -/
theorem totalAt_merge_of_increasing {rows : List (List Point)}
    (increasing : ∀ row ∈ rows, Increasing row) (time : Int64) :
    totalAt time (merge rows) = Int64.ofInt (exactSum (rows.map (valueOf time))) := by
  rw [totalAt_merge]
  induction rows with
  | nil => rfl
  | cons row rows ih =>
      have rowIncreasing := increasing row List.mem_cons_self
      have restIncreasing : ∀ other ∈ rows, Increasing other := fun other member =>
        increasing other (List.mem_cons_of_mem _ member)
      rw [List.flatten_cons, totalAt_append, ih restIncreasing, rowIncreasing.totalAt_eq,
        List.map_cons, exactSum, Int64.ofInt_add, Int64.ofInt_toInt]

/-- Rows in which each point is later than the one before merge into such a series. -/
theorem merge_increasing {rows : List (List Point)} (increasing : ∀ row ∈ rows, Increasing row) :
    Increasing (merge rows) := by
  have filled : ∀ row ∈ rows.filter (· ≠ []), Increasing row := fun row member =>
    increasing row (List.mem_filter.mp member).1
  rw [merge]
  split
  · exact increasing_nil
  · next row only => exact filled row (by rw [only]; exact List.mem_singleton_self row)
  · exact sumRuns_increasing (interleave_ordered fun row member => (filled row member).ordered)

/-- Each second of the merged series is one at which a row has a point. -/
theorem exists_of_mem_merge {rows : List (List Point)} {point : Point}
    (member : point ∈ merge rows) : ∃ row ∈ rows, ∃ source ∈ row, source.time = point.time := by
  rw [merge] at member
  split at member
  · cases member
  · next row only =>
      have inside : row ∈ rows.filter (· ≠ []) := by
        rw [only]
        exact List.mem_singleton_self row
      exact ⟨row, (List.mem_filter.mp inside).1, point, member, rfl⟩
  · obtain ⟨source, inside, same⟩ := exists_of_mem_sumRuns member
    have kept := (interleave_perm _).mem_iff.mp inside
    obtain ⟨row, filled, has⟩ := List.mem_flatten.mp kept
    exact ⟨row, (List.mem_filter.mp filled).1, source, has, same⟩

end SeriesQuery.Series
