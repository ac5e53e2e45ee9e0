import SeriesQuery.Proofs.Series.Merge
import SeriesQuery.Proofs.Store.Matching
import SeriesQuery.Store.Basic

set_option autoImplicit false

/-!
# What a store holds after its history

A store that was filled by single calls counts in each second, for the rows that a filter asks for,
the two's-complement sum of what those calls recorded there. How the calls were ordered and how often
a row or a second came up again does not matter.
-/

namespace SeriesQuery.Store

open SeriesQuery.Series

structure Recording where
  key : RowKey
  time : Int64
  value : Int64
  deriving DecidableEq, Repr

/-- The store that calls fill, one after the other. -/
def ofRecordings (calls : List Recording) : Store :=
  calls.foldl (fun store call => store.record call.key call.time call.value) empty

/-- The two's-complement sum of what calls recorded at a second for the rows that a filter asks for.
-/
def recordedAt (calls : List Recording) (filter : RowFilter) (time : Int64) : Int64 :=
  Int64.ofInt (exactSum
    ((calls.filter fun call => call.time = time ∧ filter.Matches call.key).map (·.value)))

theorem recordedAt_cons (call : Recording) (calls : List Recording) (filter : RowFilter)
    (time : Int64) :
    recordedAt (call :: calls) filter time =
      (if filter.accepts call.key ∧ call.time = time then call.value else 0) +
        recordedAt calls filter time := by
  by_cases counts : call.time = time ∧ filter.Matches call.key
  · simp [recordedAt, exactSum, counts, RowFilter.accepts_iff]
  · have skipped : ¬ (filter.accepts call.key = true ∧ call.time = time) := fun accepted =>
      counts ⟨accepted.2, RowFilter.accepts_iff.mp accepted.1⟩
    rw [if_neg skipped, recordedAt, List.filter_cons_of_neg (by simpa using counts),
      Int64.zero_add, recordedAt]

def pointsOf (filter : RowFilter) (series : List SeriesRow) : List Point :=
  (series.filter fun row => filter.accepts row.key).flatMap (·.points)

theorem pointsOf_cons (filter : RowFilter) (row : SeriesRow) (rest : List SeriesRow) :
    pointsOf filter (row :: rest) =
      (if filter.accepts row.key then row.points else []) ++ pointsOf filter rest := by
  by_cases accepted : filter.accepts row.key <;> simp [pointsOf, accepted]

theorem totalAt_addPoint (wanted time value : Int64) (points : List Point) :
    totalAt wanted (addPoint time value points) =
      (if time = wanted then value else 0) + totalAt wanted points := by
  induction points with
  | nil => simp [addPoint, totalAt_cons]
  | cons point rest ih =>
      simp only [addPoint]
      split
      · rw [totalAt_cons]
      · split
        · next same =>
            rw [totalAt_cons, totalAt_cons, same]
            by_cases here : time = wanted
            · simp only [here, ↓reduceIte]
              grind
            · simp [here]
        · rw [totalAt_cons, ih, totalAt_cons]
          grind

theorem totalAt_addSeries (filter : RowFilter) (wanted : Int64) (key : RowKey)
    (time value : Int64) (series : List SeriesRow) :
    totalAt wanted (pointsOf filter (addSeries key time value series)) =
      (if filter.accepts key ∧ time = wanted then value else 0) +
        totalAt wanted (pointsOf filter series) := by
  induction series with
  | nil =>
      by_cases accepted : filter.accepts key <;>
        simp [addSeries, pointsOf, accepted, totalAt_cons]
  | cons row rest ih =>
      simp only [addSeries]
      split
      · next same =>
          rw [pointsOf_cons, pointsOf_cons, same]
          by_cases accepted : filter.accepts key <;>
            simp [accepted, totalAt_addPoint, Int64.add_assoc]
      · rw [pointsOf_cons, totalAt_append, ih, pointsOf_cons, totalAt_append]
        grind

/-- A store counts in each second what its calls recorded there. -/
theorem totalAt_ofRecordings (calls : List Recording) (filter : RowFilter) (time : Int64) :
    totalAt time (pointsOf filter (ofRecordings calls).series) = recordedAt calls filter time := by
  have start (store : Store) :
      totalAt time (pointsOf filter (calls.foldl
        (fun store call => store.record call.key call.time call.value) store).series) =
      totalAt time (pointsOf filter store.series) + recordedAt calls filter time := by
    induction calls generalizing store with
    | nil => simp [recordedAt, exactSum]
    | cons call calls ih =>
        rw [List.foldl_cons, ih, record, totalAt_addSeries, recordedAt_cons]
        grind
  rw [ofRecordings, start]
  simp [empty, pointsOf]

end SeriesQuery.Store
