import SeriesQuery.Proofs.Series.Combined
import SeriesQuery.Proofs.Store.History
import SeriesQuery.Store.Scan

set_option autoImplicit false

/-!
# What a scan gives of a window

Whatever a store holds, each row of a scan has its points in increasing order. At a resolution of one
second a scan gives exactly what the rows that it asks for count within the window, second by second.
-/

namespace SeriesQuery.Store

open SeriesQuery.Series

/-! ## Gathering into buckets -/

theorem hasSecond_addPoint {wanted time value : Int64} {points : List Point} :
    HasSecond wanted (addPoint time value points) ↔ time = wanted ∨ HasSecond wanted points := by
  induction points with
  | nil => simp [addPoint, hasSecond_cons]
  | cons point rest ih =>
      simp only [addPoint]
      split
      · rw [hasSecond_cons]
      · split
        · next same => rw [hasSecond_cons, hasSecond_cons, same, or_self_left]
        · rw [hasSecond_cons, ih, hasSecond_cons, or_left_comm]

theorem addPoint_increasing (time value : Int64) {points : List Point}
    (increasing : Increasing points) : Increasing (addPoint time value points) := by
  induction points with
  | nil => exact increasing_cons.mpr ⟨by simp, increasing_nil⟩
  | cons first rest ih =>
      obtain ⟨later, restIncreasing⟩ := increasing_cons.mp increasing
      simp only [addPoint]
      split
      · next before =>
          refine increasing_cons.mpr ⟨?_, increasing⟩
          intro next member
          rcases List.mem_cons.mp member with rfl | inside
          · exact before
          · have := later next inside
            grind
      · split
        · next same =>
            refine increasing_cons.mpr ⟨?_, restIncreasing⟩
            intro next member
            exact same ▸ later next member
        · next notBefore different =>
            refine increasing_cons.mpr ⟨?_, ih restIncreasing⟩
            intro next member
            rcases hasSecond_addPoint.mp ⟨next, member, rfl⟩ with here | ⟨source, inside, same⟩
            · grind
            · exact same ▸ later source inside

theorem gather_increasing (resolution : UInt32) (points : List Point) :
    Increasing (gather resolution points) := by
  have start {buckets : List Point} (increasing : Increasing buckets) :
      Increasing (points.foldl (fun buckets point =>
        addPoint (bucketStart resolution point.time) point.value buckets) buckets) := by
    induction points generalizing buckets with
    | nil => exact increasing
    | cons point points ih => exact ih (addPoint_increasing _ _ increasing)
  exact start increasing_nil

theorem hasSecond_gather {resolution : UInt32} {wanted : Int64} {points : List Point} :
    HasSecond wanted (gather resolution points) ↔
      ∃ point ∈ points, bucketStart resolution point.time = wanted := by
  have start (buckets : List Point) :
      HasSecond wanted (points.foldl (fun buckets point =>
        addPoint (bucketStart resolution point.time) point.value buckets) buckets) ↔
        HasSecond wanted buckets ∨
          ∃ point ∈ points, bucketStart resolution point.time = wanted := by
    induction points generalizing buckets with
    | nil => simp
    | cons point points ih =>
        simp only [List.foldl_cons, ih, hasSecond_addPoint, List.mem_cons, exists_eq_or_imp]
        rw [or_assoc, or_left_comm]
  rw [gather, start]
  simp

/-- A bucket counts what the seconds in it count together. -/
theorem totalAt_gather (resolution : UInt32) (bucket : Int64) (points : List Point) :
    totalAt bucket (gather resolution points) =
      total (points.filter fun point => bucketStart resolution point.time = bucket) := by
  have start (buckets : List Point) :
      totalAt bucket (points.foldl (fun buckets point =>
        addPoint (bucketStart resolution point.time) point.value buckets) buckets) =
      totalAt bucket buckets +
        total (points.filter fun point => bucketStart resolution point.time = bucket) := by
    induction points generalizing buckets with
    | nil => simp
    | cons point points ih =>
        rw [List.foldl_cons, ih, totalAt_addPoint]
        by_cases here : bucketStart resolution point.time = bucket
        · simp only [here, ↓reduceIte, decide_true, List.filter_cons_of_pos, total_cons]
          grind
        · simp [here]
  rw [gather, start]
  simp

theorem bucketStart_one (time : Int64) : bucketStart 1 time = time := by
  have width : bucketWidth 1 = 1 := by decide
  rw [bucketStart, width, Int.emod_one]
  exact Int64.sub_zero time

theorem totalAt_gather_one (time : Int64) (points : List Point) :
    totalAt time (gather 1 points) = totalAt time points := by
  rw [totalAt_gather]
  simp only [bucketStart_one]
  rfl

/-! ## Scanning the rows -/

theorem scanRow_increasing {resolution : UInt32} {scan : SeriesScan} {row answer : SeriesRow}
    (given : scanRow resolution scan row = some answer) : Increasing answer.points := by
  simp only [scanRow] at given
  split at given
  · split at given
    · cases given
    · cases given
      exact gather_increasing resolution _
  · cases given

theorem scanSeries_increasing {store : Store} {resolution : UInt32} {scan : SeriesScan}
    {row : SeriesRow} (member : row ∈ store.scanSeries resolution scan) :
    Increasing row.points := by
  simp only [scanSeries] at member
  split at member
  · simp at member
  · obtain ⟨stored, _, given⟩ := List.mem_filterMap.mp (List.mem_mergeSort.mp member)
    exact scanRow_increasing given

theorem scanSeries_single {store : Store} {row : SeriesRow} (single : store.series = [row])
    (resolution : UInt32) {scan : SeriesScan} (ordered : ¬ scan.finish < scan.start) :
    store.scanSeries resolution scan = (scanRow resolution scan row).toList := by
  rw [scanSeries, if_neg ordered, single]
  cases given : scanRow resolution scan row with
  | none => simp [given]
  | some answer => simp [given]

/-- A scan at a resolution of one second gives no point outside its window. -/
theorem covers_of_mem_scanSeries_one {store : Store} {scan : SeriesScan} {row : SeriesRow}
    (member : row ∈ store.scanSeries 1 scan) {point : Point} (inside : point ∈ row.points) :
    scan.covers point.time = true := by
  simp only [scanSeries] at member
  split at member
  · simp at member
  · obtain ⟨stored, _, given⟩ := List.mem_filterMap.mp (List.mem_mergeSort.mp member)
    simp only [scanRow] at given
    split at given
    · split at given
      · cases given
      · next seen =>
          cases given
          obtain ⟨source, kept, same⟩ := hasSecond_gather.mp ⟨point, inside, rfl⟩
          rw [bucketStart_one] at same
          rw [← same]
          exact (List.mem_filter.mp kept).2
    · cases given

/-- A row answers a scan at a resolution of one second with what it counts in the window. -/
theorem totalAt_scanRow_one (time : Int64) (scan : SeriesScan) (row : SeriesRow) :
    totalAt time ((scanRow 1 scan row).toList.flatMap (·.points)) =
      if scan.covers time then
        totalAt time (if scan.filter.accepts row.key then row.points else []) else 0 := by
  have window := totalAt_filter time scan.covers row.points
  simp only [scanRow]
  split
  · split
    · next nothing => simpa [nothing] using window
    · next seen => simpa [totalAt_gather_one] using window
  · simp

/-- A scan at a resolution of one second gives what the rows that it asks for count in its window. -/
theorem totalAt_scanSeries_one (time : Int64) (store : Store) (scan : SeriesScan) :
    totalAt time ((store.scanSeries 1 scan).flatMap (·.points)) =
      if scan.covers time then totalAt time (pointsOf scan.filter store.series) else 0 := by
  rw [scanSeries]
  split
  · next reversed =>
      have uncovered : scan.covers time = false := by
        simp only [SeriesScan.covers, Bool.and_eq_false_iff, decide_eq_false_iff_not]
        grind
      simp [uncovered]
  · rw [totalAt_perm time ((List.mergeSort_perm _ _).flatMap_right _)]
    induction store.series with
    | nil => simp [pointsOf]
    | cons row rest ih =>
        have split : (row :: rest).filterMap (scanRow 1 scan) =
            (scanRow 1 scan row).toList ++ rest.filterMap (scanRow 1 scan) := by
          cases given : scanRow 1 scan row <;> simp [given]
        rw [split, List.flatMap_append, totalAt_append, ih, totalAt_scanRow_one, pointsOf_cons,
          totalAt_append]
        by_cases covered : scan.covers time <;> simp [covered]

end SeriesQuery.Store
