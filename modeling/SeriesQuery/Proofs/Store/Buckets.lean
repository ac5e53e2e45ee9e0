import Mathlib.Data.List.Forall2
import Mathlib.Data.Nat.Prime.Basic
import SeriesQuery.Proofs.Store.Window

set_option autoImplicit false

/-!
# Seconds in buckets

A scan gathers the seconds of its window into buckets. The bucket of a second is told by the whole part
of the second divided by the width. A bucket that starts before the least 64-bit second wraps around to
a start late in the range, and this start belongs to no other bucket: the two would be a power of two
apart, so the width would be a power of two itself and no bucket of that width wraps around. So each
bucket has a point of its own, and nothing that was counted in the window is lost.
-/

namespace SeriesQuery.Store

open SeriesQuery.Series

/-! ## Where buckets start -/

theorem one_le_bucketWidth (resolution : UInt32) : 1 ≤ bucketWidth resolution :=
  Int.le_max_right _ _

theorem bucketWidth_lt (resolution : UInt32) : bucketWidth resolution < UInt32.size := by
  have bounded := resolution.toNat_lt_size
  unfold bucketWidth
  simp only [UInt32.size] at *
  omega

theorem bucketStart_eq (resolution : UInt32) (time : Int64) :
    bucketStart resolution time =
      Int64.ofInt (time.toInt / bucketWidth resolution * bucketWidth resolution) := by
  have parts := Int.ediv_mul_add_emod time.toInt (bucketWidth resolution)
  have start : time.toInt / bucketWidth resolution * bucketWidth resolution =
      time.toInt - time.toInt % bucketWidth resolution := by omega
  rw [start, Int64.ofInt_sub, Int64.ofInt_toInt, bucketStart]

/-- A width below 2 to the 32 that divides the range of seconds divides the half of it, too. -/
theorem dvd_half_of_dvd {width : Int} (positive : 1 ≤ width) (narrow : width < UInt32.size)
    (divides : width ∣ 18446744073709551616) : width ∣ 9223372036854775808 := by
  obtain ⟨size, rfl⟩ := Int.eq_ofNat_of_zero_le (Int.le_trans Int.one_nonneg positive)
  have small : size < UInt32.size := Int.ofNat_lt.mp narrow
  have power : size ∣ 2 ^ 64 := Int.natCast_dvd_natCast.mp divides
  obtain ⟨exponent, _, rfl⟩ := (Nat.dvd_prime_pow Nat.prime_two).mp power
  have low : exponent < 32 := (Nat.pow_lt_pow_iff_right Nat.one_lt_two).mp small
  exact Int.natCast_dvd_natCast.mpr (Nat.pow_dvd_pow 2 (show exponent ≤ 63 by omega))

/-- A bucket whose start is a whole range before a bucket in the range lies before the least second. -/
theorem before_of_wraps {width index other : Int} (positive : 1 ≤ width)
    (narrow : width < UInt32.size)
    (wraps : index * width = other * width + 18446744073709551616)
    (inRange : index * width ≤ 9223372036854775807) :
    (other + 1) * width ≤ -9223372036854775808 := by
  have divides : width ∣ 18446744073709551616 := by
    refine ⟨index - other, ?_⟩
    rw [Int.mul_comm, Int.sub_mul]
    omega
  obtain ⟨half, whole⟩ := dvd_half_of_dvd positive narrow divides
  have least : -half * width = -9223372036854775808 := by
    rw [Int.neg_mul, Int.mul_comm, whole]
  have below : other * width < -half * width := by omega
  have next : other + 1 ≤ -half := Int.lt_of_mul_lt_mul_right below (by omega)
  rw [← least]
  exact Int.mul_le_mul_of_nonneg_right next (by omega)

theorem dvd_sub_of_ofInt_eq {value other : Int} (same : Int64.ofInt value = Int64.ofInt other) :
    (18446744073709551616 : Int) ∣ value - other := by
  have wrapped := congrArg Int64.toInt same
  rw [Int64.toInt_ofInt, Int64.toInt_ofInt] at wrapped
  exact Int.dvd_iff_bmod_eq_zero.mpr (Int.bmod_eq_bmod_iff_bmod_sub_eq_zero.mp wrapped)

/-- Two seconds whose buckets start at the same second, with starts that may wrap around, are in one
bucket. -/
theorem index_eq_of_start_eq {width : Int} (positive : 1 ≤ width) (narrow : width < UInt32.size)
    {time other : Int64}
    (same : Int64.ofInt (time.toInt / width * width) = Int64.ofInt (other.toInt / width * width)) :
    time.toInt / width = other.toInt / width := by
  obtain ⟨rounds, apart⟩ := dvd_sub_of_ofInt_eq same
  have timeLow := time.le_toInt
  have timeHigh := time.toInt_lt
  have otherLow := other.le_toInt
  have otherHigh := other.toInt_lt
  have timeStart := Int.ediv_mul_le time.toInt (b := width) (by omega)
  have timeEnd := Int.lt_ediv_add_one_mul_self time.toInt (b := width) (by omega)
  have otherStart := Int.ediv_mul_le other.toInt (b := width) (by omega)
  have otherEnd := Int.lt_ediv_add_one_mul_self other.toInt (b := width) (by omega)
  generalize time.toInt / width = index at *
  generalize other.toInt / width = otherIndex at *
  -- The starts lie in one range and a bucket before it, so they are less than two ranges apart.
  have near : rounds = 0 ∨ rounds = 1 ∨ rounds = -1 := by
    rw [Int.add_mul, Int.one_mul] at timeEnd otherEnd
    simp only [UInt32.size] at narrow
    omega
  rcases near with rfl | rfl | rfl
  · exact Int.eq_of_mul_eq_mul_right (show width ≠ 0 by omega) (by omega)
  · have wraps : index * width = otherIndex * width + 18446744073709551616 := by omega
    have before := before_of_wraps positive narrow wraps (by omega)
    omega
  · have wraps : otherIndex * width = index * width + 18446744073709551616 := by omega
    have before := before_of_wraps positive narrow wraps (by omega)
    omega

theorem bucketStart_eq_iff {resolution : UInt32} {time other : Int64} :
    bucketStart resolution time = bucketStart resolution other ↔
      time.toInt / bucketWidth resolution = other.toInt / bucketWidth resolution := by
  rw [bucketStart_eq, bucketStart_eq]
  constructor
  · exact index_eq_of_start_eq (one_le_bucketWidth resolution) (bucketWidth_lt resolution)
  · intro same
    rw [same]

/-- The first bucket of a minute wraps around to a start among the last seconds. -/
example : bucketStart 60 Int64.minValue = 9223372036854775756 := by decide

/-! ## What buckets hold -/

/-- A point of an increasing row has the value that the row counts in its second. -/
theorem eq_of_mem_increasing {points : List Point} (increasing : Increasing points) {point : Point}
    (member : point ∈ points) : point = ⟨point.time, totalAt point.time points⟩ := by
  induction points with
  | nil => cases member
  | cons first rest ih =>
      obtain ⟨later, restIncreasing⟩ := increasing_cons.mp increasing
      rw [totalAt_cons]
      rcases List.mem_cons.mp member with rfl | inside
      · have absent : totalAt point.time rest = 0 :=
          totalAt_eq_zero fun next nextMember same =>
            increasing.not_hasSecond_head ⟨next, nextMember, same⟩
        simp [absent]
      · have different : first.time ≠ point.time := by
          have := later point inside
          grind
        rw [if_neg different, Int64.zero_add, ← ih restIncreasing inside]

theorem total_addPoint (time value : Int64) (points : List Point) :
    total (addPoint time value points) = value + total points := by
  induction points with
  | nil => simp [addPoint]
  | cons point rest ih =>
      simp only [addPoint]
      split
      · rw [total_cons]
      · split
        · rw [total_cons, total_cons]
          grind
        · rw [total_cons, ih, total_cons]
          grind

theorem total_gather (resolution : UInt32) (points : List Point) :
    total (gather resolution points) = total points := by
  have start (buckets : List Point) :
      total (points.foldl (fun buckets point =>
        addPoint (bucketStart resolution point.time) point.value buckets) buckets) =
        total buckets + total points := by
    induction points generalizing buckets with
    | nil => simp
    | cons point points ih =>
        rw [List.foldl_cons, ih, total_addPoint, total_cons]
        grind
  rw [gather, start, total_nil, Int64.zero_add]

/-- The point of a bucket: it stands at the start of the bucket and counts what the seconds in the
bucket count together. -/
def bucketPoint (width : Int) (seconds : List Point) (index : Int) : Point :=
  ⟨Int64.ofInt (index * width),
    total (seconds.filter fun second => second.time.toInt / width = index)⟩

/-- Points that seconds are gathered into: one for each bucket that a second falls into. -/
structure Gathers (width : Int) (seconds points : List Point) : Prop where
  increasing : Increasing points
  mem_iff : ∀ point, point ∈ points ↔
    ∃ second ∈ seconds, point = bucketPoint width seconds (second.time.toInt / width)
  /-- Seconds in different buckets are counted in points at different seconds. -/
  apart : ∀ second ∈ seconds, ∀ other ∈ seconds,
    (bucketPoint width seconds (second.time.toInt / width)).time =
        (bucketPoint width seconds (other.time.toInt / width)).time ↔
      second.time.toInt / width = other.time.toInt / width
  total : total points = total seconds

theorem gathers_gather (resolution : UInt32) (seconds : List Point) :
    Gathers (bucketWidth resolution) seconds (gather resolution seconds) := by
  have increasing := gather_increasing resolution seconds
  -- The point at the start of a second's bucket counts all that fall into the bucket.
  have counted (second : Point) :
      bucketPoint (bucketWidth resolution) seconds
          (second.time.toInt / bucketWidth resolution) =
        ⟨bucketStart resolution second.time,
          totalAt (bucketStart resolution second.time) (gather resolution seconds)⟩ := by
    rw [totalAt_gather, bucketPoint, bucketStart_eq]
    simp only [← bucketStart_eq, bucketStart_eq_iff]
  refine ⟨increasing, fun point => ?_, fun second _ other _ => ?_, total_gather resolution seconds⟩
  · constructor
    · intro member
      obtain ⟨second, inside, falls⟩ := hasSecond_gather.mp ⟨point, member, rfl⟩
      refine ⟨second, inside, ?_⟩
      rw [counted, falls]
      exact eq_of_mem_increasing increasing member
    · rintro ⟨second, inside, rfl⟩
      obtain ⟨point, member, same⟩ := hasSecond_gather.mpr ⟨second, inside, rfl⟩
      rw [counted, ← same, ← eq_of_mem_increasing increasing member]
      exact member
  · rw [counted, counted]
    exact bucketStart_eq_iff

/-! ## Rows that answer a scan -/

/-- The points of a row in the window of a scan. -/
def SeriesScan.seconds (scan : SeriesScan) (row : SeriesRow) : List Point :=
  row.points.filter fun point => scan.start ≤ point.time ∧ point.time ≤ scan.finish

/-- A scan asks for a row, and the row has a point in the window. -/
structure SeriesScan.Reaches (scan : SeriesScan) (row : SeriesRow) : Prop where
  asked : scan.filter.Matches row.key
  recorded : ∃ point ∈ row.points, scan.start ≤ point.time ∧ point.time ≤ scan.finish

instance (scan : SeriesScan) (row : SeriesRow) : Decidable (scan.Reaches row) :=
  decidable_of_iff (scan.filter.Matches row.key ∧
      ∃ point ∈ row.points, scan.start ≤ point.time ∧ point.time ≤ scan.finish)
    ⟨fun given => ⟨given.1, given.2⟩, fun reaches => ⟨reaches.asked, reaches.recorded⟩⟩

theorem filter_covers (scan : SeriesScan) (row : SeriesRow) :
    (row.points.filter fun point => scan.covers point.time) = scan.seconds row := by
  unfold SeriesScan.seconds
  apply List.filter_congr
  intro point _
  exact (Bool.decide_and _ _).symm

theorem reaches_iff {scan : SeriesScan} {row : SeriesRow} :
    scan.Reaches row ↔ scan.filter.accepts row.key = true ∧ scan.seconds row ≠ [] := by
  have recorded : scan.seconds row ≠ [] ↔
      ∃ point ∈ row.points, scan.start ≤ point.time ∧ point.time ≤ scan.finish := by
    simp [SeriesScan.seconds]
  rw [RowFilter.accepts_iff, recorded]
  constructor
  · intro reaches
    exact ⟨reaches.asked, reaches.recorded⟩
  · intro given
    exact ⟨given.1, given.2⟩

/-- The row that answers a scan for a row of the store. -/
def answerRow (resolution : UInt32) (scan : SeriesScan) (row : SeriesRow) : SeriesRow :=
  ⟨row.key, gather resolution (scan.seconds row)⟩

theorem scanRow_eq (resolution : UInt32) (scan : SeriesScan) (row : SeriesRow) :
    scanRow resolution scan row =
      if scan.Reaches row then some (answerRow resolution scan row) else none := by
  unfold scanRow
  rw [filter_covers]
  by_cases accepted : scan.filter.accepts row.key = true
  · rw [if_pos accepted]
    split
    · next nothing => rw [if_neg fun reaches => (reaches_iff.mp reaches).2 nothing]
    · next seen something => rw [if_pos (reaches_iff.mpr ⟨accepted, something⟩), answerRow]
  · rw [if_neg accepted, if_neg fun reaches => accepted (reaches_iff.mp reaches).1]

theorem filterMap_scanRow (resolution : UInt32) (scan : SeriesScan) (rows : List SeriesRow) :
    rows.filterMap (scanRow resolution scan) =
      (rows.filter fun row => scan.Reaches row).map (answerRow resolution scan) := by
  induction rows with
  | nil => rfl
  | cons row rows ih =>
      have given := scanRow_eq resolution scan row
      by_cases reaches : scan.Reaches row
      · rw [if_pos reaches] at given
        simp [List.filterMap_cons_some given, ih, reaches]
      · rw [if_neg reaches] at given
        simp [List.filterMap_cons_none given, ih, reaches]

/-- What the rows of a scan count in all does not depend on the resolution. -/
theorem map_total_scanSeries (store : Store) (resolution : UInt32) (scan : SeriesScan) :
    (store.scanSeries resolution scan).map (fun row => (row.key, total row.points)) =
      if scan.finish < scan.start then [] else
        ((store.series.filter fun row => scan.Reaches row).map fun row =>
          (row.key, total (scan.seconds row))).mergeSort fun left right => left.1.le right.1 := by
  unfold scanSeries
  split
  · rfl
  · rw [List.map_mergeSort (s := fun left right : RowKey × Int64 => left.1.le right.1)
        (by intro row _ other _; rfl),
      filterMap_scanRow, List.map_map]
    simp only [Function.comp_def, answerRow, total_gather]

/-- A row of a scan answers for a row of the store. -/
structure Answers (resolution : UInt32) (scan : SeriesScan) (stored row : SeriesRow) : Prop where
  key : row.key = stored.key
  gathers : Gathers (bucketWidth resolution) (scan.seconds stored) row.points

/-- A scan gives one row for each row that it reaches, with the points that the seconds of the window
are gathered into, and nothing for a window that ends before it starts. At every resolution it gives
rows for the same keys, and each of them counts the same in all. -/
theorem scanSeries_answers (store : Store) (resolution : UInt32) (scan : SeriesScan) :
    (scan.finish < scan.start → store.scanSeries resolution scan = []) ∧
    (scan.start ≤ scan.finish → ∃ rows, rows.Perm (store.scanSeries resolution scan) ∧
      List.Forall₂ (Answers resolution scan) (store.series.filter fun row => scan.Reaches row) rows) ∧
    ∀ other : UInt32,
      (store.scanSeries resolution scan).map (fun row => (row.key, total row.points)) =
        (store.scanSeries other scan).map fun row => (row.key, total row.points) := by
  refine ⟨fun backwards => if_pos backwards, fun forwards => ?_, fun other => ?_⟩
  · have scanned : store.scanSeries resolution scan = List.mergeSort _ _ :=
      if_neg (Int64.not_lt.mpr forwards)
    rw [scanned, filterMap_scanRow]
    refine ⟨_, (List.mergeSort_perm _ _).symm, ?_⟩
    apply List.forall₂_map_right_iff.mpr
    apply List.forall₂_same.mpr
    intro row _
    exact ⟨rfl, gathers_gather resolution (scan.seconds row)⟩
  · rw [map_total_scanSeries, map_total_scanSeries]

end SeriesQuery.Store
