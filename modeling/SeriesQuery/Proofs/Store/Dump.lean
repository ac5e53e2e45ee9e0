import SeriesQuery.Proofs.Store.Contents
import SeriesQuery.Proofs.Store.Window
import SeriesQuery.Store.Fixture

set_option autoImplicit false

/-!
# Dumping a store

Two scans of the whole range of seconds, one of untagged and one of tagged rows, together give every
row that a store holds, once and with all its points. A store that is filled from such rows holds these
rows and no others.
-/

namespace SeriesQuery.Store

open SeriesQuery.Series SeriesQuery.Text

/-! ## Points in order of time -/

theorem addPoint_last {time value : Int64} {points : List Point}
    (later : ∀ point ∈ points, point.time < time) :
    addPoint time value points = points ++ [⟨time, value⟩] := by
  induction points with
  | nil => rfl
  | cons point rest ih =>
      obtain ⟨first, others⟩ := List.forall_mem_cons.mp later
      have notBefore : ¬ time < point.time := by grind
      have notSame : ¬ point.time = time := by grind
      simp [addPoint, notBefore, notSame, ih others]

theorem foldl_addPoint {points more : List Point} (increasing : Increasing (points ++ more)) :
    more.foldl (fun points point => addPoint point.time point.value points) points =
      points ++ more := by
  induction more generalizing points with
  | nil => exact (List.append_nil points).symm
  | cons point rest ih =>
      have later : ∀ earlier ∈ points, earlier.time < point.time := by
        intro earlier member
        exact (List.pairwise_append.mp increasing).2.2 earlier member point List.mem_cons_self
      have step : addPoint point.time point.value points = points ++ [point] := addPoint_last later
      rw [List.foldl_cons, step, ih (by simpa using increasing)]
      simp

theorem gather_one {points : List Point} (increasing : Increasing points) :
    gather 1 points = points := by
  have whole : Increasing ([] ++ points) := increasing
  unfold gather
  simp only [bucketStart_one]
  exact foldl_addPoint whole

/-! ## Rows with points -/

/-- A row as a store keeps it: it has points, in the order of time. -/
structure SeriesRow.Filled (row : SeriesRow) : Prop where
  nonempty : row.points ≠ []
  increasing : Increasing row.points

theorem addPoint_ne_nil (time value : Int64) (points : List Point) :
    addPoint time value points ≠ [] := by
  cases points with
  | nil => simp [addPoint]
  | cons point rest =>
      unfold addPoint
      split
      · simp
      · split <;> simp

theorem filled_addSeries {rows : List SeriesRow} (filled : ∀ row ∈ rows, row.Filled) (key : RowKey)
    (time value : Int64) : ∀ row ∈ addSeries key time value rows, row.Filled := by
  induction rows with
  | nil =>
      intro row member
      rw [List.mem_singleton.mp member]
      exact ⟨by simp, List.pairwise_singleton _ _⟩
  | cons first rest ih =>
      obtain ⟨mine, others⟩ := List.forall_mem_cons.mp filled
      unfold addSeries
      split
      · refine List.forall_mem_cons.mpr ⟨?_, others⟩
        exact ⟨addPoint_ne_nil _ _ _, addPoint_increasing _ _ mine.increasing⟩
      · exact List.forall_mem_cons.mpr ⟨mine, ih others⟩

theorem filled_writes {store : Store} (filled : ∀ row ∈ store.series, row.Filled)
    (calls : List Write) : ∀ row ∈ (calls.foldl write store).series, row.Filled := by
  induction calls generalizing store with
  | nil => exact filled
  | cons call calls ih =>
      apply ih
      cases call with
      | record call => exact filled_addSeries filled _ _ _
      | increment key delta => exact filled

/-! ## Filling a store from a fixture -/

/-- The calls that fill a store from a fixture. -/
def fixtureWrites (fixture : Fixture) : List Write :=
  fixture.series.flatMap (fun row => row.points.map fun point =>
    .record ⟨row.key, point.time, point.value⟩) ++
    fixture.totals.map fun row => .increment row.key row.value

theorem ofFixture_eq_ofWrites (fixture : Fixture) :
    ofFixture fixture = ofWrites (fixtureWrites fixture) := by
  unfold ofFixture ofWrites fixtureWrites
  rw [List.foldl_append, List.foldl_flatMap, List.foldl_map]
  simp only [List.foldl_map]
  rfl

theorem addSeries_of_absent {key : RowKey} {rows : List SeriesRow}
    (absent : key ∉ rows.map SeriesRow.key) (time value : Int64) (rest : List SeriesRow) :
    addSeries key time value (rows ++ rest) = rows ++ addSeries key time value rest := by
  induction rows with
  | nil => rfl
  | cons row rows ih =>
      simp only [List.map_cons, List.mem_cons, not_or] at absent
      rw [List.cons_append, addSeries, if_neg (Ne.symm absent.1), ih absent.2, List.cons_append]

theorem addTotal_of_absent {key : RowKey} {rows : List TotalRow}
    (absent : key ∉ rows.map TotalRow.key) (value : Int64) :
    addTotal key value rows = rows ++ [⟨key, value⟩] := by
  induction rows with
  | nil => rfl
  | cons row rows ih =>
      simp only [List.map_cons, List.mem_cons, not_or] at absent
      rw [addTotal, if_neg (Ne.symm absent.1), ih absent.2, List.cons_append]

/-- A row that is new to a store is kept as it is. -/
theorem recordRow_of_absent {rows : List SeriesRow} {row : SeriesRow} (filled : row.Filled)
    (absent : row.key ∉ rows.map SeriesRow.key) (totals : List TotalRow) :
    recordRow ⟨rows, totals⟩ row = ⟨rows ++ [row], totals⟩ := by
  obtain ⟨key, points⟩ := row
  obtain ⟨nonempty, increasing⟩ := filled
  -- Behind the other rows the points of the row gather one by one.
  have gathers (front more : List Point) :
      more.foldl (fun store point => record store key point.time point.value)
          ⟨rows ++ [⟨key, front⟩], totals⟩ =
        ⟨rows ++ [⟨key, more.foldl (fun points point =>
          addPoint point.time point.value points) front⟩], totals⟩ := by
    induction more generalizing front with
    | nil => rfl
    | cons point more ih =>
        have step : record ⟨rows ++ [⟨key, front⟩], totals⟩ key point.time point.value =
            ⟨rows ++ [⟨key, addPoint point.time point.value front⟩], totals⟩ := by
          simp [record, addSeries_of_absent absent, addSeries]
        rw [List.foldl_cons, step, ih, List.foldl_cons]
  cases points with
  | nil => exact absurd rfl nonempty
  | cons first rest =>
      have start : record ⟨rows, totals⟩ key first.time first.value =
          ⟨rows ++ [⟨key, [first]⟩], totals⟩ := by
        have added := addSeries_of_absent absent first.time first.value []
        rw [List.append_nil] at added
        simp [record, added, addSeries]
      have whole : Increasing ([first] ++ rest) := increasing
      rw [recordRow, List.foldl_cons, start, gathers, foldl_addPoint whole]
      rfl

theorem Distinct.absent {Row : Type} {key : Row → RowKey} {front more : List Row} {row : Row}
    (distinct : Distinct key (front ++ row :: more)) : key row ∉ front.map key := by
  unfold Distinct at distinct
  rw [List.map_append, List.map_cons] at distinct
  intro member
  exact (List.nodup_append.mp distinct).2.2 _ member _ List.mem_cons_self rfl

theorem foldl_recordRow {front more : List SeriesRow} (filled : ∀ row ∈ more, row.Filled)
    (distinct : Distinct SeriesRow.key (front ++ more)) (totals : List TotalRow) :
    more.foldl recordRow ⟨front, totals⟩ = ⟨front ++ more, totals⟩ := by
  induction more generalizing front with
  | nil => simp
  | cons row more ih =>
      obtain ⟨mine, others⟩ := List.forall_mem_cons.mp filled
      rw [List.foldl_cons, recordRow_of_absent mine distinct.absent, ih others (by simpa using distinct)]
      simp

theorem foldl_increment {front more : List TotalRow}
    (distinct : Distinct TotalRow.key (front ++ more)) (series : List SeriesRow) :
    more.foldl (fun store row => increment store row.key row.value) ⟨series, front⟩ =
      ⟨series, front ++ more⟩ := by
  induction more generalizing front with
  | nil => simp
  | cons row more ih =>
      have step : increment ⟨series, front⟩ row.key row.value = ⟨series, front ++ [row]⟩ := by
        simp only [increment, addTotal_of_absent distinct.absent]
      rw [List.foldl_cons, step, ih (by simpa using distinct)]
      simp

/-- A store that is filled from rows with points, no two of them of one key, holds just these rows. -/
theorem ofFixture_of_distinct {fixture : Fixture} (filled : ∀ row ∈ fixture.series, row.Filled)
    (series : Distinct SeriesRow.key fixture.series)
    (totals : Distinct TotalRow.key fixture.totals) :
    ofFixture fixture = ⟨fixture.series, fixture.totals⟩ := by
  have rows := foldl_recordRow (show ∀ row ∈ fixture.series, row.Filled from filled)
    (show Distinct SeriesRow.key ([] ++ fixture.series) from series) []
  have sums := foldl_increment
    (show Distinct TotalRow.key ([] ++ fixture.totals) from totals) fixture.series
  unfold ofFixture empty
  rw [rows]
  exact sums

/-! ## Scans of the whole range -/

def wholeFilter (tag : Option String) : RowFilter :=
  ⟨none, "", tag, none⟩

def wholeScan (tag : Option String) : SeriesScan :=
  ⟨wholeFilter tag, Int64.minValue, Int64.maxValue⟩

/-- All that scans give of a store, first of untagged rows, then of tagged ones. -/
def dump (store : Store) : Fixture where
  series := store.scanSeries 1 (wholeScan none) ++ store.scanSeries 1 (wholeScan (some ""))
  totals := store.scanTotals (wholeFilter none) ++ store.scanTotals (wholeFilter (some ""))

theorem accepts_untagged (key : RowKey) : (wholeFilter none).accepts key = key.tag.isNone := by
  cases tag : key.tag <;> simp [RowFilter.accepts, wholeFilter, Dotted.isUnder, tag]

theorem accepts_tagged (key : RowKey) : (wholeFilter (some "")).accepts key = !key.tag.isNone := by
  cases tag : key.tag <;> simp [RowFilter.accepts, wholeFilter, Dotted.isUnder, tag]

theorem scanRow_whole {row : SeriesRow} (filled : row.Filled) (tag : Option String) :
    scanRow 1 (wholeScan tag) row =
      if (wholeFilter tag).accepts row.key then some row else none := by
  have covered : row.points.filter (fun point => (wholeScan tag).covers point.time) = row.points := by
    refine List.filter_eq_self.mpr fun point _ => ?_
    simp [SeriesScan.covers, wholeScan, Int64.minValue_le, Int64.le_maxValue]
  unfold scanRow
  rw [covered]
  split
  · next asked =>
      have accepted : (wholeFilter tag).accepts row.key = true := asked
      rw [if_pos accepted]
      split
      · next none => exact absurd none filled.nonempty
      · rw [gather_one filled.increasing]
  · next unasked =>
      have rejected : ¬ (wholeFilter tag).accepts row.key = true := unasked
      rw [if_neg rejected]

theorem scanSeries_whole {store : Store} (filled : ∀ row ∈ store.series, row.Filled)
    (tag : Option String) : (store.scanSeries 1 (wholeScan tag)).Perm
      (store.series.filter fun row => (wholeFilter tag).accepts row.key) := by
  have forwards : ¬ (wholeScan tag).finish < (wholeScan tag).start :=
    show ¬ Int64.maxValue < Int64.minValue by decide
  have picked : store.series.filterMap (scanRow 1 (wholeScan tag)) =
      store.series.filter fun row => (wholeFilter tag).accepts row.key := by
    rw [← List.filterMap_eq_filter]
    refine List.filterMap_congr fun row member => ?_
    rw [scanRow_whole (filled row member)]
    rfl
  unfold scanSeries
  rw [if_neg forwards, picked]
  exact List.mergeSort_perm _ _

theorem dump_series {store : Store} (filled : ∀ row ∈ store.series, row.Filled) :
    store.dump.series.Perm store.series := by
  have untagged := scanSeries_whole filled none
  have tagged := scanSeries_whole filled (some "")
  simp only [accepts_untagged] at untagged
  simp only [accepts_tagged] at tagged
  exact (untagged.append tagged).trans (List.filter_append_perm _ _)

theorem dump_totals (store : Store) : store.dump.totals.Perm store.totals := by
  have untagged := store.scanTotals_perm (wholeFilter none)
  have tagged := store.scanTotals_perm (wholeFilter (some ""))
  simp only [accepts_untagged] at untagged
  simp only [accepts_tagged] at tagged
  exact (untagged.append tagged).trans (List.filter_append_perm _ _)

end SeriesQuery.Store
