import SeriesQuery.Proofs.Store.Contents

set_option autoImplicit false

/-!
# The order of a scan

A scan gives its rows in the order of context, metric name and tag, and rows that differ in the run
only in the order in which the store holds them. The order in which the store holds its rows therefore
shows in the answer if and only if the answer has two rows that differ in the run only.
-/

namespace SeriesQuery.Store

/-! ## Comparing keys -/

/-- Keys that differ in the run at most. -/
structure RowKey.SameName (key other : RowKey) : Prop where
  context : key.context = other.context
  metric : key.metric = other.metric
  tag : key.tag = other.tag

instance : Std.TransCmp RowKey.compare :=
  inferInstanceAs (Std.TransCmp (compareLex (compareOn RowKey.context)
    (compareLex (compareOn RowKey.metric) (compareOn RowKey.tag))))

theorem RowKey.compare_eq_eq_iff {key other : RowKey} :
    key.compare other = .eq ↔ key.SameName other := by
  simp only [RowKey.compare, Ordering.then_eq_eq, Std.LawfulEqOrd.compare_eq_iff_eq]
  constructor
  · intro same
    exact ⟨same.1, same.2.1, same.2.2⟩
  · intro same
    exact ⟨same.context, same.metric, same.tag⟩

theorem RowKey.le_trans (first second third : RowKey) (left : first.le second = true)
    (right : second.le third = true) : first.le third = true :=
  Std.TransCmp.isLE_trans left right

theorem RowKey.le_total (key other : RowKey) : (key.le other || other.le key) = true := by
  have swapped : other.compare key = (key.compare other).swap := Std.OrientedCmp.eq_swap
  rw [RowKey.le, RowKey.le, swapped]
  cases key.compare other <;> rfl

theorem RowKey.sameName_of_le {key other : RowKey} (left : key.le other = true)
    (right : other.le key = true) : key.SameName other :=
  compare_eq_eq_iff.mp (Std.OrientedCmp.isLE_antisymm left right)

theorem RowKey.SameName.le {key other : RowKey} (same : key.SameName other) :
    key.le other = true := by
  rw [RowKey.le, RowKey.compare_eq_eq_iff.mpr same]
  rfl

theorem RowKey.SameName.symm {key other : RowKey} (same : key.SameName other) :
    other.SameName key :=
  ⟨same.context.symm, same.metric.symm, same.tag.symm⟩

theorem RowKey.SameName.eq_of_run {key other : RowKey} (same : key.SameName other)
    (run : key.runId = other.runId) : key = other := by
  obtain ⟨context, metric, tag⟩ := same
  cases key
  cases other
  cases context
  cases metric
  cases tag
  cases run
  rfl

/-! ## Rows picked and sorted -/

section Arrange

variable {Row Out : Type} (pick : Row → Option Out) (key : Out → RowKey)

/-- The rows that are picked, in the order of a scan. -/
def arrange (rows : List Row) : List Out :=
  (rows.filterMap pick).mergeSort fun out other => (key out).le (key other)

/-- No two rows differ in the run only. -/
def Apart (outs : List Out) : Prop :=
  ∀ out ∈ outs, ∀ other ∈ outs, (key out).SameName (key other) → out = other

variable {pick key}

theorem arrange_perm (rows : List Row) : (arrange pick key rows).Perm (rows.filterMap pick) :=
  List.mergeSort_perm _ _

theorem arrange_ordered (rows : List Row) :
    (arrange pick key rows).Pairwise fun out other => (key out).le (key other) = true :=
  List.pairwise_mergeSort (fun out next last => RowKey.le_trans (key out) (key next) (key last))
    (fun out next => RowKey.le_total (key out) (key next)) _

theorem arrange_eq_filterMap {rows : List Row}
    (ordered : (rows.filterMap pick).Pairwise fun out other => (key out).le (key other) = true) :
    arrange pick key rows = rows.filterMap pick :=
  List.mergeSort_of_pairwise ordered

theorem arrange_perm_of_perm {rows others : List Row} (same : rows.Perm others) :
    (arrange pick key rows).Perm (arrange pick key others) :=
  (arrange_perm rows).trans ((same.filterMap pick).trans (arrange_perm others).symm)

theorem arrange_eq_of_apart {rows others : List Row} (same : rows.Perm others)
    (apart : Apart key (arrange pick key others)) :
    arrange pick key rows = arrange pick key others := by
  have perm : (arrange pick key rows).Perm (arrange pick key others) := arrange_perm_of_perm same
  refine List.Perm.eq_of_pairwise ?_ (arrange_ordered rows) (arrange_ordered others) perm
  intro out other member memberOther left right
  exact apart out (perm.mem_iff.mp member) other memberOther (RowKey.sameName_of_le left right)

theorem not_sublist_swap {outs : List Out} (nodup : outs.Nodup) {out other : Out}
    (before : [out, other].Sublist outs) : ¬ [other, out].Sublist outs := by
  induction outs with
  | nil => cases before
  | cons first rest ih =>
      obtain ⟨absent, restNodup⟩ := List.nodup_cons.mp nodup
      intro after
      cases before with
      | cons _ before =>
          cases after with
          | cons _ after => exact ih restNodup before after
          | cons_cons _ after => exact absent (before.subset (by simp))
      | cons_cons _ before =>
          cases after with
          | cons _ after => exact absent (after.subset (by simp))
          | cons_cons _ after => exact absent (before.subset (by simp))

/-- Rows that differ in the run only keep the order in which they were found. -/
theorem sublist_arrange {row next : Row} {out other : Out} (rest : List Row)
    (first : pick row = some out) (second : pick next = some other)
    (same : (key out).SameName (key other)) :
    [out, other].Sublist (arrange pick key (row :: next :: rest)) := by
  refine List.sublist_mergeSort
    (fun out next last => RowKey.le_trans (key out) (key next) (key last))
    (fun out next => RowKey.le_total (key out) (key next)) ?_ ?_
  · simpa using same.le
  · rw [List.filterMap_cons_some first, List.filterMap_cons_some second]
    exact .cons_cons _ (.cons_cons _ (List.nil_sublist _))

theorem apart_of_arrange_eq [DecidableEq Row] {rows : List Row}
    (nodup : (rows.filterMap pick).Nodup)
    (settled : ∀ others, others.Perm rows → arrange pick key others = arrange pick key rows) :
    Apart key (arrange pick key rows) := by
  intro out member other memberOther same
  by_contra different
  obtain ⟨row, inside, first⟩ :=
    List.mem_filterMap.mp ((arrange_perm rows).mem_iff.mp member)
  obtain ⟨next, insideNext, second⟩ :=
    List.mem_filterMap.mp ((arrange_perm rows).mem_iff.mp memberOther)
  have distinct : next ≠ row := by
    rintro rfl
    exact different (Option.some.inj (first.symm.trans second))
  -- Two orders of the rows that have these two in front, one way round and the other: the sort is stable,
  -- so the answers differ.
  have remains := (List.mem_erase_of_ne distinct).mpr insideNext
  have found : rows.Perm (row :: next :: (rows.erase row).erase next) :=
    (List.perm_cons_erase inside).trans ((List.perm_cons_erase remains).cons row)
  have before := sublist_arrange ((rows.erase row).erase next) first second same
  have after := sublist_arrange ((rows.erase row).erase next) second first same.symm
  rw [settled _ found.symm] at before
  rw [settled _ ((List.Perm.swap row next _).trans found.symm)] at after
  exact not_sublist_swap ((arrange_perm rows).nodup_iff.mpr nodup) before after

/-- The order of the rows does not show in a scan if and only if no two rows of the scan differ in the
run only. -/
theorem arrange_settled_iff [DecidableEq Row] {rows : List Row}
    (distinct : Distinct key (rows.filterMap pick)) :
    (∀ others, others.Perm rows → arrange pick key others = arrange pick key rows) ↔
      Apart key (arrange pick key rows) := by
  constructor
  · exact apart_of_arrange_eq distinct.of_map
  · intro apart others same
    exact arrange_eq_of_apart same apart

theorem apart_of_run {rows : List Row} (distinct : Distinct key (rows.filterMap pick))
    (run : Option String) (each : ∀ row out, pick row = some out → (key out).runId = run) :
    Apart key (arrange pick key rows) := by
  have sorted : (arrange pick key rows).Perm (rows.filterMap pick) := arrange_perm rows
  have sortedDistinct := (sorted.map key).nodup_iff.mpr distinct
  have runs (out : Out) (member : out ∈ arrange pick key rows) : (key out).runId = run := by
    obtain ⟨row, _, picked⟩ := List.mem_filterMap.mp (sorted.mem_iff.mp member)
    exact each row out picked
  intro out member other memberOther same
  have sameRun := (runs out member).trans (runs other memberOther).symm
  exact List.inj_on_of_nodup_map sortedDistinct member memberOther (same.eq_of_run sameRun)

theorem Distinct.filterMap {rowKey : Row → RowKey} {rows : List Row}
    (distinct : Distinct rowKey rows)
    (keeps : ∀ row out, pick row = some out → key out = rowKey row) :
    Distinct key (rows.filterMap pick) := by
  refine List.pairwise_map.mpr (List.Pairwise.filterMap pick ?_ (List.pairwise_map.mp distinct))
  intro row other different out picked next pickedNext same
  rw [keeps row out picked, keeps other next pickedNext] at same
  exact different same

end Arrange

/-! ## The two scans -/

def pickTotal (filter : RowFilter) (row : TotalRow) : Option TotalRow :=
  if filter.accepts row.key then some row else none

theorem scanTotals_eq_arrange (store : Store) (filter : RowFilter) :
    store.scanTotals filter = arrange (pickTotal filter) TotalRow.key store.totals := by
  have picked : store.totals.filterMap (pickTotal filter) =
      store.totals.filter fun row => filter.accepts row.key := by
    rw [← List.filterMap_eq_filter]
    exact List.filterMap_congr fun row _ => by simp [pickTotal, Option.guard]
  rw [scanTotals, arrange, picked]

theorem scanSeries_eq_arrange {scan : SeriesScan} (forwards : ¬ scan.finish < scan.start)
    (store : Store) (resolution : UInt32) :
    store.scanSeries resolution scan = arrange (scanRow resolution scan) SeriesRow.key store.series :=
  if_neg forwards

theorem key_of_scanRow {resolution : UInt32} {scan : SeriesScan} (row out : SeriesRow)
    (picked : scanRow resolution scan row = some out) : out.key = row.key := by
  rw [scanRow] at picked
  split at picked
  · split at picked
    · cases picked
    · cases picked
      rfl
  · cases picked

theorem accepts_of_scanRow {resolution : UInt32} {scan : SeriesScan} {row out : SeriesRow}
    (picked : scanRow resolution scan row = some out) : scan.filter.accepts row.key = true := by
  rw [scanRow] at picked
  split at picked
  · next accepted => exact accepted
  · cases picked

theorem key_of_pickTotal {filter : RowFilter} (row out : TotalRow)
    (picked : pickTotal filter row = some out) : out.key = row.key := by
  rw [pickTotal] at picked
  split at picked
  · cases picked
    rfl
  · cases picked

theorem accepts_of_pickTotal {filter : RowFilter} {row out : TotalRow}
    (picked : pickTotal filter row = some out) : filter.accepts row.key = true := by
  rw [pickTotal] at picked
  split at picked
  · next accepted => exact accepted
  · cases picked

theorem Keyed.distinct_seriesRows {store : Store} (keyed : Keyed store) (resolution : UInt32)
    (scan : SeriesScan) :
    Distinct SeriesRow.key (store.series.filterMap (scanRow resolution scan)) :=
  keyed.series.filterMap key_of_scanRow

theorem Keyed.distinct_totalRows {store : Store} (keyed : Keyed store) (filter : RowFilter) :
    Distinct TotalRow.key (store.totals.filterMap (pickTotal filter)) :=
  keyed.totals.filterMap key_of_pickTotal

theorem SameRows.scanSeries_perm {store other : Store} (same : SameRows store other)
    (resolution : UInt32) (scan : SeriesScan) :
    (store.scanSeries resolution scan).Perm (other.scanSeries resolution scan) := by
  by_cases backwards : scan.finish < scan.start
  · rw [scanSeries, scanSeries, if_pos backwards, if_pos backwards]
  · rw [scanSeries_eq_arrange backwards, scanSeries_eq_arrange backwards]
    exact arrange_perm_of_perm same.series

theorem SameRows.scanTotals_perm {store other : Store} (same : SameRows store other)
    (filter : RowFilter) : (store.scanTotals filter).Perm (other.scanTotals filter) := by
  rw [scanTotals_eq_arrange, scanTotals_eq_arrange]
  exact arrange_perm_of_perm same.totals

theorem Keyed.scanSeries_settled_iff {store : Store} (keyed : Keyed store) (resolution : UInt32)
    (scan : SeriesScan) :
    (∀ other, SameRows other store →
      other.scanSeries resolution scan = store.scanSeries resolution scan) ↔
      Apart SeriesRow.key (store.scanSeries resolution scan) := by
  by_cases backwards : scan.finish < scan.start
  · have none (store : Store) : store.scanSeries resolution scan = [] := if_pos backwards
    rw [none]
    constructor
    · exact fun _ _ member => absurd member List.not_mem_nil
    · exact fun _ other _ => none other
  · rw [scanSeries_eq_arrange backwards, ← arrange_settled_iff (keyed.distinct_seriesRows _ _)]
    constructor
    · intro settled others same
      have given := settled ⟨others, store.totals⟩ ⟨same, .refl _⟩
      rwa [scanSeries_eq_arrange backwards] at given
    · intro settled other same
      rw [scanSeries_eq_arrange backwards]
      exact settled other.series same.series

theorem Keyed.scanTotals_settled_iff {store : Store} (keyed : Keyed store) (filter : RowFilter) :
    (∀ other, SameRows other store → other.scanTotals filter = store.scanTotals filter) ↔
      Apart TotalRow.key (store.scanTotals filter) := by
  rw [scanTotals_eq_arrange, ← arrange_settled_iff (keyed.distinct_totalRows _)]
  constructor
  · intro settled others same
    have given := settled ⟨store.series, others⟩ ⟨.refl _, same⟩
    rwa [scanTotals_eq_arrange] at given
  · intro settled other same
    rw [scanTotals_eq_arrange]
    exact settled other.totals same.totals

/-- A scan that asks for one run gives no rows that differ in the run. -/
theorem Keyed.apart_scanSeries {store : Store} (keyed : Keyed store) {scan : SeriesScan}
    {run : String} (asked : scan.filter.runId = some run) (resolution : UInt32) :
    Apart SeriesRow.key (store.scanSeries resolution scan) := by
  by_cases backwards : scan.finish < scan.start
  · rw [scanSeries, if_pos backwards]
    exact fun _ member => absurd member List.not_mem_nil
  · rw [scanSeries_eq_arrange backwards]
    refine apart_of_run (keyed.distinct_seriesRows resolution scan) run fun row out picked => ?_
    rw [key_of_scanRow row out picked]
    exact (RowFilter.accepts_iff.mp (accepts_of_scanRow picked)).run run asked

theorem Keyed.apart_scanTotals {store : Store} (keyed : Keyed store) {filter : RowFilter}
    {run : String} (asked : filter.runId = some run) :
    Apart TotalRow.key (store.scanTotals filter) := by
  rw [scanTotals_eq_arrange]
  refine apart_of_run (keyed.distinct_totalRows filter) run fun row out picked => ?_
  rw [key_of_pickTotal row out picked]
  exact (RowFilter.accepts_iff.mp (accepts_of_pickTotal picked)).run run asked

/-- Calls in another order leave the same rows in another order, and so may a store iterate over them
in any order. Scans give the same rows for all these orders, and in the same order if and only if no two
rows of the answer differ in the run only, which holds for a scan that asks for one run. -/
theorem scan_sameRows (calls : List Write) :
    (∀ others, calls.Perm others → SameRows (ofWrites others) (ofWrites calls)) ∧
    (∀ (resolution : UInt32) (scan : SeriesScan),
      (∀ store, SameRows store (ofWrites calls) →
        (store.scanSeries resolution scan).Perm ((ofWrites calls).scanSeries resolution scan)) ∧
      ((∀ store, SameRows store (ofWrites calls) →
        store.scanSeries resolution scan = (ofWrites calls).scanSeries resolution scan) ↔
        Apart SeriesRow.key ((ofWrites calls).scanSeries resolution scan)) ∧
      ∀ run, scan.filter.runId = some run →
        Apart SeriesRow.key ((ofWrites calls).scanSeries resolution scan)) ∧
    ∀ filter : RowFilter,
      (∀ store, SameRows store (ofWrites calls) →
        (store.scanTotals filter).Perm ((ofWrites calls).scanTotals filter)) ∧
      ((∀ store, SameRows store (ofWrites calls) →
        store.scanTotals filter = (ofWrites calls).scanTotals filter) ↔
        Apart TotalRow.key ((ofWrites calls).scanTotals filter)) ∧
      ∀ run, filter.runId = some run →
        Apart TotalRow.key ((ofWrites calls).scanTotals filter) := by
  have keyed := keyed_ofWrites calls
  refine ⟨fun others same => sameRows_ofWrites same.symm, ?_, ?_⟩
  · intro resolution scan
    refine ⟨fun store same => same.scanSeries_perm resolution scan,
      keyed.scanSeries_settled_iff resolution scan, ?_⟩
    exact fun run asked => keyed.apart_scanSeries asked resolution
  · intro filter
    refine ⟨fun store same => same.scanTotals_perm filter, keyed.scanTotals_settled_iff filter, ?_⟩
    exact fun run asked => keyed.apart_scanTotals asked

theorem scan_sameRows_oneRun :
    let key := fun run => RowKey.mk "shop.f.buy" "bytes" none (some run)
    let filter := RowFilter.mk none "bytes" none (some "a")
    let calls := [Write.increment (key "a") 1, Write.increment (key "b") 2]
    let others := [Write.increment (key "b") 2, Write.increment (key "a") 1]
    SameRows (ofWrites others) (ofWrites calls) ∧
      (ofWrites others).scanTotals filter = (ofWrites calls).scanTotals filter := by
  intro key filter calls others
  obtain ⟨sameRows, _, totals⟩ := scan_sameRows calls
  have same := sameRows others (.swap _ _ _)
  obtain ⟨_, settled, apart⟩ := totals filter
  exact ⟨same, settled.mpr (apart "a" rfl) _ same⟩

/-- Two runs of one row come in the order of the first calls for them. -/
theorem scan_depends_on_order :
    let key := fun run => RowKey.mk "shop.f.buy" "bytes" none (some run)
    let filter := RowFilter.mk none "bytes" none none
    let write := fun run => [Write.record ⟨key run, 10, 1⟩, Write.increment (key run) 1]
    let calls := write "a" ++ write "b"
    let others := write "b" ++ write "a"
    calls.Perm others ∧
      ((ofWrites calls).scanSeries 1 ⟨filter, 0, 20⟩).map (·.key) = [key "a", key "b"] ∧
      ((ofWrites others).scanSeries 1 ⟨filter, 0, 20⟩).map (·.key) = [key "b", key "a"] ∧
      ((ofWrites calls).scanTotals filter).map (·.key) = [key "a", key "b"] ∧
      ((ofWrites others).scanTotals filter).map (·.key) = [key "b", key "a"] := by
  intro key filter write calls others
  have forwards : ¬ (SeriesScan.mk filter 0 20).finish < (SeriesScan.mk filter 0 20).start := by
    decide
  refine ⟨by decide +kernel, ?_, ?_, ?_, ?_⟩
  · rw [scanSeries_eq_arrange forwards, arrange_eq_filterMap (by decide +kernel)]
    decide +kernel
  · rw [scanSeries_eq_arrange forwards, arrange_eq_filterMap (by decide +kernel)]
    decide +kernel
  · rw [scanTotals_eq_arrange, arrange_eq_filterMap (by decide +kernel)]
    decide +kernel
  · rw [scanTotals_eq_arrange, arrange_eq_filterMap (by decide +kernel)]
    decide +kernel

end SeriesQuery.Store
