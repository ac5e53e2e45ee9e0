import SeriesQuery.Proofs.Engine.AnyTable
import SeriesQuery.Proofs.Engine.Totals
import SeriesQuery.Proofs.Store.DrillDown
import SeriesQuery.Proofs.Store.Window

set_option autoImplicit false

/-!
# Answers add up

The rows under a context are the rows at the context itself and, without overlap, the rows under the
context with each component that goes on after it. So the answer for a context is what the rows at the
context itself give plus what the answers for the longer contexts give, and this holds for totals as it
does for each second of a series.
-/

namespace SeriesQuery.Query

/-- A request with another prefix of the context. -/
def Descriptor.inContext (query : Descriptor) (above : String) : Descriptor :=
  { query with context := some above }

end SeriesQuery.Query

namespace SeriesQuery.Engine

open SeriesQuery.Query SeriesQuery.Series SeriesQuery.Store SeriesQuery.Table SeriesQuery.Text

/-! ## Totals -/

theorem sumTotals_append (left right : List TotalRow) :
    sumTotals (left ++ right) = sumTotals left + sumTotals right := by
  simp only [sumTotals_eq_ofInt_exactSum, List.map_append, exactSum_append, Int64.ofInt_add]

theorem sumTotals_flatMap {Item : Type} (rows : Item → List TotalRow) (items : List Item) :
    sumTotals (items.flatMap rows) =
      Int64.ofInt (exactSum (items.map fun item => sumTotals (rows item))) := by
  simp only [sumTotals_eq_ofInt_exactSum, List.map_flatMap]
  exact ofInt_exactSum_flatMap _ items

theorem execute_ofStore_aggregate (engine : Engine) (store : Store) {query : Descriptor}
    (kind : query.kind = .aggregate) :
    (engine.execute (.ofStore store) query).1 =
      .ok (.total (sumTotals (store.scanTotals (totalsFilter query)))) := by
  simp only [execute, kind, answerTotal_eq, totalOutcome, Backend.ofStore]

/-! ## Series -/

theorem heldAt_append (left right : List SeriesRow) (time : Int64) :
    heldAt (left ++ right) time = heldAt left time + heldAt right time := by
  simp only [heldAt, List.map_append, exactSum_append, Int64.ofInt_add]

theorem heldAt_flatMap {Item : Type} (rows : Item → List SeriesRow) (items : List Item)
    (time : Int64) :
    heldAt (items.flatMap rows) time =
      Int64.ofInt (exactSum (items.map fun item => heldAt (rows item) time)) := by
  simp only [heldAt, List.map_flatMap]
  exact ofInt_exactSum_flatMap _ items

/-- What rows give in the second at an offset from a start; nothing once the seconds have wrapped
around. -/
def shownAt (rows : List SeriesRow) (start : Int64) (offset : Nat) : Int64 :=
  if start.toInt + offset ≤ Int64.maxValue.toInt then heldAt rows (start + Int64.ofNat offset)
  else 0

theorem shownAt_perm {left right : List SeriesRow} (same : left.Perm right) (start : Int64)
    (offset : Nat) : shownAt left start offset = shownAt right start offset := by
  rw [shownAt, shownAt, heldAt_perm same]

theorem shownAt_append (left right : List SeriesRow) (start : Int64) (offset : Nat) :
    shownAt (left ++ right) start offset =
      shownAt left start offset + shownAt right start offset := by
  unfold shownAt
  split
  · apply heldAt_append
  · exact (Int64.add_zero 0).symm

theorem shownAt_flatMap {Item : Type} (rows : Item → List SeriesRow) (items : List Item)
    (start : Int64) (offset : Nat) :
    shownAt (items.flatMap rows) start offset =
      Int64.ofInt (exactSum (items.map fun item => shownAt (rows item) start offset)) := by
  unfold shownAt
  split
  · apply heldAt_flatMap
  · rw [exactSum_zeros]
    rfl

/-- A series with a value for each second from the start of the window on. -/
def dense (query : Descriptor) (values : Nat → Int64) : Answer :=
  .series ⟨query.start, query.finish, (List.range query.count).map fun offset =>
    ⟨query.start + Int64.ofNat offset, values offset⟩⟩

theorem execute_ofStore_named {engine : Engine} {handle : Handle}
    (table : (engine.tables.get engine.resolution).1 = .ok handle) (store : Store)
    {query : Descriptor} {metric : String} (kind : query.kind = .timeSeries)
    (named : query.metric = .named metric) :
    (engine.execute (.ofStore store) query).1 = .ok (dense query (shownAt
      (store.scanSeries handle.resolution (seriesScan query metric query.tag)) query.start)) := by
  have increasing : ∀ row ∈ store.scanSeries handle.resolution
      (seriesScan query metric query.tag), Increasing row.points :=
    fun row member => scanSeries_increasing member
  have points : pointsFor (.ofStore store) handle.resolution query =
      .ok ((List.range query.count).map fun offset => ⟨query.start + Int64.ofNat offset, shownAt
        (store.scanSeries handle.resolution (seriesScan query metric query.tag)) query.start
        offset⟩) := by
    simp only [pointsFor, named, merged, Backend.ofStore]
    exact congrArg Except.ok (fillDense_merge increasing query.start query.count)
  rw [engine.execute_timeSeries _ kind, table, Except.map, seriesOutcome, points]
  rfl

/-! ## Answers for a context -/

/-- The answer for a context is what the rows at the context itself give plus what the answers for the
context with each further component give, place by place. -/
def AddsUp (engine : Engine) (store : Store) (query : Descriptor) (above : String)
    (answer : (Nat → Int64) → Answer) : Prop :=
  ∃ (own : Nat → Int64) (under : String → Nat → Int64),
    (engine.execute (.ofStore (store.exactly above)) (query.inContext above)).1 =
      .ok (answer own) ∧
    (∀ name ∈ store.componentsUnder above,
      (engine.execute (.ofStore store) (query.inContext (Dotted.join above name))).1 =
        .ok (answer (under name))) ∧
    (engine.execute (.ofStore store) (query.inContext above)).1 =
      .ok (answer fun place => own place +
        Int64.ofInt (exactSum ((store.componentsUnder above).map fun name => under name place)))

section

variable (engine : Engine) (store : Store) (query : Descriptor) {above : String}

theorem addsUp_aggregate (named : above ≠ "") (kind : query.kind = .aggregate) :
    engine.AddsUp store query above fun values => .total (values 0) := by
  have told (store : Store) (context : String) :
      (engine.execute (.ofStore store) (query.inContext context)).1 =
        .ok (.total (sumTotals (store.scanTotals ((totalsFilter query).inContext context)))) :=
    engine.execute_ofStore_aggregate store kind
  refine ⟨fun _ => _, fun _ _ => _, told _ above, fun name _ => told store _, ?_⟩
  rw [told, sumTotals_perm (store.scanTotals_drillDown named _), sumTotals_append,
    sumTotals_flatMap]

theorem addsUp_timeSeries (named : above ≠ "") {metric : String} {handle : Handle}
    (kind : query.kind = .timeSeries) (asked : query.metric = .named metric)
    (table : (engine.tables.get engine.resolution).1 = .ok handle) :
    engine.AddsUp store query above (dense query) := by
  have told (store : Store) (context : String) :
      (engine.execute (.ofStore store) (query.inContext context)).1 =
        .ok (dense query (shownAt (store.scanSeries handle.resolution
          (seriesScan (query.inContext context) metric query.tag)) query.start)) :=
    execute_ofStore_named table store kind asked
  have apart := store.scanSeries_drillDown named handle.resolution
    (seriesScan query metric query.tag)
  refine ⟨_, fun _ => _, told _ above, fun name _ => told store _, ?_⟩
  rw [told]
  apply congrArg (fun values => Except.ok (dense query values))
  funext offset
  exact (shownAt_perm apart query.start offset).trans ((shownAt_append _ _ _ _).trans
    (congrArg (_ + ·) (shownAt_flatMap _ _ _ _)))

/-- Under a context lie the rows at the context itself and the rows under the context with each further
component, and no row is among them twice. So the total for the context is that of the rows at the
context plus those for the longer contexts, and so is a series, second by second. -/
theorem execute_drillDown (named : above ≠ "") :
    (∀ (filter : RowFilter) (key : RowKey), (filter.inContext above).accepts key = true ↔
      ∃! place, filter.Finds above key place) ∧
    ((store.componentsUnder above).Nodup ∧ ∀ name, name ∈ store.componentsUnder above ↔
      '.' ∉ name.toList ∧
        ∃ context ∈ store.contexts, Dotted.LiesUnder context (Dotted.join above name)) ∧
    (query.kind = .aggregate →
      engine.AddsUp store query above fun values => .total (values 0)) ∧
    ∀ (metric : String) (handle : Handle), query.kind = .timeSeries →
      query.metric = .named metric → (engine.tables.get engine.resolution).1 = .ok handle →
        engine.AddsUp store query above (dense query) := by
  refine ⟨fun filter key => ?_, ⟨nodup_componentsUnder, fun name => mem_componentsUnder⟩,
    engine.addsUp_aggregate store query named,
    fun metric handle => engine.addsUp_timeSeries store query named⟩
  rw [RowFilter.accepts_iff]
  exact RowFilter.matches_iff_finds named

end

theorem execute_drillDown_shop :
    let key := fun context => RowKey.mk context "bytes" none none
    let store : Store := ⟨
      [⟨key "shop", [⟨3, 1⟩]⟩, ⟨key "shop..x", [⟨3, 2⟩, ⟨4, 5⟩]⟩, ⟨key "shopping", [⟨4, 9⟩]⟩],
      [⟨key "shop.f.a", Int64.maxValue⟩, ⟨key "shop", 1⟩, ⟨key "shop.", 10⟩, ⟨key "shop..x", 100⟩,
        ⟨key "shopping", 7⟩]⟩
    let query := fun kind => Descriptor.mk "" kind none (.named "bytes") none none 3 4 2
    let engine := Engine.mk 1 (.empty false) .zero []
    store.componentsUnder "shop" = ["f", ""] ∧
      engine.AddsUp store (query .aggregate) "shop" (fun values => .total (values 0)) ∧
      engine.AddsUp store (query .timeSeries) "shop" (dense (query .timeSeries)) ∧
      (engine.execute (.ofStore store) ((query .aggregate).inContext "shop")).1 =
        .ok (.total (Int64.minValue + 110)) := by
  intro key store query engine
  have named : "shop" ≠ "" := by decide
  obtain ⟨_, _, totals, _⟩ := engine.execute_drillDown store (query .aggregate) named
  obtain ⟨_, _, _, series⟩ := engine.execute_drillDown store (query .timeSeries) named
  refine ⟨by decide +kernel, totals rfl, series "bytes" ⟨1, 0⟩ rfl rfl rfl, ?_⟩
  rw [execute_ofStore_aggregate engine store rfl, sumTotals_eq_ofInt_exactSum, exactSum_scanTotals]
  decide +kernel

end SeriesQuery.Engine
