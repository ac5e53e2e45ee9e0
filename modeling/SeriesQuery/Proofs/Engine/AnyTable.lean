import SeriesQuery.Proofs.Engine.Answer
import SeriesQuery.Proofs.Series.Merge
import SeriesQuery.Proofs.Table.Reachable

set_option autoImplicit false

/-!
# Answers from any table

All that the engine relies on is that a table gives rows whose points are in increasing order. The
rows may come in any order, be empty, and hold points at any second, also outside the window. A named
time series then holds in each second what the rows hold there together, up to the last 64-bit second,
and zeros once the seconds have wrapped around.
-/

namespace SeriesQuery.Engine

open SeriesQuery.Query SeriesQuery.Series SeriesQuery.Store SeriesQuery.Table

/-- The two's-complement sum of the values that rows have at a second. -/
def heldAt (rows : List SeriesRow) (time : Int64) : Int64 :=
  Int64.ofInt (exactSum (rows.map fun row => valueOf time row.points))

theorem heldAt_perm {left right : List SeriesRow} (same : left.Perm right) (time : Int64) :
    heldAt left time = heldAt right time := by
  rw [heldAt, heldAt, exactSum_perm (same.map _)]

/-- Aligned to the seconds from a start on, the merged rows give in each second what the rows hold
there together, until the seconds wrap around. -/
theorem fillDense_merge {rows : List SeriesRow}
    (increasing : ∀ row ∈ rows, Increasing row.points) (start : Int64) (count : Nat) :
    fillDense (merge (rows.map SeriesRow.points)) start count =
      (List.range count).map fun offset =>
        let time := start + Int64.ofNat offset
        ⟨time, if start.toInt + offset ≤ Int64.maxValue.toInt then heldAt rows time else 0⟩ := by
  have pointsIncreasing : ∀ points ∈ rows.map SeriesRow.points, Increasing points :=
    List.forall_mem_map.mpr increasing
  have held (time : Int64) :
      totalAt time (merge (rows.map SeriesRow.points)) = heldAt rows time := by
    rw [totalAt_merge_of_increasing pointsIncreasing, List.map_map]
    rfl
  rw [fillDense_of_increasing (merge_increasing pointsIncreasing)]
  simp only [held]

/-- Whatever table is behind an engine, as long as its rows are increasing a named time series holds
in each second what the rows hold there together, and the order of the rows has no part in it. -/
theorem execute_anyTable {engine : Engine} {traffic : List Call}
    (reached : Traffic.Reachable ⟨engine.tables, traffic⟩)
    (constructible : engine.tables.isLoaded engine.resolution = true ∨
      engine.resolution ∉ engine.tables.failing)
    {query : Descriptor} {name : String} (kind : query.kind = .timeSeries)
    (metric : query.metric = .named name) {rows : List SeriesRow}
    (increasing : ∀ row ∈ rows, Increasing row.points)
    {backend : Backend} {reordered : List SeriesRow} (anyOrder : reordered.Perm rows)
    (scanned : backend.scanSeries engine.resolution
      ⟨⟨query.context, name, query.tag, query.runId⟩, query.start, query.finish⟩ =
        .ok reordered) :
    (engine.execute backend query).1 =
      .ok (.series ⟨query.start, query.finish, (List.range query.count).map fun offset =>
        let time := query.start + Int64.ofNat offset
        ⟨time, if query.start.toInt + offset ≤ Int64.maxValue.toInt
          then heldAt rows time else 0⟩⟩) := by
  have stillIncreasing : ∀ row ∈ reordered, Increasing row.points := by
    intro row member
    exact increasing row (anyOrder.mem_iff.mp member)
  rw [execute_named reached.sound.consistent constructible kind metric scanned,
    fillDense_merge stillIncreasing]
  simp only [heldAt_perm anyOrder]

theorem execute_anyTable_lastSeconds :
    ((Engine.mk 60 (.empty true) .zero []).execute
        ⟨fun _ _ => .ok [
          ⟨⟨"b", "reads", none, none⟩, [⟨Int64.minValue, 8⟩, ⟨Int64.maxValue, 1⟩]⟩,
          ⟨⟨"c", "reads", none, none⟩, []⟩,
          ⟨⟨"a", "reads", none, none⟩, [⟨7, 5⟩, ⟨Int64.maxValue, Int64.maxValue⟩]⟩],
          fun _ => .ok []⟩
        ⟨"", .timeSeries, none, .named "reads", none, none, Int64.maxValue, 0, 3⟩).1 =
      .ok (.series ⟨Int64.maxValue, 0,
        [⟨Int64.maxValue, Int64.minValue⟩, ⟨Int64.minValue, 0⟩, ⟨Int64.minValue + 1, 0⟩]⟩) :=
  (execute_anyTable (.idle true) (.inr (by decide)) rfl rfl
    (show ∀ row ∈ [
        (⟨⟨"a", "reads", none, none⟩, [⟨7, 5⟩, ⟨Int64.maxValue, Int64.maxValue⟩]⟩ : SeriesRow),
        ⟨⟨"b", "reads", none, none⟩, [⟨Int64.minValue, 8⟩, ⟨Int64.maxValue, 1⟩]⟩,
        ⟨⟨"c", "reads", none, none⟩, []⟩], Increasing row.points by decide)
    (by decide) rfl).trans
    (congrArg (fun points => Except.ok (Answer.series ⟨Int64.maxValue, 0, points⟩))
      (by decide +kernel))

end SeriesQuery.Engine
