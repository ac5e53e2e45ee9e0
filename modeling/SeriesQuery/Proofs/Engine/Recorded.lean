import SeriesQuery.Proofs.Engine.Answer
import SeriesQuery.Proofs.Series.Cursor
import SeriesQuery.Proofs.Store.Window
import SeriesQuery.Proofs.Table.Reachable

set_option autoImplicit false

/-!
# Answers from recorded history

An engine that reads seconds answers a named time series with exactly what was recorded: in every
second of the answer that lies in the window stands the sum of all that was recorded there for the
rows asked for, and in all others stands 0.
-/

namespace SeriesQuery.Engine

open SeriesQuery.Query SeriesQuery.Series SeriesQuery.Store SeriesQuery.Table

/-- Counted from a start, fewer seconds than there are wrap around only to seconds before it. -/
theorem target_lt_of_overflow {start : Int64} {offset : Nat} (bounded : offset < UInt64.size)
    (overflow : Int64.maxValue.toInt < start.toInt + offset) :
    start + Int64.ofNat offset < start := by
  have low := start.le_toInt
  have high := start.toInt_le
  have top := Int64.toInt_maxValue
  have bottom := Int64.toInt_minValue
  have size : UInt64.size = 2 ^ 64 := rfl
  have wrapped : start + Int64.ofNat offset = Int64.ofInt (start.toInt + offset - 2 ^ 64) := by
    rw [target_eq_ofInt, Int64.ofInt_sub]
    simp
  rw [wrapped, Int64.lt_iff_toInt_lt, Int64.toInt_ofInt_of_le] <;> omega

/-- The points of the scan of a store at a resolution of one second count what was recorded. -/
theorem totalAt_scan_ofRecordings (calls : List Recording) (scan : SeriesScan) (time : Int64) :
    totalAt time (merge (((ofRecordings calls).scanSeries 1 scan).map SeriesRow.points)) =
      if scan.covers time then recordedAt calls scan.filter time else 0 := by
  rw [totalAt_merge, ← List.flatMap_def, totalAt_scanSeries_one, totalAt_ofRecordings]

/-- Aligned to the seconds from the start of its window on, a scan of a store gives what was recorded
in each second of the window. -/
theorem fillDense_scan_ofRecordings (calls : List Recording) (scan : SeriesScan) {count : Nat}
    (bounded : count < UInt64.size) :
    fillDense (merge (((ofRecordings calls).scanSeries 1 scan).map SeriesRow.points))
        scan.start count =
      (List.range count).map fun offset =>
        let time := scan.start + Int64.ofNat offset
        ⟨time, if scan.start ≤ time ∧ time ≤ scan.finish
          then recordedAt calls scan.filter time else 0⟩ := by
  have increasing : Increasing
      (merge (((ofRecordings calls).scanSeries 1 scan).map SeriesRow.points)) := by
    apply merge_increasing
    intro row member
    obtain ⟨answer, inside, rfl⟩ := List.mem_map.mp member
    exact scanSeries_increasing inside
  rw [fillDense_of_increasing increasing]
  refine List.map_congr_left fun offset member => ?_
  have inside := List.mem_range.mp member
  simp only [totalAt_scan_ofRecordings, Point.mk.injEq, true_and]
  by_cases fits : scan.start.toInt + offset ≤ Int64.maxValue.toInt
  · simp [fits, SeriesScan.covers]
  · -- The second has wrapped around to before the window.
    have before : scan.start + Int64.ofNat offset < scan.start :=
      target_lt_of_overflow (Nat.lt_trans inside bounded) (by omega)
    rw [if_neg fits, if_neg]
    grind

/-- A named time series has one point for each second from the start on, which holds the sum of all
that was recorded in this second for the rows asked for if the second lies in the window. The count
of a request is a number of 64 bits. -/
theorem execute_ofRecordings {engine : Engine} {traffic : List Call}
    (reached : Traffic.Reachable ⟨engine.tables, traffic⟩) (resolution : engine.resolution = 1)
    (constructible : engine.tables.isLoaded 1 = true ∨ 1 ∉ engine.tables.failing)
    (calls : List Recording) {query : Descriptor} {name : String}
    (kind : query.kind = .timeSeries) (metric : query.metric = .named name)
    (bounded : query.count < UInt64.size) :
    (engine.execute (.ofStore (.ofRecordings calls)) query).1 =
      .ok (.series ⟨query.start, query.finish, (List.range query.count).map fun offset =>
        let time := query.start + Int64.ofNat offset
        ⟨time, if query.start ≤ time ∧ time ≤ query.finish
          then recordedAt calls ⟨query.context, name, query.tag, query.runId⟩ time else 0⟩⟩) := by
  have verdict : engine.tables.verdict 1 = .ok 1 := by
    rcases constructible with loaded | healthy
    · obtain ⟨handle, found⟩ := Option.isSome_iff_exists.mp loaded
      exact Tables.verdict_of_loaded found
    · exact Tables.verdict_of_healthy healthy
  have points : pointsFor (.ofStore (.ofRecordings calls)) 1 query =
      .ok (fillDense (merge (((ofRecordings calls).scanSeries 1
        (seriesScan query name query.tag)).map SeriesRow.points)) query.start query.count) := by
    rw [pointsFor, metric]
    rfl
  rw [execute_fst reached.sound.consistent, resolution, verdict, outcome, kind]
  simp only [seriesOutcome, points]
  exact congrArg (fun points => Except.ok (Answer.series ⟨query.start, query.finish, points⟩))
    (fillDense_scan_ofRecordings calls (seriesScan query name query.tag) bounded)

theorem execute_ofRecordings_shop :
    ((Engine.mk 1 (.empty false) .zero []).execute
        (.ofStore (.ofRecordings [
          ⟨⟨"shop.f.orders", "tuples.read", none, some "first"⟩, 10, Int64.maxValue⟩,
          ⟨⟨"shop.f.orders", "tuples.read", none, some "second"⟩, 10, 5⟩,
          ⟨⟨"shop", "tuples", none, some "first"⟩, 10, 1⟩,
          ⟨⟨"shop", "tuples", none, some "first"⟩, 12, 3⟩]))
        ⟨"", .timeSeries, some "shop", .named "tuples", none, some "first", 9, 11, 4⟩).1 =
      .ok (.series ⟨9, 11, [⟨9, 0⟩, ⟨10, Int64.minValue⟩, ⟨11, 0⟩, ⟨12, 0⟩]⟩) :=
  (execute_ofRecordings (.idle false) rfl (.inr (by decide)) _ rfl rfl (by decide)).trans
    (congrArg (fun points => Except.ok (Answer.series ⟨9, 11, points⟩)) (by decide +kernel))

end SeriesQuery.Engine
