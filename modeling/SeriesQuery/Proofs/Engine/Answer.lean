import SeriesQuery.Engine
import SeriesQuery.Proofs.Table.Verdict

set_option autoImplicit false

/-!
# What an answer depends on

The answer to a request depends on the backend, on the request and, for a time series, on what the
call for the table gets. Counters, logged scans and all else in an engine have no part in it, and
answering changes neither the tables nor the resolution of the engine.
-/

namespace SeriesQuery.Engine

open SeriesQuery.Query SeriesQuery.Series SeriesQuery.Store SeriesQuery.Table

/-- The merged rows of a scan of the table of a resolution. -/
def merged (backend : Backend) (resolution : UInt32) (scan : SeriesScan) :
    Except Error (List Point) :=
  match backend.scanSeries resolution scan with
  | .ok rows => .ok (merge (rows.map SeriesRow.points))
  | .error cause => .error (.storageUnavailable cause)

/-- The points that answer a time-series request from the table of a resolution. -/
def pointsFor (backend : Backend) (resolution : UInt32) (query : Descriptor) :
    Except Error (List Point) :=
  match query.metric with
  | .named metric => do
    let points ← merged backend resolution (seriesScan query metric query.tag)
    return fillDense points query.start query.count
  | .busyness => do
    let numerator ← merged backend resolution (seriesScan query busynessNumerator none)
    let denominator ← merged backend resolution (seriesScan query busynessDenominator none)
    return ratioSeries numerator denominator query.start query.count

def seriesOutcome (backend : Backend) (query : Descriptor) (table : Except StorageError UInt32) :
    Except Error Answer :=
  match table with
  | .error cause => .error (.storageUnavailable cause)
  | .ok resolution => do
    let points ← pointsFor backend resolution query
    return .series ⟨query.start, query.finish, points⟩

def totalOutcome (backend : Backend) (query : Descriptor) : Except Error Answer :=
  match backend.scanTotals (totalsFilter query) with
  | .error cause => .error (.storageUnavailable cause)
  | .ok rows => .ok (.total (sumTotals rows))

/-- The answer to a request, told by what the call for the table gets. -/
def outcome (backend : Backend) (query : Descriptor) (table : Except StorageError UInt32) :
    Except Error Answer :=
  match query.kind with
  | .aggregate => totalOutcome backend query
  | .timeSeries => seriesOutcome backend query table

theorem scanMerged_eq (engine : Engine) (backend : Backend) (resolution : UInt32)
    (scan : SeriesScan) :
    engine.scanMerged backend resolution scan =
      (merged backend resolution scan, { engine with scans := .series scan :: engine.scans }) := by
  rw [scanMerged, merged]
  cases backend.scanSeries resolution scan with
  | ok rows => rfl
  | error cause => rfl

/-- The scans that answer a time-series request from the table of a resolution, the latest first. Of the
two scans of the busyness the second is made only if the first has succeeded. -/
def seriesScans (backend : Backend) (resolution : UInt32) (query : Descriptor) : List Scan :=
  match query.metric with
  | .named metric => [.series (seriesScan query metric query.tag)]
  | .busyness =>
    match merged backend resolution (seriesScan query busynessNumerator none) with
    | .error _ => [.series (seriesScan query busynessNumerator none)]
    | .ok _ => [.series (seriesScan query busynessDenominator none),
        .series (seriesScan query busynessNumerator none)]

def tableScans (backend : Backend) (query : Descriptor) : Except StorageError UInt32 → List Scan
  | .error _ => []
  | .ok resolution => seriesScans backend resolution query

/-- Logs scans and counts the request that made them. -/
def record (engine : Engine) (scans : List Scan) (kind : Kind) (succeeded : Bool) : Engine :=
  { engine with
    counters := engine.counters.countQuery kind succeeded
    scans := scans ++ engine.scans }

theorem readSeries_eq (engine : Engine) (backend : Backend) (resolution : UInt32)
    (query : Descriptor) :
    engine.readSeries backend resolution query = (pointsFor backend resolution query,
      { engine with scans := seriesScans backend resolution query ++ engine.scans }) := by
  rw [readSeries, pointsFor, seriesScans]
  cases query.metric with
  | named metric =>
      simp only [scanMerged_eq]
      cases merged backend resolution (seriesScan query metric query.tag) with
      | ok points => rfl
      | error error => rfl
  | busyness =>
      simp only [scanMerged_eq]
      cases merged backend resolution (seriesScan query busynessNumerator none) with
      | error error => rfl
      | ok numerator =>
          cases merged backend resolution (seriesScan query busynessDenominator none) with
          | ok denominator => rfl
          | error error => rfl

/-- A time series is answered from the table alone, and its scans and its outcome are recorded. -/
theorem answerSeries_eq (engine : Engine) (backend : Backend) (query : Descriptor)
    (table : Except StorageError Handle) :
    engine.answerSeries backend query table =
      (seriesOutcome backend query (table.map Handle.resolution),
        engine.record (tableScans backend query (table.map Handle.resolution)) .timeSeries
          (seriesOutcome backend query (table.map Handle.resolution)).isOk) := by
  cases table with
  | error cause => rfl
  | ok handle =>
      rw [answerSeries, readSeries_eq, Except.map, seriesOutcome, tableScans]
      cases pointsFor backend handle.resolution query with
      | ok points => rfl
      | error error => rfl

theorem answerTotal_eq (engine : Engine) (backend : Backend) (query : Descriptor) :
    engine.answerTotal backend query =
      (totalOutcome backend query,
        engine.record [.totals (totalsFilter query)] .aggregate
          (totalOutcome backend query).isOk) := by
  rw [answerTotal, totalOutcome]
  cases backend.scanTotals (totalsFilter query) with
  | ok rows => rfl
  | error cause => rfl

/-- A time series is answered from what the call for the table gets. -/
theorem execute_timeSeries (engine : Engine) (backend : Backend) {query : Descriptor}
    (kind : query.kind = .timeSeries) :
    (engine.execute backend query).1 =
      seriesOutcome backend query
        ((engine.tables.get engine.resolution).1.map Handle.resolution) := by
  simp only [execute, kind, answerSeries_eq]

theorem execute_fst {engine : Engine} {inFlight : UInt32 → Nat}
    (consistent : engine.tables.Consistent inFlight) (backend : Backend) (query : Descriptor) :
    (engine.execute backend query).1 =
      outcome backend query (engine.tables.verdict engine.resolution) := by
  rw [outcome]
  cases kind : query.kind with
  | aggregate => simp only [execute, kind, answerTotal_eq]
  | timeSeries =>
      rw [engine.execute_timeSeries backend kind, Tables.get_verdict consistent]

/-- A series of a named metric is filled from the merged rows of its scan. -/
theorem execute_named {engine : Engine} {inFlight : UInt32 → Nat}
    (consistent : engine.tables.Consistent inFlight)
    (constructible : engine.tables.isLoaded engine.resolution = true ∨
      engine.resolution ∉ engine.tables.failing)
    {backend : Backend} {query : Descriptor} {name : String} (kind : query.kind = .timeSeries)
    (metric : query.metric = .named name) {rows : List SeriesRow}
    (scanned : backend.scanSeries engine.resolution (seriesScan query name query.tag) =
      .ok rows) :
    (engine.execute backend query).1 = .ok (.series ⟨query.start, query.finish,
      fillDense (merge (rows.map SeriesRow.points)) query.start query.count⟩) := by
  have points : pointsFor backend engine.resolution query =
      .ok (fillDense (merge (rows.map SeriesRow.points)) query.start query.count) := by
    simp only [pointsFor, metric, merged, scanned]
    rfl
  rw [execute_fst consistent, outcome, kind, Tables.verdict_of_constructible constructible]
  simp only [seriesOutcome, points]
  rfl

end SeriesQuery.Engine
