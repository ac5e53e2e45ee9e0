import SeriesQuery.Answer
import SeriesQuery.Query.Descriptor
import SeriesQuery.Series.Merge
import SeriesQuery.Series.Ratio
import SeriesQuery.Table.Backend
import SeriesQuery.Table.Cache

set_option autoImplicit false

/-!
# The query engine

The engine answers requests in canonical form. A total is the sum of the rows of one scan of totals.
A time series needs the table of the engine's resolution; its rows are merged and aligned to the
window. The derived busyness takes two such scans, of tuples read and of events processed, and
divides them second by second. Each executed query is counted with its outcome.
-/

namespace SeriesQuery

open SeriesQuery.Query SeriesQuery.Series SeriesQuery.Store SeriesQuery.Table

structure Engine where
  /-- The resolution of the time-series table that it reads. -/
  resolution : UInt32
  tables : Tables
  counters : Counters
  /-- The scans that reached its tables, the latest first. -/
  scans : List Scan
  deriving Repr

namespace Engine

def standardResolution : UInt32 := 1

def busynessNumerator : String := "tuples.read"

def busynessDenominator : String := "events.processed"

/-- A new engine. The table of totals is opened at once, and where it fails to open there is no
engine. -/
def start (opened : Except StorageError Unit) (resolution : UInt32) (slow : Bool) :
    Except Error Engine :=
  match opened with
  | .error cause => .error (.storageUnavailable cause)
  | .ok () => .ok ⟨resolution, .empty slow, .zero, []⟩

def seriesScan (query : Descriptor) (metric : String) (tag : Option String) : SeriesScan :=
  ⟨⟨query.context, metric, tag, query.runId⟩, query.start, query.finish⟩

def scanMerged (engine : Engine) (backend : Backend) (resolution : UInt32) (scan : SeriesScan) :
    Except Error (List Point) × Engine :=
  let engine := { engine with scans := .series scan :: engine.scans }
  match backend.scanSeries resolution scan with
  | .ok rows => (.ok (merge (rows.map SeriesRow.points)), engine)
  | .error cause => (.error (.storageUnavailable cause), engine)

def readSeries (engine : Engine) (backend : Backend) (resolution : UInt32) (query : Descriptor) :
    Except Error (List Point) × Engine :=
  match query.metric with
  | .named metric =>
    match engine.scanMerged backend resolution (seriesScan query metric query.tag) with
    | (.ok points, engine) => (.ok (fillDense points query.start query.count), engine)
    | (.error error, engine) => (.error error, engine)
  | .busyness =>
    match engine.scanMerged backend resolution (seriesScan query busynessNumerator none) with
    | (.error error, engine) => (.error error, engine)
    | (.ok numerator, engine) =>
      match engine.scanMerged backend resolution (seriesScan query busynessDenominator none) with
      | (.error error, engine) => (.error error, engine)
      | (.ok denominator, engine) =>
        (.ok (ratioSeries numerator denominator query.start query.count), engine)

/-- Counts an executed query and passes its outcome on. -/
def conclude (engine : Engine) (kind : Kind) (outcome : Except Error Answer) :
    Except Error Answer × Engine :=
  (outcome, { engine with counters := engine.counters.countQuery kind outcome.isOk })

/-- Answers a time-series request once the call for its table is over. -/
def answerSeries (engine : Engine) (backend : Backend) (query : Descriptor)
    (table : Except StorageError Handle) : Except Error Answer × Engine :=
  match table with
  | .error cause => engine.conclude .timeSeries (.error (.storageUnavailable cause))
  | .ok handle =>
    match engine.readSeries backend handle.resolution query with
    | (.error error, engine) => engine.conclude .timeSeries (.error error)
    | (.ok points, engine) =>
      engine.conclude .timeSeries (.ok (.series ⟨query.start, query.finish, points⟩))

def totalsFilter (query : Descriptor) : RowFilter :=
  ⟨query.context, query.metric.name, query.tag, query.runId⟩

/-- The wrapping sum of totals. -/
def sumTotals (rows : List TotalRow) : Int64 :=
  rows.foldl (fun sum row => sum + row.value) 0

def answerTotal (engine : Engine) (backend : Backend) (query : Descriptor) :
    Except Error Answer × Engine :=
  let filter := totalsFilter query
  let engine := { engine with scans := .totals filter :: engine.scans }
  match backend.scanTotals filter with
  | .error cause => engine.conclude .aggregate (.error (.storageUnavailable cause))
  | .ok rows => engine.conclude .aggregate (.ok (.total (sumTotals rows)))

/-- Executes a request, while no other is under way. -/
def execute (engine : Engine) (backend : Backend) (query : Descriptor) :
    Except Error Answer × Engine :=
  match query.kind with
  | .aggregate => engine.answerTotal backend query
  | .timeSeries =>
    let (table, tables) := engine.tables.get engine.resolution
    { engine with tables }.answerSeries backend query table

/-- The samples of all counters with a value. -/
def samples (engine : Engine) : List (String × Nat) :=
  engine.counters.samples engine.tables.loads

end Engine

end SeriesQuery
