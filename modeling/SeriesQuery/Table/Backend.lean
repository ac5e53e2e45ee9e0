import SeriesQuery.Error
import SeriesQuery.Store.Scan

set_option autoImplicit false

/-!
# Backends

What the engine knows of the tables behind it is how they answer scans. A backend gives these
answers; a store is one, and a stand-in replaces some of the answers of another.
-/

namespace SeriesQuery.Table

open SeriesQuery.Store

inductive Scan where
  | series (scan : SeriesScan)
  | totals (filter : RowFilter)
  deriving DecidableEq, Repr

structure Backend where
  /-- The rows of the time-series table of a resolution. -/
  scanSeries : UInt32 → SeriesScan → Except StorageError (List SeriesRow)
  scanTotals : RowFilter → Except StorageError (List TotalRow)

/-- The tables of a store, whose scans always succeed. -/
def Backend.ofStore (store : Store) : Backend where
  scanSeries resolution scan := .ok (store.scanSeries resolution scan)
  scanTotals filter := .ok (store.scanTotals filter)

/-- Answers that stand in for those of a backend. -/
structure StandIn where
  failure : Option StorageError
  /-- The rows among which a scan of time series gets those of its very metric. -/
  series : Option (List SeriesRow)
  /-- The rows that every scan of totals gets. -/
  totals : Option (List TotalRow)
  deriving Repr

def StandIn.none : StandIn := ⟨.none, .none, .none⟩

/-- A backend with some of its answers replaced. -/
def StandIn.over (standIn : StandIn) (backend : Backend) : Backend where
  scanSeries resolution scan :=
    match standIn.failure, standIn.series with
    | some failure, _ => .error failure
    | .none, some rows => .ok (rows.filter fun row => row.key.metric == scan.filter.metric)
    | .none, .none => backend.scanSeries resolution scan
  scanTotals filter :=
    match standIn.failure, standIn.totals with
    | some failure, _ => .error failure
    | .none, some rows => .ok rows
    | .none, .none => backend.scanTotals filter

end SeriesQuery.Table
