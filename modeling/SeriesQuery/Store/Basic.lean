import SeriesQuery.Store.Row

set_option autoImplicit false

/-!
# The metrics store

Counted values by row: for each row a value for each second in which something was counted, and for
each row a running total. The two are separate. Rows are kept in the order in which they first
appeared, the points of a row in the order of time.
-/

namespace SeriesQuery

open SeriesQuery.Series SeriesQuery.Store

structure Store where
  /-- The time series, with points in the order of time. -/
  series : List SeriesRow
  totals : List TotalRow
  deriving DecidableEq, Repr

namespace Store

def empty : Store :=
  ⟨[], []⟩

/-- Adds a value at a second to points in the order of time. -/
def addPoint (time value : Int64) : List Point → List Point
  | [] => [⟨time, value⟩]
  | point :: rest =>
    if time < point.time then ⟨time, value⟩ :: point :: rest
    else if point.time = time then ⟨time, point.value + value⟩ :: rest
    else point :: addPoint time value rest

/-- Adds a value at a second to one of a list of series, which is new if it is not there yet. -/
def addSeries (key : RowKey) (time value : Int64) : List SeriesRow → List SeriesRow
  | [] => [⟨key, [⟨time, value⟩]⟩]
  | row :: rest =>
    if row.key = key then ⟨key, addPoint time value row.points⟩ :: rest
    else row :: addSeries key time value rest

/-- Adds a value to one of a list of totals, which is new if it is not there yet. -/
def addTotal (key : RowKey) (value : Int64) : List TotalRow → List TotalRow
  | [] => [⟨key, value⟩]
  | row :: rest =>
    if row.key = key then ⟨key, row.value + value⟩ :: rest
    else row :: addTotal key value rest

/-- Adds a value to a second of a row. -/
def record (store : Store) (key : RowKey) (time value : Int64) : Store :=
  { store with series := addSeries key time value store.series }

/-- Adds a value to the total of a row. -/
def increment (store : Store) (key : RowKey) (value : Int64) : Store :=
  { store with totals := addTotal key value store.totals }

def rowCount (store : Store) : Nat :=
  store.series.length

end Store

end SeriesQuery
