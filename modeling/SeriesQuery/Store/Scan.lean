import SeriesQuery.Store.Basic

set_option autoImplicit false

/-!
# Scanning the store

A scan of totals gives the rows that are asked for. A scan of time series at a resolution gives for
each such row the seconds in the window, gathered into buckets as wide as the resolution; rows with
nothing in the window are left out. Rows come in the order of context, metric name and tag.
-/

namespace SeriesQuery.Store

open SeriesQuery.Series

/-- The width of the buckets at a resolution, in seconds, at least one. -/
def bucketWidth (resolution : UInt32) : Int :=
  max (resolution.toNat : Int) 1

/-- The first second of the bucket that a second falls into. Buckets start at the multiples of their
width; a start before the least second wraps around. -/
def bucketStart (resolution : UInt32) (time : Int64) : Int64 :=
  time - Int64.ofInt (time.toInt % bucketWidth resolution)

/-- Points gathered into buckets, in the order of the buckets' starts. -/
def gather (resolution : UInt32) (points : List Point) : List Point :=
  points.foldl (fun buckets point =>
    addPoint (bucketStart resolution point.time) point.value buckets) []

/-- The answer of one row to a scan; none if the scan does not ask for the row or the row has
nothing in the window. -/
def scanRow (resolution : UInt32) (scan : SeriesScan) (row : SeriesRow) : Option SeriesRow :=
  if scan.filter.accepts row.key then
    match row.points.filter fun point => scan.covers point.time with
    | [] => none
    | seen => some ⟨row.key, gather resolution seen⟩
  else none

/-- The rows that a scan of time series gives. A window that ends before it starts gives none. -/
def scanSeries (store : Store) (resolution : UInt32) (scan : SeriesScan) : List SeriesRow :=
  if scan.finish < scan.start then []
  else (store.series.filterMap (scanRow resolution scan)).mergeSort fun left right =>
    left.key.le right.key

def scanTotals (store : Store) (filter : RowFilter) : List TotalRow :=
  (store.totals.filter fun row => filter.accepts row.key).mergeSort fun left right =>
    left.key.le right.key

end SeriesQuery.Store
