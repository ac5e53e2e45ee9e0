import SeriesQuery.Series.Point
import SeriesQuery.Text.Dotted

set_option autoImplicit false

/-!
# Rows and scans

A row of the metrics store is identified by its context, its metric name and, where it has them, its
tag and its run. A scan asks for rows by dotted prefixes; a scan of time series also bounds the
seconds.
-/

namespace SeriesQuery.Store

open SeriesQuery.Text SeriesQuery.Series

structure RowKey where
  context : String
  metric : String
  tag : Option String
  runId : Option String
  deriving DecidableEq, Repr

structure RowFilter where
  /-- Prefix of the context; absent asks for every context. -/
  context : Option String
  metric : String
  /-- Prefix of the tag; absent asks for untagged rows. -/
  tag : Option String
  /-- The run; absent asks for every run. -/
  runId : Option String
  deriving DecidableEq, Repr

/-- Whether a row is among those that a scan asks for. -/
def RowFilter.accepts (filter : RowFilter) (key : RowKey) : Bool :=
  let contextFits := match filter.context with
    | none => true
    | some above => Dotted.isUnder key.context above
  let tagFits := match filter.tag, key.tag with
    | none, none => true
    | some above, some tag => Dotted.isUnder tag above
    | _, _ => false
  let runFits := match filter.runId with
    | none => true
    | some run => key.runId == some run
  contextFits && tagFits && runFits && Dotted.isUnder key.metric filter.metric

/-- A scan of time series: rows, and a window of seconds with both ends in it. -/
structure SeriesScan where
  filter : RowFilter
  start : Int64
  finish : Int64
  deriving DecidableEq, Repr

def SeriesScan.covers (scan : SeriesScan) (time : Int64) : Bool :=
  scan.start ≤ time && time ≤ scan.finish

structure SeriesRow where
  key : RowKey
  points : List Point
  deriving DecidableEq, Repr

structure TotalRow where
  key : RowKey
  value : Int64
  deriving DecidableEq, Repr

/-- The order of rows in the answer to a scan: by context, then metric name, then tag, untagged rows
first. The run does not count. -/
def RowKey.compare (left right : RowKey) : Ordering :=
  (Ord.compare left.context right.context).then <|
    (Ord.compare left.metric right.metric).then <| Ord.compare left.tag right.tag

/-- Whether a row may stand before another in the answer to a scan. -/
def RowKey.le (left right : RowKey) : Bool :=
  (left.compare right).isLE

end SeriesQuery.Store
