import SeriesQuery.Error
import SeriesQuery.Files
import SeriesQuery.Json.Decode
import SeriesQuery.Json.Printer
import SeriesQuery.Store.Basic

set_option autoImplicit false

/-!
# Fixtures

A fixture is the contents of a store written as JSON: a list of time series and a list of totals,
either of which may be left out. Rows and seconds that stand in it more than once are added up.
-/

namespace SeriesQuery

open SeriesQuery.Series SeriesQuery.Store

def Series.Point.toJson (point : Point) : Json :=
  Json.ofMembers [("time", Json.ofInt64 point.time), ("value", Json.ofInt64 point.value)]

def Series.Point.ofJson? (json : Json) : Option Point := do
  match ← json.record? ["time", "value"] 2 with
  | [time, value] => return ⟨← (← time).toInt64?, ← (← value).toInt64?⟩
  | _ => none

namespace Store

/-- The optional text of a member that may be left out. -/
def optionalText? (member : Option Json) : Option (Option String) :=
  Json.orDefault none (Json.toOption? Json.toText?) member

/-- The members that write what identifies a row. -/
def RowKey.members (key : RowKey) : List (String × Json) :=
  [("context", Json.ofText key.context), ("metric", Json.ofText key.metric),
   ("tag", Json.ofText? key.tag), ("run_id", Json.ofText? key.runId)]

/-- What identifies a row, from the members that write it. -/
def RowKey.ofMembers? (context metric tag runId : Option Json) : Option RowKey := do
  return ⟨← (← context).toText?, ← (← metric).toText?, ← optionalText? tag, ← optionalText? runId⟩

def SeriesRow.toJson (row : SeriesRow) : Json :=
  Json.ofMembers (row.key.members ++ [("points", .array (row.points.map Point.toJson))])

def SeriesRow.ofJson? (json : Json) : Option SeriesRow := do
  match ← json.record? ["context", "metric", "tag", "run_id", "points"] 5 with
  | [context, metric, tag, runId, points] =>
    return ⟨← RowKey.ofMembers? context metric tag runId, ← (← points).toList? Point.ofJson?⟩
  | _ => none

def TotalRow.toJson (row : TotalRow) : Json :=
  Json.ofMembers (row.key.members ++ [("value", Json.ofInt64 row.value)])

def TotalRow.ofJson? (json : Json) : Option TotalRow := do
  match ← json.record? ["context", "metric", "tag", "run_id", "value"] 5 with
  | [context, metric, tag, runId, value] =>
    return ⟨← RowKey.ofMembers? context metric tag runId, ← (← value).toInt64?⟩
  | _ => none

end Store

structure Fixture where
  series : List SeriesRow
  totals : List TotalRow
  deriving DecidableEq, Repr

namespace Fixture

def toJson (fixture : Fixture) : Json :=
  Json.ofMembers [
    ("time_series", .array (fixture.series.map SeriesRow.toJson)),
    ("aggregates", .array (fixture.totals.map TotalRow.toJson))]

def ofJson? (json : Json) : Option Fixture := do
  match ← json.record? ["time_series", "aggregates"] 0 with
  | [series, totals] =>
    return ⟨← Json.orDefault [] (Json.toList? SeriesRow.ofJson?) series,
      ← Json.orDefault [] (Json.toList? TotalRow.ofJson?) totals⟩
  | _ => none

def read? (text : String) : Option Fixture :=
  (Json.read? text.toList).bind ofJson?

end Fixture

/-- Adds the points of a row one by one. -/
def Store.recordRow (store : Store) (row : SeriesRow) : Store :=
  row.points.foldl (fun store point => store.record row.key point.time point.value) store

def Store.ofFixture (fixture : Fixture) : Store :=
  let store := fixture.series.foldl Store.recordRow Store.empty
  fixture.totals.foldl (fun store row => store.increment row.key row.value) store

def Store.load (files : Files) (path : String) : Except Error Store :=
  match files path with
  | .error cause => .error (.unreadable cause.message)
  | .ok text =>
    match Fixture.read? text with
    | none => .error (.configuration ("invalid fixture " ++ path ++ ": it is not a fixture record"))
    | some fixture => .ok (Store.ofFixture fixture)

end SeriesQuery
