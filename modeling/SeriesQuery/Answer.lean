import SeriesQuery.Store.Fixture

set_option autoImplicit false

/-!
# Answers

The answer to a query is a dense series over its window or one total. In JSON a series is a record
of `start`, `end` and `data`, a total a record of `data` alone; what `data` holds tells them apart.
-/

namespace SeriesQuery

open SeriesQuery.Series

/-- The dense series that answers a query, with the window that was asked for. -/
structure SeriesAnswer where
  start : Int64
  finish : Int64
  points : List Point
  deriving DecidableEq, Repr

inductive Answer where
  | series (series : SeriesAnswer)
  | total (value : Int64)
  deriving DecidableEq, Repr

def SeriesAnswer.toJson (series : SeriesAnswer) : Json :=
  Json.ofMembers [
    ("start", Json.ofInt64 series.start), ("end", Json.ofInt64 series.finish),
    ("data", .array (series.points.map Point.toJson))]

def SeriesAnswer.ofJson? (json : Json) : Option SeriesAnswer := do
  match ← json.record? ["start", "end", "data"] 3 with
  | [start, finish, data] =>
    return ⟨← (← start).toInt64?, ← (← finish).toInt64?, ← (← data).toList? Point.ofJson?⟩
  | _ => none

namespace Answer

def toJson : Answer → Json
  | .series answer => answer.toJson
  | .total value => Json.ofMembers [("data", Json.ofInt64 value)]

def totalOfJson? (json : Json) : Option Int64 := do
  match ← json.record? ["data"] 1 with
  | [data] => (← data).toInt64?
  | _ => none

/-- How deep values may be nested in an answer, as its reader keeps all of it until it knows which
kind of answer it is. -/
def depthLimit : Nat := 127

/-- The answer that a JSON record writes, at a depth of `outer` inside other records. As the whole
record is kept before its kind is known, all strings and numbers in it must be proper, also in
members that are passed over. -/
def ofJsonAt? (outer : Nat) (json : Json) : Option Answer :=
  if depthLimit < outer + json.depth ∨ !json.isPlain then none
  else match SeriesAnswer.ofJson? json with
    | some answer => some (.series answer)
    | none => (totalOfJson? json).map .total

def ofJson? (json : Json) : Option Answer :=
  ofJsonAt? 0 json

def series? : Answer → Option SeriesAnswer
  | .series answer => some answer
  | .total _ => none

def total? : Answer → Option Int64
  | .series _ => none
  | .total value => some value

end Answer

end SeriesQuery
