set_option autoImplicit false

/-!
# Query descriptors

The canonical form of one metrics request: which rows it reads, what kind of answer it wants and,
for a time series, over which seconds.
-/

namespace SeriesQuery.Query

inductive Kind where
  /-- A dense series with one value a second. -/
  | timeSeries
  | aggregate
  deriving DecidableEq, Repr

/-- The query-string flag that picks a kind, which is also the kind's name in the counters. -/
def Kind.flag : Kind → String
  | .timeSeries => "time_series"
  | .aggregate => "aggregate"

inductive Metric where
  | named (name : String)
  /-- The percentage of tuples read over events processed. -/
  | busyness
  deriving DecidableEq, Repr

def busynessName : String := "busyness"

/-- The metric that a name asks for. Only the exact name asks for the derived busyness. -/
def Metric.ofName (name : String) : Metric :=
  if name = busynessName then .busyness else .named name

def Metric.name : Metric → String
  | .named name => name
  | .busyness => busynessName

def Metric.isBusyness : Metric → Bool
  | .busyness => true
  | .named _ => false

theorem Metric.name_ofName (name : String) : (Metric.ofName name).name = name := by
  unfold Metric.ofName
  split
  · simp_all [Metric.name]
  · rfl

structure Descriptor where
  sourceUri : String
  kind : Kind
  /-- Prefix of the context; absent reads every context. -/
  context : Option String
  metric : Metric
  /-- Prefix of the tag; absent reads untagged rows. -/
  tag : Option String
  /-- The run that is read; absent reads every run. -/
  runId : Option String
  /-- First second of the window, time series only. -/
  start : Int64
  /-- Last second of the window, time series only. -/
  finish : Int64
  /-- Number of points in the answer, time series only. -/
  count : Nat
  deriving DecidableEq, Repr

end SeriesQuery.Query
