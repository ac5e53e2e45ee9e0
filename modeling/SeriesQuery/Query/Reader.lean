import SeriesQuery.Query.Parameters
import SeriesQuery.Query.Path
import SeriesQuery.Query.Selection

set_option autoImplicit false

/-!
# Reading metrics URIs

The path of a URI says which rows are read, its query string what is answered. A fault in the path
is found before any fault in the query string.
-/

namespace SeriesQuery.Query

structure Reader where
  /-- Seconds by which a window without an end stays behind the present. -/
  delay : Int64
  /-- The greatest `count` that is allowed. -/
  maxCount : Nat
  deriving DecidableEq, Repr

/-- The delay that is used unless another is set, in seconds. -/
def Reader.standardDelay : Int64 := 2

/-- The limit on points that is used unless another is set: the seconds of a day. -/
def Reader.standardMaxCount : Nat := 86400

def Reader.ofDelay (delay : Int64) : Reader :=
  ⟨delay, standardMaxCount⟩

def Reader.standard : Reader :=
  ofDelay standardDelay

def Reader.clock (reader : Reader) (now : Int64) : Clock :=
  ⟨now, reader.delay, reader.maxCount⟩

/-- The request that a URI writes, at the present second `now`. -/
def Reader.read (reader : Reader) (now : Int64) (uri : String) : Except Refusal Descriptor := do
  let (path, query) := splitUri uri.toList
  let selection ← segments path >>= select
  let parameters ← Parameters.read (reader.clock now) query
  return {
    sourceUri := uri
    kind := parameters.kind
    context := selection.context
    metric := Metric.ofName selection.metric
    tag := selection.tag
    runId := parameters.runId
    start := parameters.start
    finish := parameters.finish
    count := parameters.count }

end SeriesQuery.Query
