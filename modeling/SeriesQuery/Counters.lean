import SeriesQuery.Query.Descriptor
import SeriesQuery.Text.Numeral

set_option autoImplicit false

/-!
# Counters

What the service publishes about itself: executed queries by kind and outcome, constructions of
tables by outcome, and how many URIs batches hold. Every counter starts at zero and only grows.
-/

namespace SeriesQuery

open SeriesQuery.Query SeriesQuery.Text

/-- How often something succeeded and how often it failed. -/
structure Tally where
  ok : Nat
  failed : Nat
  deriving DecidableEq, Repr

namespace Tally

def zero : Tally := ⟨0, 0⟩

def count (tally : Tally) (succeeded : Bool) : Tally :=
  if succeeded then { tally with ok := tally.ok + 1 } else { tally with failed := tally.failed + 1 }

def total (tally : Tally) : Nat :=
  tally.ok + tally.failed

theorem total_count (tally : Tally) (succeeded : Bool) :
    (tally.count succeeded).total = tally.total + 1 := by
  cases succeeded <;> simp only [count, total] <;> simp <;> omega

end Tally

/-- The sizes of batches: how many batches there were, how many URIs they held in all, and for each
bound how many batches held no more URIs than that. -/
structure BatchSizes where
  batches : Nat
  uris : Nat
  /-- The batches up to each bound, in the order of `BatchSizes.bounds`. -/
  within : List Nat
  deriving DecidableEq, Repr

namespace BatchSizes

def bounds : List Nat := [1, 5, 10, 50, 100, 500, 1000]

def zero : BatchSizes := ⟨0, 0, bounds.map fun _ => 0⟩

/-- Counts a batch of `size` URIs. -/
def count (sizes : BatchSizes) (size : Nat) : BatchSizes where
  batches := sizes.batches + 1
  uris := sizes.uris + size
  within := List.zipWith (fun bound batches => if size ≤ bound then batches + 1 else batches)
    bounds sizes.within

end BatchSizes

structure Counters where
  timeSeries : Tally
  aggregate : Tally
  batchSizes : BatchSizes
  deriving DecidableEq, Repr

namespace Counters

def zero : Counters := ⟨.zero, .zero, .zero⟩

def queries (counters : Counters) : Kind → Tally
  | .timeSeries => counters.timeSeries
  | .aggregate => counters.aggregate

def countQuery (counters : Counters) (kind : Kind) (succeeded : Bool) : Counters :=
  match kind with
  | .timeSeries => { counters with timeSeries := counters.timeSeries.count succeeded }
  | .aggregate => { counters with aggregate := counters.aggregate.count succeeded }

def countBatch (counters : Counters) (size : Nat) : Counters :=
  { counters with batchSizes := counters.batchSizes.count size }

def label (name value : String) : String :=
  "\x7b" ++ name ++ "=\"" ++ value ++ "\"\x7d"

def querySamples (counters : Counters) (kind : Kind) : List (String × Nat) :=
  let tally := counters.queries kind
  let sample (status : String) : String :=
    "metrics_query_queries_total\x7bkind=\"" ++ kind.flag ++ "\",status=\"" ++ status ++ "\"\x7d"
  [(sample "ok", tally.ok), (sample "error", tally.failed),
   ("metrics_query_duration_seconds_count" ++ label "kind" kind.flag, tally.total)]

def loadSamples (loads : Tally) : List (String × Nat) :=
  let name := "metrics_query_table_loads_total"
  [(name ++ label "status" "ok", loads.ok), (name ++ label "status" "error", loads.failed)]

def sizeSamples (sizes : BatchSizes) : List (String × Nat) :=
  let name := "metrics_query_batch_items"
  let bucket (bound : String) : String := name ++ "_bucket" ++ label "le" bound
  (BatchSizes.bounds.zip sizes.within).map (fun (bound, batches) =>
    (bucket (Numeral.natText bound), batches)) ++
  [(bucket "+Inf", sizes.batches), (name ++ "_sum", sizes.uris), (name ++ "_count", sizes.batches)]

/-- All samples with a value, by name with labels. -/
def samples (counters : Counters) (loads : Tally) : List (String × Nat) :=
  (counters.querySamples .timeSeries ++ counters.querySamples .aggregate ++ loadSamples loads ++
    sizeSamples counters.batchSizes).filter (·.2 ≠ 0)

end Counters

end SeriesQuery
