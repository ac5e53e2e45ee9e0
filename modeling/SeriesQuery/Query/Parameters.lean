import SeriesQuery.Query.Descriptor
import SeriesQuery.Query.Refusal
import SeriesQuery.Text.Blank
import SeriesQuery.Text.Form
import SeriesQuery.Text.Letter

set_option autoImplicit false

/-!
# Query-string parameters

The query string picks the kind of query and the window of a time series. Of a name given twice the
first value counts, and unknown names are passed over. A `count` makes a time series with a window;
without one, the first of the flags `time_series` and `aggregate` that is true picks the kind, and
the window is all zeros.
-/

namespace SeriesQuery.Query

open SeriesQuery.Text

structure Clock where
  now : Int64
  delay : Int64
  maxCount : Nat
  deriving DecidableEq, Repr

structure Parameters where
  kind : Kind
  runId : Option String
  start : Int64
  finish : Int64
  count : Nat
  deriving DecidableEq, Repr

def value? (pairs : List (List Char × List Char)) (name : String) : Option (List Char) :=
  pairs.lookup name.toList

/-- A count: a natural number of 64 bits. -/
def readCount (value : List Char) : Except Refusal Nat :=
  match Numeral.natural? UInt64.size (trim value) with
  | some count => .ok count
  | none => .error (.invalidNumber .count (String.ofList value))

/-- A second: a signed number of 64 bits. -/
def readSecond (parameter : NumberParameter) (value : List Char) : Except Refusal Int64 :=
  match Numeral.int64? (trim value) with
  | some second => .ok second
  | none => .error (.invalidNumber parameter (String.ofList value))

/-- The window of a time series: it ends a delay before the present and starts `count` seconds
before its end, unless the pairs say otherwise. Seconds wrap around at 64 bits. -/
def readWindow (clock : Clock) (count : Nat) (pairs : List (List Char × List Char)) :
    Except Refusal (Int64 × Int64) := do
  let finish ← match value? pairs NumberParameter.finish.text with
    | some value => readSecond .finish value
    | none => pure (clock.now - clock.delay)
  let start ← match value? pairs NumberParameter.start.text with
    | some value => readSecond .start value
    | none => pure (finish - Int64.ofNat count)
  return (start, finish)

/-- Whether a flag is set: its value is `true` in any case of letters. -/
def isSet (pairs : List (List Char × List Char)) (flag : String) : Bool :=
  match value? pairs flag with
  | some value => sameLetters (String.ofList (trim value)) "true"
  | none => false

/-- The run that the pairs ask for. An empty one counts as absent. -/
def readRunId (pairs : List (List Char × List Char)) : Option String :=
  ((value? pairs "run_id").filter (· ≠ [])).map String.ofList

def Parameters.ofPairs (clock : Clock) (pairs : List (List Char × List Char)) :
    Except Refusal Parameters := do
  let runId := readRunId pairs
  match value? pairs NumberParameter.count.text with
  | some value =>
    let count ← readCount value
    if clock.maxCount < count then
      throw (.tooManyPoints count clock.maxCount)
    let (start, finish) ← readWindow clock count pairs
    return ⟨.timeSeries, runId, start, finish, count⟩
  | none =>
    if isSet pairs Kind.timeSeries.flag then return ⟨.timeSeries, runId, 0, 0, 0⟩
    else if isSet pairs Kind.aggregate.flag then return ⟨.aggregate, runId, 0, 0, 0⟩
    else throw .unknownKind

def Parameters.read (clock : Clock) (query : List Char) : Except Refusal Parameters :=
  ofPairs clock (Form.pairs query)

end SeriesQuery.Query
