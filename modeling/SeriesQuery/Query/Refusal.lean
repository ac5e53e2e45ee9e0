import SeriesQuery.Text.Numeral

set_option autoImplicit false

/-!
# Why a metrics URI is refused

Each way in which a URI can fail to follow the path grammar or the query-string rules, and the words
in which it is told.
-/

namespace SeriesQuery.Query

open SeriesQuery.Text

/-- What a path segment stands for at its place in the grammar. -/
inductive Role where
  | contextType
  | metricName
  | collectType
  | applicationId
  | streamId
  | programType
  | programId
  | batchSubtype
  | storeType
  | datasetId
  | datasetMarker
  deriving DecidableEq, Repr

def Role.text : Role → String
  | .contextType => "context type"
  | .metricName => "metric name"
  | .collectType => "collect type"
  | .applicationId => "application id"
  | .streamId => "stream id"
  | .programType => "program type"
  | .programId => "program id"
  | .batchSubtype => "batch subtype"
  | .storeType => "store type"
  | .datasetId => "dataset id"
  | .datasetMarker => "dataset marker"

/-- A query-string parameter that must be a number. -/
inductive NumberParameter where
  | count
  | start
  | finish
  deriving DecidableEq, Repr

def NumberParameter.text : NumberParameter → String
  | .count => "count"
  | .start => "start"
  | .finish => "end"

inductive Refusal where
  /-- A segment, shown as written, does not decode to UTF-8. -/
  | notUtf8 (raw : String)
  /-- A segment, shown as written, decodes to one dot or two. -/
  | dotSegment (raw : String)
  /-- The path ends where a segment is required. -/
  | missing (role : Role)
  /-- A segment is none of the words of its role. -/
  | unknown (role : Role) (token : String)
  /-- The path goes on where it has to end. -/
  | unexpected (segment : String)
  /-- A store path goes on with `apps` where only `datasets` may stand. -/
  | datasetsExpected
  /-- A parameter, shown as given, is not a number in range. -/
  | invalidNumber (parameter : NumberParameter) (value : String)
  /-- More points are asked for than the limit allows. -/
  | tooManyPoints (count limit : Nat)
  /-- Nothing in the query string picks a kind of query. -/
  | unknownKind
  deriving DecidableEq, Repr

def Refusal.reason : Refusal → String
  | .notUtf8 raw => "path segment '" ++ raw ++ "' is not valid UTF-8"
  | .dotSegment raw => "invalid path segment '" ++ raw ++ "'"
  | .missing role => "missing " ++ role.text
  | .unknown role token => "unknown " ++ role.text ++ " '" ++ token ++ "'"
  | .unexpected segment => "unexpected path segment '" ++ segment ++ "'"
  | .datasetsExpected => "expected 'datasets'"
  | .invalidNumber parameter value => "invalid " ++ parameter.text ++ " '" ++ value ++ "'"
  | .tooManyPoints count limit =>
    "count " ++ Numeral.natText count ++ " exceeds the maximum of " ++ Numeral.natText limit
  | .unknownKind => "unknown query type"

/-- Readers chained one after the other succeed if each of them does. -/
theorem bind_eq_ok {Failure Step Value : Type} {first : Except Failure Step}
    {next : Step → Except Failure Value} {value : Value} :
    (first >>= next) = .ok value ↔ ∃ step, first = .ok step ∧ next step = .ok value := by
  cases first with
  | ok step =>
      constructor
      · exact fun done => ⟨step, rfl, done⟩
      · intro given
        obtain ⟨_, ⟨⟩, done⟩ := given
        exact done
  | error refusal =>
      constructor
      · intro given
        cases given
      · intro given
        obtain ⟨_, ⟨⟩, _⟩ := given

end SeriesQuery.Query
