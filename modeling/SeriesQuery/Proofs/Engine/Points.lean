import SeriesQuery.Proofs.Engine.Busyness
import SeriesQuery.Proofs.Query.Parameters

set_option autoImplicit false

/-!
# How many points an answer has

A URI asks for a number of points, up to the limit of a reader. An answer to it has just as many points,
whatever is stored, whatever the clock says when the URI is read and whichever calls for the tables
others make.
-/

namespace SeriesQuery

open SeriesQuery.Text SeriesQuery.Text.Numeral SeriesQuery.Query SeriesQuery.Series SeriesQuery.Table

theorem Text.Numeral.NaturalLiteral.unique {text : List Char} {value other : Nat}
    (literal : NaturalLiteral text value) (alsoLiteral : NaturalLiteral text other) :
    value = other := by
  have read : natural? (value + other + 1) text = some value :=
    natural?_eq_some_iff.mpr ⟨literal, by omega⟩
  have alsoRead : natural? (value + other + 1) text = some other :=
    natural?_eq_some_iff.mpr ⟨alsoLiteral, by omega⟩
  exact Option.some.inj (read.symm.trans alsoRead)

namespace Query

/-- The number of points that the pairs of a query string ask for. A flag without a count asks for
none. -/
inductive PointsAsked (pairs : List (List Char × List Char)) : Nat → Prop where
  | counted {value : List Char} {count : Nat} : FirstValue pairs "count" value →
      NaturalLiteral (trim value) count → PointsAsked pairs count
  | flagged : Absent pairs "count" → Flagged pairs "time_series" → PointsAsked pairs 0

variable {pairs : List (List Char × List Char)}

theorem PointsAsked.unique {count other : Nat} (asked : PointsAsked pairs count)
    (alsoAsked : PointsAsked pairs other) : count = other := by
  cases asked with
  | counted first literal =>
      have found := value?_eq_some_iff.mpr first
      cases alsoAsked with
      | counted alsoFirst alsoLiteral =>
          have alsoFound := value?_eq_some_iff.mpr alsoFirst
          cases found.symm.trans alsoFound
          exact literal.unique alsoLiteral
      | flagged absent _ =>
          have missing := value?_eq_none_iff.mpr absent
          cases found.symm.trans missing
  | flagged absent _ =>
      have missing := value?_eq_none_iff.mpr absent
      cases alsoAsked with
      | counted first _ =>
          have found := value?_eq_some_iff.mpr first
          cases found.symm.trans missing
      | flagged => rfl

theorem Settles.pointsAsked {clock : Clock} {parameters : Parameters}
    (settled : Settles clock pairs parameters) (kind : parameters.kind = .timeSeries) :
    PointsAsked pairs parameters.count ∧ parameters.count ≤ clock.maxCount := by
  cases settled with
  | window first literal _ small _ _ _ => exact ⟨.counted first literal, small⟩
  | timeSeries absent flagged _ => exact ⟨.flagged absent flagged, Nat.zero_le _⟩
  | aggregate => cases kind

/-- A request wants the points that a URI asks for, and they are no more than a limit. -/
structure Descriptor.Within (limit : Nat) (uri : String) (query : Descriptor) : Prop where
  asked : PointsAsked (Form.pairs (splitUri uri.toList).2) query.count
  bounded : query.count ≤ limit

theorem within_of_read {reader : Reader} {now : Int64} {uri : String} {query : Descriptor}
    (read : reader.read now uri = .ok query) (kind : query.kind = .timeSeries) :
    query.Within reader.maxCount uri := by
  have settled := ofPairs_eq_ok_iff.mp (parameters_of_read read)
  obtain ⟨asked, bounded⟩ := settled.pointsAsked kind
  exact ⟨asked, bounded⟩

end Query

/-- An answer to a URI has as many points as the URI asks for, and they are no more than a limit. A
total has no points. -/
inductive Answer.Within (limit : Nat) (uri : String) : Answer → Prop where
  | series {dense : SeriesAnswer} :
      (∀ count, PointsAsked (Form.pairs (splitUri uri.toList).2) count ↔
        count = dense.points.length) →
      dense.points.length ≤ limit → Within limit uri (.series dense)
  | total (value : Int64) : Within limit uri (.total value)

namespace Engine

variable {backend : Backend} {query : Descriptor} {limit : Nat} {uri : String} {answer : Answer}

/-- A series has a point for each second of its window and no others. -/
theorem times_pointsFor {resolution : UInt32} {points : List Point}
    (found : pointsFor backend resolution query = .ok points) :
    points.map Point.time = targets query.start query.count := by
  unfold pointsFor at found
  split at found
  · obtain ⟨rows, _, filled⟩ := bind_eq_ok.mp found
    cases filled
    apply times_fillDense
  · obtain ⟨numerator, _, divided⟩ := bind_eq_ok.mp found
    obtain ⟨denominator, _, filled⟩ := bind_eq_ok.mp divided
    cases filled
    apply times_ratioSeries

theorem within_seriesOutcome {table : Except StorageError UInt32} (within : query.Within limit uri)
    (answered : seriesOutcome backend query table = .ok answer) : answer.Within limit uri := by
  cases table with
  | error cause => cases answered
  | ok resolution =>
      obtain ⟨points, found, told⟩ := bind_eq_ok.mp answered
      cases told
      have size : points.length = query.count := by
        simpa using congrArg List.length (times_pointsFor found)
      apply Answer.Within.series
      · intro count
        constructor
        · intro asked
          exact size ▸ asked.unique within.asked
        · intro same
          exact (same.trans size) ▸ within.asked
      · exact size ▸ within.bounded

theorem within_totalOutcome (answered : totalOutcome backend query = .ok answer) :
    answer.Within limit uri := by
  unfold totalOutcome at answered
  split at answered
  · cases answered
  · cases answered
    apply Answer.Within.total

theorem within_execute {engine : Engine}
    (asked : query.kind = .timeSeries → query.Within limit uri)
    (answered : (engine.execute backend query).1 = .ok answer) : answer.Within limit uri := by
  cases kind : query.kind with
  | aggregate =>
      simp only [execute, kind, answerTotal_eq] at answered
      exact within_totalOutcome answered
  | timeSeries =>
      rw [engine.execute_timeSeries backend kind] at answered
      exact within_seriesOutcome (asked kind) answered

end Engine

end SeriesQuery
