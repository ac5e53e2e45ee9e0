import SeriesQuery.Query.Reader

set_option autoImplicit false

/-!
# The window of a request

A request with a count takes its window from the query string. A start that is left out is derived
from the end: as many seconds before it as there are points.
-/

namespace SeriesQuery.Query

open SeriesQuery.Text

/-- What the query string of a request has settled. -/
def Descriptor.parameters (query : Descriptor) : Parameters :=
  ⟨query.kind, query.runId, query.start, query.finish, query.count⟩

theorem parameters_of_read {reader : Reader} {now : Int64} {uri : String} {query : Descriptor}
    (accepted : reader.read now uri = .ok query) :
    Parameters.ofPairs (reader.clock now) (Form.pairs (splitUri uri.toList).2) =
      .ok query.parameters := by
  rw [Reader.read] at accepted
  obtain ⟨selection, _, afterPath⟩ := bind_eq_ok.mp accepted
  obtain ⟨parameters, read, made⟩ := bind_eq_ok.mp afterPath
  cases made
  exact read

theorem readCount_lt {value : List Char} {count : Nat} (read : readCount value = .ok count) :
    count < UInt64.size := by
  rw [readCount] at read
  split at read
  · next found =>
      cases read
      obtain ⟨_, below⟩ := Option.filter_eq_some_iff.mp found
      exact of_decide_eq_true below
  · cases read

theorem readWindow_of_derived {clock : Clock} {count : Nat} {pairs : List (List Char × List Char)}
    {start finish : Int64} (derived : value? pairs NumberParameter.start.text = none)
    (read : readWindow clock count pairs = .ok (start, finish)) :
    start = finish - Int64.ofNat count := by
  simp only [readWindow, derived] at read
  split at read
  · obtain ⟨last, _, made⟩ := bind_eq_ok.mp read
    cases made
    rfl
  · cases read
    rfl

/-- Only a count makes a request with points, and it comes with a window. -/
theorem Parameters.window_of_count {clock : Clock} {pairs : List (List Char × List Char)}
    {parameters : Parameters} (read : ofPairs clock pairs = .ok parameters)
    (counted : 1 ≤ parameters.count) :
    parameters.kind = .timeSeries ∧ parameters.count < UInt64.size ∧
      readWindow clock parameters.count pairs = .ok (parameters.start, parameters.finish) := by
  rw [ofPairs] at read
  split at read
  · next value present =>
      obtain ⟨count, counts, afterCount⟩ := bind_eq_ok.mp read
      split at afterCount
      · cases afterCount
      · obtain ⟨⟨start, finish⟩, window, made⟩ := bind_eq_ok.mp afterCount
        cases made
        exact ⟨rfl, readCount_lt counts, window⟩
  · split at read
    · cases read
      exact absurd counted (Nat.not_succ_le_zero 0)
    · split at read
      · cases read
        exact absurd counted (Nat.not_succ_le_zero 0)
      · cases read

/-- A derived window starts as many seconds before its end as the answer has points. -/
theorem read_derived {reader : Reader} {now : Int64} {uri : String} {query : Descriptor}
    (accepted : reader.read now uri = .ok query) (counted : 1 ≤ query.count)
    (derived : value? (Form.pairs (splitUri uri.toList).2) "start" = none) :
    query.kind = .timeSeries ∧ query.count < UInt64.size ∧
      query.start = query.finish - Int64.ofNat query.count := by
  obtain ⟨kind, bounded, window⟩ :=
    Parameters.window_of_count (parameters_of_read accepted) counted
  exact ⟨kind, bounded, readWindow_of_derived derived window⟩

end SeriesQuery.Query
