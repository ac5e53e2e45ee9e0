import SeriesQuery.Proofs.Table.Consistency

set_option autoImplicit false

/-!
# What a call for a table will get

While the set of failing resolutions stays as it is, what every call for a resolution gets is settled
before the call is made: its table if there is one or its construction does not fail, else the
failure. No move of any call changes this.
-/

namespace SeriesQuery.Table.Tables

/-- What a call for a resolution gets, told by the resolution of the table. -/
def verdict (tables : Tables) (resolution : UInt32) : Except StorageError UInt32 :=
  if tables.isLoaded resolution = false ∧ resolution ∈ tables.failing then
    .error (failure resolution)
  else .ok resolution

theorem verdict_of_loaded {tables : Tables} {resolution : UInt32} {handle : Handle}
    (found : tables.table? resolution = some handle) :
    tables.verdict resolution = .ok resolution := by
  simp [verdict, isLoaded, found]

theorem verdict_of_healthy {tables : Tables} {resolution : UInt32}
    (healthy : resolution ∉ tables.failing) : tables.verdict resolution = .ok resolution := by
  simp [verdict, healthy]

theorem verdict_of_constructible {tables : Tables} {resolution : UInt32}
    (constructible : tables.isLoaded resolution = true ∨ resolution ∉ tables.failing) :
    tables.verdict resolution = .ok resolution := by
  rcases constructible with loaded | healthy
  · obtain ⟨handle, found⟩ := Option.isSome_iff_exists.mp loaded
    exact verdict_of_loaded found
  · exact verdict_of_healthy healthy

theorem verdict_of_failing {tables : Tables} {resolution : UInt32}
    (vacant : tables.table? resolution = none) (failing : resolution ∈ tables.failing) :
    tables.verdict resolution = .error (failure resolution) := by
  simp [verdict, isLoaded, vacant, failing]

/-- A call that is made alone gets what is settled. -/
theorem get_verdict {tables : Tables} {inFlight : UInt32 → Nat}
    (consistent : tables.Consistent inFlight) (resolution : UInt32) :
    (tables.get resolution).1.map Handle.resolution = tables.verdict resolution := by
  rw [get]
  cases found : tables.table? resolution with
  | some handle =>
      simp only [table?_locate, found]
      rw [verdict_of_loaded found, ← consistent.own resolution handle found]
      rfl
  | none =>
      simp only [table?_locate, found]
      by_cases failing : resolution ∈ tables.failing
      · rw [verdict_of_failing found failing]
        refine congrArg (Except.map Handle.resolution) (complete_of_failing _ ?_)
        exact failing
      · rw [verdict_of_healthy failing]
        refine congrArg (Except.map Handle.resolution) (complete_of_not_failing _ ?_)
        exact failing

theorem Move.outcome {tables moved : Tables} {inFlight : UInt32 → Nat} {resolution : UInt32}
    {before : Progress} {outcome : Except StorageError Handle}
    (move : Move tables resolution before (.finished outcome) moved)
    (consistent : tables.Consistent inFlight)
    (vacant : before.isBuilding = true → tables.table? resolution = none)
    (unfinished : ∀ earlier, before ≠ .finished earlier) :
    outcome.map Handle.resolution = tables.verdict resolution := by
  cases move with
  | hit found | share found =>
      rw [verdict_of_loaded found, ← consistent.own resolution _ found]
      rfl
  | succeed healthy => rw [verdict_of_healthy healthy]; rfl
  | fail failing => rw [verdict_of_failing (vacant rfl) failing]; rfl
  | stay => exact absurd rfl (unfinished outcome)

theorem Move.failing_eq {tables moved : Tables} {resolution : UInt32} {before after : Progress}
    (move : Move tables resolution before after moved) : moved.failing = tables.failing := by
  cases move with
  | locate | hit | miss | share | wait | start | stay => rfl
  | succeed | fail => rw [complete]; split <;> rfl

/-- No move changes what any call gets. -/
theorem Move.verdict_eq {tables moved : Tables} {resolution : UInt32} {before after : Progress}
    (move : Move tables resolution before after moved)
    (vacant : before.isBuilding = true → tables.table? resolution = none) (other : UInt32) :
    moved.verdict other = tables.verdict other := by
  cases found : tables.table? other with
  | some handle =>
      rw [verdict_of_loaded found, verdict_of_loaded (move.keeps_table vacant found)]
  | none =>
      by_cases failing : other ∈ tables.failing
      · -- A resolution that fails at present gets no table.
        have none : moved.table? other = none := by
          cases move with
          | locate => rwa [table?_locate]
          | hit | miss | share | wait | stay => exact found
          | start =>
              rw [table?_eq, slot_begin]
              split
              · rfl
              · exact found
          | succeed healthy =>
              rw [table?_eq, slot_complete_of_not_failing healthy, if_neg]
              · exact found
              · exact fun same => healthy (same ▸ failing)
          | fail fails =>
              rw [table?_eq, slot_complete_of_failing fails]
              split
              · rfl
              · exact found
        rw [verdict_of_failing found failing,
          verdict_of_failing none (move.failing_eq ▸ failing)]
      · rw [verdict_of_healthy failing, verdict_of_healthy (move.failing_eq ▸ failing)]

end SeriesQuery.Table.Tables
