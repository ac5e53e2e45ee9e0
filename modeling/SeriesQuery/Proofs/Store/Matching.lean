import SeriesQuery.Store.Row

set_option autoImplicit false

/-!
# Which rows a filter asks for

The rule for a row that is asked for, in its own words: how its names lie under the prefixes, and
what an absent prefix or run stands for. The test that scans make decides this rule.
-/

namespace SeriesQuery.Text.Dotted

/-- A dotted name lies under a dotted prefix: the prefix is empty, or the name is the prefix, or the
name goes on after the prefix with a dot. -/
def LiesUnder (name above : String) : Prop :=
  above = "" ∨ name = above ∨ ∃ rest, name = above ++ "." ++ rest

theorem isUnder_iff {name above : String} : isUnder name above = true ↔ LiesUnder name above := by
  constructor
  · intro under
    rcases Bool.or_eq_true_iff.mp under with empty | goesOn
    · exact .inl (String.isEmpty_iff.mp empty)
    · split at goesOn
      · next found =>
          have written := after?_eq_some_iff.mp found
          exact .inr (.inl (String.toList_inj.mp (by simpa using written)))
      · next c rest found =>
          have written := after?_eq_some_iff.mp found
          have dot : c = '.' := by simpa using goesOn
          refine .inr (.inr ⟨String.ofList rest, String.toList_inj.mp ?_⟩)
          simpa [dot] using written
      · cases goesOn
  · rintro (rfl | rfl | ⟨rest, rfl⟩)
    · rfl
    · have found : after? name.toList name.toList = some [] :=
        after?_eq_some_iff.mpr (by simp)
      simp [isUnder, found]
    · have found : after? above.toList (above ++ "." ++ rest).toList = some ('.' :: rest.toList) :=
        after?_eq_some_iff.mpr (by simp)
      simp only [isUnder, found, beq_self_eq_true, Bool.or_true]

theorem join_ne_empty (left right : String) : join left right ≠ "" := by
  intro empty
  have none : ((left ++ "." ++ right).toList) = [] := String.toList_inj.mpr empty
  simp at none

end SeriesQuery.Text.Dotted

namespace SeriesQuery.Store

open SeriesQuery.Text

/-- A row is among those that a filter asks for. -/
structure RowFilter.Matches (filter : RowFilter) (key : RowKey) : Prop where
  /-- The context lies under the prefix; any does if there is none. -/
  context : ∀ above, filter.context = some above → Dotted.LiesUnder key.context above
  /-- The metric name lies under the prefix. -/
  metric : Dotted.LiesUnder key.metric filter.metric
  /-- Without a prefix there is no tag, else the tag lies under it. -/
  tag : (filter.tag = none ∧ key.tag = none) ∨
    ∃ above tag, filter.tag = some above ∧ key.tag = some tag ∧ Dotted.LiesUnder tag above
  /-- The run is the wanted one, if one is wanted. -/
  run : ∀ run, filter.runId = some run → key.runId = some run

theorem RowFilter.accepts_iff {filter : RowFilter} {key : RowKey} :
    filter.accepts key = true ↔ filter.Matches key := by
  simp only [RowFilter.accepts, Bool.and_eq_true, Dotted.isUnder_iff]
  constructor
  · intro given
    obtain ⟨⟨⟨contextFits, tagFits⟩, runFits⟩, metricFits⟩ := given
    refine ⟨?_, metricFits, ?_, ?_⟩
    · intro above wanted
      simpa [wanted, Dotted.isUnder_iff] using contextFits
    · split at tagFits
      · next absent untagged => exact .inl ⟨absent, untagged⟩
      · next above tag wanted tagged =>
          exact .inr ⟨above, tag, wanted, tagged, Dotted.isUnder_iff.mp tagFits⟩
      · cases tagFits
    · intro run wanted
      simpa [wanted] using runFits
  · intro given
    obtain ⟨contextFits, metricFits, tagFits, runFits⟩ := given
    refine ⟨⟨⟨?_, ?_⟩, ?_⟩, metricFits⟩
    · cases wanted : filter.context with
      | none => rfl
      | some above => exact Dotted.isUnder_iff.mpr (contextFits above wanted)
    · rcases tagFits with ⟨absent, untagged⟩ | ⟨above, tag, wanted, tagged, under⟩
      · simp [absent, untagged]
      · simpa [wanted, tagged] using Dotted.isUnder_iff.mpr under
    · cases wanted : filter.runId with
      | none => rfl
      | some run => simpa using runFits run wanted

instance (filter : RowFilter) (key : RowKey) : Decidable (filter.Matches key) :=
  decidable_of_iff (filter.accepts key = true) RowFilter.accepts_iff

end SeriesQuery.Store
