import SeriesQuery.Proofs.Text.Split
import SeriesQuery.Text.Dotted

set_option autoImplicit false

/-!
# Components of dotted names

Names without a dot that are put together with dots come apart again, so that a dotted name tells of
which names it was made.
-/

namespace SeriesQuery.Text.Dotted

/-- A name that can be a component by itself: it is not empty and has no dot. -/
structure Simple (name : String) : Prop where
  nonempty : name ≠ ""
  dotless : '.' ∉ name.toList

instance (name : String) : Decidable (Simple name) :=
  decidable_of_iff (name ≠ "" ∧ '.' ∉ name.toList)
    ⟨fun given => ⟨given.1, given.2⟩, fun simple => ⟨simple.nonempty, simple.dotless⟩⟩

theorem components_intercalate {names : List String} (some : names ≠ [])
    (simple : ∀ name ∈ names, Simple name) :
    components (".".intercalate names) = names.map String.toList := by
  rw [components, String.toList_intercalate]
  refine pieces_intercalate (by simpa using some) fun text member => ?_
  obtain ⟨name, isName, rfl⟩ := List.mem_map.mp member
  exact (simple name isName).dotless

theorem intercalate_ne_empty {names : List String} (some : names ≠ [])
    (simple : ∀ name ∈ names, Simple name) : ".".intercalate names ≠ "" := by
  intro empty
  have parts := components_intercalate some simple
  rw [empty] at parts
  obtain ⟨first, rest, rfl⟩ := List.exists_cons_of_ne_nil some
  obtain ⟨firstEmpty, _⟩ := List.cons.inj parts
  exact (simple first List.mem_cons_self).nonempty (String.toList_inj.mp firstEmpty.symm)

/-- Names are put together with dots in one way. -/
theorem intercalate_inj {left right : List String} (leftSimple : ∀ name ∈ left, Simple name)
    (rightSimple : ∀ name ∈ right, Simple name)
    (same : ".".intercalate left = ".".intercalate right) : left = right := by
  by_cases leftSome : left = []
  · by_cases rightSome : right = []
    · rw [leftSome, rightSome]
    · rw [leftSome, String.intercalate_nil] at same
      exact absurd same.symm (intercalate_ne_empty rightSome rightSimple)
  · by_cases rightSome : right = []
    · rw [rightSome, String.intercalate_nil] at same
      exact absurd same (intercalate_ne_empty leftSome leftSimple)
    · have parts := components_intercalate leftSome leftSimple
      rw [same, components_intercalate rightSome rightSimple] at parts
      exact (List.map_inj_right fun _ _ => String.toList_inj.mp).mp parts.symm

end SeriesQuery.Text.Dotted
