import Mathlib.Data.List.Forall2

set_option autoImplicit false

/-!
# Lists read item by item

A list is read if each of its items is. Where what can be read is what is written for some value, the
lists that can be read are those written for lists of values.
-/

namespace SeriesQuery.Text

section

variable {Item Value : Type} {read : Item → Option Value} {items : List Item} {values : List Value}

theorem mapM_eq_some_iff :
    items.mapM read = some values ↔
      List.Forall₂ (fun item value => read item = some value) items values := by
  induction items generalizing values with
  | nil => simp [eq_comm]
  | cons item items ih =>
      simp only [List.mapM_cons, Option.bind_eq_bind, Option.bind_eq_some_iff, Option.pure_def,
        Option.some.injEq, ih, List.forall₂_cons_left_iff]
      constructor
      · intro given
        obtain ⟨value, found, rest, others, rfl⟩ := given
        exact ⟨value, rest, found, others, rfl⟩
      · intro given
        obtain ⟨value, rest, found, others, rfl⟩ := given
        exact ⟨value, found, rest, others, rfl⟩

theorem mapM_eq_some_iff_map {write : Value → Item}
    (reads : ∀ item value, read item = some value ↔ item = write value) :
    items.mapM read = some values ↔ items = values.map write := by
  simp only [mapM_eq_some_iff, reads]
  rw [← List.forall₂_map_right_iff, List.forall₂_eq_eq_eq]

theorem mapM_map {write : Value → Item} (reads : ∀ value, read (write value) = some value)
    (values : List Value) : (values.map write).mapM read = some values := by
  rw [mapM_eq_some_iff, List.forall₂_map_left_iff, List.forall₂_same]
  exact fun value _ => reads value

end

end SeriesQuery.Text
