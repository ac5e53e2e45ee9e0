import Mathlib.Order.Defs.Unbundled
import SeriesQuery.Proofs.Store.Matching
import SeriesQuery.Proofs.Text.Split

set_option autoImplicit false

/-!
# The order of dotted names

A dotted name lies under another one, other than the empty name, if it starts with the components of
the other. Every name lies under the empty one, though few start with its single empty component. So the
initial parts of component lists order the names, and the empty name is put above all of them.
-/

namespace SeriesQuery.Text.Dotted

/-! ## Names by their components -/

theorem components_inj {left right : String} (same : components left = components right) :
    left = right := by
  apply String.toList_inj.mp
  calc left.toList
      = ['.'].intercalate (components left) := (intercalate_pieces '.' left.toList).symm
    _ = ['.'].intercalate (components right) := by rw [same]
    _ = right.toList := intercalate_pieces '.' right.toList

theorem components_join (left right : String) :
    components (join left right) = components left ++ components right := by
  have written : (join left right).toList = left.toList ++ '.' :: right.toList := by simp [join]
  simp only [components, written, pieces_append_cons]

theorem exists_components_eq {parts : List (List Char)} (some : parts ≠ [])
    (dotless : ∀ part ∈ parts, '.' ∉ part) : ∃ name, components name = parts := by
  refine ⟨String.ofList (['.'].intercalate parts), ?_⟩
  simp only [components, String.toList_ofList]
  exact pieces_intercalate some dotless

/-- A name starts with the components of another if it is the other or goes on after it with a dot. -/
theorem components_prefix_iff {name above : String} :
    components above <+: components name ↔ name = above ∨ ∃ rest, name = join above rest := by
  constructor
  · intro starts
    obtain ⟨more, whole⟩ := starts
    by_cases none : more = []
    · left
      rw [none, List.append_nil] at whole
      exact components_inj whole.symm
    · right
      have dotless : ∀ part ∈ more, '.' ∉ part := by
        intro part member
        have ofName : part ∈ components name := whole ▸ List.mem_append_right _ member
        exact not_mem_of_mem_pieces ofName
      obtain ⟨rest, parts⟩ := exists_components_eq none dotless
      refine ⟨rest, components_inj ?_⟩
      rw [components_join, parts, whole]
  · intro written
    cases written with
    | inl same => exact same ▸ List.prefix_refl _
    | inr goesOn =>
        obtain ⟨rest, rfl⟩ := goesOn
        exact ⟨components rest, (components_join above rest).symm⟩

theorem liesUnder_iff_components {name above : String} (named : above ≠ "") :
    LiesUnder name above ↔ components above <+: components name :=
  (or_iff_right named).trans components_prefix_iff.symm

/-! ## The order -/

theorem liesUnder_refl (name : String) : LiesUnder name name :=
  .inr (.inl rfl)

theorem liesUnder_empty (name : String) : LiesUnder name "" :=
  .inl rfl

/-- Above the empty name there is no other. -/
theorem LiesUnder.eq_empty {above : String} (under : LiesUnder "" above) : above = "" := by
  rcases under with empty | same | ⟨rest, written⟩
  · exact empty
  · exact same.symm
  · exact absurd written.symm (join_ne_empty above rest)

theorem LiesUnder.trans {name middle above : String} (lower : LiesUnder name middle)
    (upper : LiesUnder middle above) : LiesUnder name above := by
  by_cases top : above = ""
  · exact .inl top
  · have named : middle ≠ "" := by
      intro empty
      subst empty
      exact top upper.eq_empty
    have lowerStarts := (liesUnder_iff_components named).mp lower
    have upperStarts := (liesUnder_iff_components top).mp upper
    exact (liesUnder_iff_components top).mpr (upperStarts.trans lowerStarts)

theorem LiesUnder.antisymm {left right : String} (under : LiesUnder left right)
    (back : LiesUnder right left) : left = right := by
  by_cases leftTop : left = ""
  · subst leftTop
    exact under.eq_empty.symm
  · by_cases rightTop : right = ""
    · subst rightTop
      exact back.eq_empty
    · have leftStarts := (liesUnder_iff_components leftTop).mp back
      have rightStarts := (liesUnder_iff_components rightTop).mp under
      exact components_inj (leftStarts.eq_of_length_le rightStarts.length_le)

theorem isPartialOrder_liesUnder : IsPartialOrder String LiesUnder where
  refl := liesUnder_refl
  trans _ _ _ lower upper := lower.trans upper
  antisymm _ _ under back := under.antisymm back

/-- Under a name, other than the empty one, lie the names that start with its components. Names are
partially ordered by lying under each other, and the empty name is the greatest. -/
theorem isUnder_order :
    (∀ name above : String, above ≠ "" →
      (isUnder name above = true ↔ components above <+: components name)) ∧
    IsPartialOrder String (fun name above => isUnder name above = true) ∧
    ∀ top, (∀ name, isUnder name top = true) ↔ top = "" := by
  simp only [isUnder_iff]
  refine ⟨fun name above named => liesUnder_iff_components named, isPartialOrder_liesUnder, ?_⟩
  intro top
  constructor
  · intro greatest
    exact (greatest "").eq_empty
  · intro empty name
    exact empty ▸ liesUnder_empty name

theorem isUnder_order_doubledDots :
    let above := "é..f"
    let name := "é..f."
    above ≠ "" ∧ (isUnder name above = true ↔ components above <+: components name) ∧
      components above = [['é'], [], ['f']] ∧ components name = [['é'], [], ['f'], []] := by
  intro above name
  have named : above ≠ "" := by decide
  exact ⟨named, isUnder_order.1 name above named, by decide, by decide⟩

end SeriesQuery.Text.Dotted
