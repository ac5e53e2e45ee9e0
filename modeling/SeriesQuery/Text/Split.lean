set_option autoImplicit false

/-!
# Splitting at a mark

A text as the pieces between the occurrences of a mark, a text cut once at the first of them, and
what is left of a list, such as a text, after a given start.
-/

namespace SeriesQuery.Text

/-- The pieces between the occurrences of a mark: one more than there are occurrences. -/
def pieces (mark : Char) : List Char → List (List Char)
  | [] => [[]]
  | c :: rest =>
    if c = mark then [] :: pieces mark rest
    else match pieces mark rest with
      | [] => [[c]]
      | first :: more => (c :: first) :: more

/-- The text before the first occurrence of a mark and, if there is one, the text after it. -/
def cut (mark : Char) : List Char → List Char × Option (List Char)
  | [] => ([], none)
  | c :: rest =>
    if c = mark then ([], some rest)
    else (c :: (cut mark rest).1, (cut mark rest).2)

/-- What is left of a list that starts with `start`. -/
def after? {Item : Type} [DecidableEq Item] : List Item → List Item → Option (List Item)
  | [], whole => some whole
  | _ :: _, [] => none
  | item :: start, first :: rest => if item = first then after? start rest else none

theorem pieces_ne_nil (mark : Char) (text : List Char) : pieces mark text ≠ [] := by
  cases text with
  | nil => simp [pieces]
  | cons c rest =>
      simp only [pieces]
      split
      · simp
      · split <;> simp

/-- Writing the mark between the pieces gives the text back. -/
theorem intercalate_pieces (mark : Char) (text : List Char) :
    [mark].intercalate (pieces mark text) = text := by
  induction text with
  | nil => rfl
  | cons c rest ih =>
      simp only [pieces]
      cases split : pieces mark rest with
      | nil => exact absurd split (pieces_ne_nil mark rest)
      | cons first more =>
          rw [split] at ih
          by_cases same : c = mark
          · subst same
            simpa [List.intercalate] using ih
          · cases more <;> simp_all [List.intercalate]

/-- The text after a cut starts right after the mark. -/
theorem cut_append (mark : Char) (text : List Char) :
    (cut mark text).1 ++ (match (cut mark text).2 with
      | some after => mark :: after
      | none => []) = text := by
  induction text with
  | nil => rfl
  | cons c rest ih =>
      by_cases same : c = mark
      · simp [cut, same]
      · simp only [cut, same, ↓reduceIte, List.cons_append]
        rw [ih]

/-- The text before a cut does not hold the mark. -/
theorem not_mem_cut_fst (mark : Char) (text : List Char) : mark ∉ (cut mark text).1 := by
  induction text with
  | nil => simp [cut]
  | cons c rest ih =>
      by_cases same : c = mark
      · simp [cut, same]
      · simpa [cut, same, ih] using fun equal => same (Eq.symm equal)

theorem after?_eq_some_iff {Item : Type} [DecidableEq Item] {start whole rest : List Item} :
    after? start whole = some rest ↔ whole = start ++ rest := by
  induction start generalizing whole with
  | nil => simp [after?, eq_comm]
  | cons item start ih =>
      cases whole with
      | nil => simp [after?]
      | cons first whole =>
          by_cases same : item = first
          · simp [after?, same, ih]
          · simp [after?, same, eq_comm]

end SeriesQuery.Text
