import Mathlib.Data.List.Forall2
import SeriesQuery.Text.Blank
import SeriesQuery.Text.Split

set_option autoImplicit false

/-!
# Splitting what was put together

A text that was put together from parts and marks is split into these parts again, if no part holds
the mark. Blanks that were put around a text are trimmed off again, if the text has none at its ends.
-/

namespace SeriesQuery.Text

/-! ## One cut -/

theorem cut_append_of_not_mem {mark : Char} {front : List Char} (absent : mark ∉ front)
    (rest : List Char) : cut mark (front ++ rest) = (front ++ (cut mark rest).1, (cut mark rest).2) := by
  induction front with
  | nil => rfl
  | cons c front ih =>
      have other := List.ne_of_not_mem_cons absent
      have frontAbsent := List.not_mem_of_not_mem_cons absent
      rw [List.cons_append, cut, if_neg (Ne.symm other), ih frontAbsent, List.cons_append]

theorem cut_of_not_mem {mark : Char} {text : List Char} (absent : mark ∉ text) :
    cut mark text = (text, none) := by
  have split := cut_append_of_not_mem absent []
  rwa [List.append_nil, cut, List.append_nil] at split

theorem cut_append_cons {mark : Char} {before : List Char} (absent : mark ∉ before)
    (after : List Char) : cut mark (before ++ mark :: after) = (before, some after) := by
  rw [cut_append_of_not_mem absent, cut, if_pos rfl, List.append_nil]

theorem cut_eq_none_iff {mark : Char} {text : List Char} :
    (cut mark text).2 = none ↔ mark ∉ text := by
  constructor
  · intro uncut
    have whole := cut_append mark text
    rw [uncut, List.append_nil] at whole
    rw [← whole]
    exact not_mem_cut_fst mark text
  · intro absent
    rw [cut_of_not_mem absent]

/-- A text with the mark is cut at the same place if more is put behind it. -/
theorem cut_append_of_eq_some {mark : Char} {text before after : List Char}
    (found : cut mark text = (before, some after)) (more : List Char) :
    cut mark (text ++ more) = (before, some (after ++ more)) := by
  have whole := cut_append mark text
  have absent := not_mem_cut_fst mark text
  rw [found] at whole absent
  rw [← whole, List.append_assoc, List.cons_append, cut_append_cons absent]

/-! ## Texts without marks -/

/-- A text has no blank and none of some marks. -/
def Clear (marks text : List Char) : Prop :=
  ∀ c ∈ text, c ∉ marks ∧ isBlank c = false

section

variable {marks text : List Char}

theorem clear_nil (marks : List Char) : Clear marks [] :=
  List.forall_mem_nil _

theorem Clear.cons {c : Char} (clear : Clear marks text) (absent : c ∉ marks)
    (visible : isBlank c = false) : Clear marks (c :: text) :=
  List.forall_mem_cons.mpr ⟨⟨absent, visible⟩, clear⟩

theorem Clear.append {rest : List Char} (clear : Clear marks text) (others : Clear marks rest) :
    Clear marks (text ++ rest) :=
  List.forall_mem_append.mpr ⟨clear, others⟩

theorem Clear.of_subset {fewer : List Char} (clear : Clear marks text) (subset : fewer ⊆ marks) :
    Clear fewer text := by
  intro c member
  obtain ⟨absent, visible⟩ := clear c member
  exact ⟨fun mark => absent (subset mark), visible⟩

theorem Clear.not_mem {mark : Char} (clear : Clear marks text) (isMark : mark ∈ marks) :
    mark ∉ text :=
  fun member => (clear mark member).1 isMark

theorem Clear.visible (clear : Clear marks text) : ∀ c ∈ text, isBlank c = false :=
  fun c member => (clear c member).2

end

/-! ## Words between marks -/

def words (mark : Char) (text : List Char) : List (List Char) :=
  (pieces mark text).filter (· ≠ [])

@[simp] theorem words_cons_mark (mark : Char) (text : List Char) :
    words mark (mark :: text) = words mark text := by
  rw [words, pieces, if_pos rfl, List.filter_cons_of_neg (by simp), words]

theorem pieces_of_not_mem {mark : Char} {word : List Char} (absent : mark ∉ word) :
    pieces mark word = [word] := by
  induction word with
  | nil => rfl
  | cons c rest ih =>
      have other := List.ne_of_not_mem_cons absent
      have restAbsent := List.not_mem_of_not_mem_cons absent
      rw [pieces, if_neg (Ne.symm other), ih restAbsent]

theorem pieces_append_cons (mark : Char) (left right : List Char) :
    pieces mark (left ++ mark :: right) = pieces mark left ++ pieces mark right := by
  induction left with
  | nil => simp only [List.nil_append, pieces, ↓reduceIte, List.singleton_append]
  | cons c left ih =>
      simp only [List.cons_append, pieces, ih]
      by_cases isMark : c = mark
      · simp only [isMark, ↓reduceIte, List.cons_append]
      · simp only [isMark, ↓reduceIte]
        cases split : pieces mark left with
        | nil => exact absurd split (pieces_ne_nil mark left)
        | cons first more => rfl

theorem pieces_append_mark {mark : Char} {word : List Char} (absent : mark ∉ word)
    (rest : List Char) : pieces mark (word ++ mark :: rest) = word :: pieces mark rest := by
  rw [pieces_append_cons, pieces_of_not_mem absent, List.singleton_append]

theorem not_mem_of_mem_pieces {mark : Char} {text piece : List Char}
    (member : piece ∈ pieces mark text) : mark ∉ piece := by
  induction text generalizing piece with
  | nil =>
      cases List.mem_singleton.mp member
      exact List.not_mem_nil
  | cons c rest ih =>
      simp only [pieces] at member
      split at member
      · cases List.mem_cons.mp member with
        | inl empty =>
            cases empty
            exact List.not_mem_nil
        | inr later => exact ih later
      · next other =>
          cases split : pieces mark rest with
          | nil => exact absurd split (pieces_ne_nil mark rest)
          | cons first more =>
              simp only [split] at member ih
              cases List.mem_cons.mp member with
              | inl isFirst =>
                  have absent := ih List.mem_cons_self
                  simp [isFirst, absent, Ne.symm other]
              | inr later => exact ih (List.mem_cons_of_mem first later)

/-- Pieces without the mark come apart as they were put together. -/
theorem pieces_intercalate {mark : Char} {texts : List (List Char)} (some : texts ≠ [])
    (absent : ∀ text ∈ texts, mark ∉ text) : pieces mark ([mark].intercalate texts) = texts := by
  induction texts with
  | nil => exact absurd rfl some
  | cons first rest ih =>
      obtain ⟨firstAbsent, restAbsent⟩ := List.forall_mem_cons.mp absent
      cases rest with
      | nil => rw [List.intercalate_singleton, pieces_of_not_mem firstAbsent]
      | cons second rest =>
          rw [List.intercalate_cons_cons, List.append_assoc, List.singleton_append,
            pieces_append_mark firstAbsent, ih (List.cons_ne_nil _ _) restAbsent]

theorem words_append {mark : Char} {word rest : List Char} (nonempty : word ≠ [])
    (absent : mark ∉ word) (ended : rest = [] ∨ ∃ more, rest = mark :: more) :
    words mark (word ++ rest) = word :: words mark rest := by
  rcases ended with rfl | ⟨more, rfl⟩
  · rw [List.append_nil, words, pieces_of_not_mem absent,
      List.filter_cons_of_pos (by simpa using nonempty)]
    rfl
  · rw [words, pieces_append_mark absent, List.filter_cons_of_pos (by simpa using nonempty),
      words_cons_mark, words]

/-- A text is made of the written forms of some items, in order, with marks around them: at least one
mark between two items and any number before the first and after the last. -/
inductive Joined {Item : Type} (mark : Char) (Form : Item → List Char → Prop) :
    List Item → List Char → Prop where
  | nil : Joined mark Form [] []
  | mark {items : List Item} {text : List Char} : Joined mark Form items text →
      Joined mark Form items (mark :: text)
  | item {item : Item} {items : List Item} {word rest : List Char} : Form item word →
      (rest = [] ∨ ∃ more, rest = mark :: more) → Joined mark Form items rest →
      Joined mark Form (item :: items) (word ++ rest)

/-- The words of a text are the written forms of its items, if none of these is empty or holds the
mark. -/
theorem Joined.words {Item : Type} {mark : Char} {Form : Item → List Char → Prop}
    {items : List Item} {text : List Char} (joined : Joined mark Form items text)
    (nonempty : ∀ item ∈ items, ∀ word, Form item word → word ≠ [])
    (absent : ∀ item ∈ items, ∀ word, Form item word → mark ∉ word) :
    List.Forall₂ Form items (words mark text) := by
  induction joined with
  | nil => exact .nil
  | mark _ ih =>
      rw [words_cons_mark]
      exact ih nonempty absent
  | @item item items word rest form ended _ ih =>
      rw [words_append (nonempty item List.mem_cons_self word form)
        (absent item List.mem_cons_self word form) ended]
      refine .cons form (ih ?_ ?_)
      · exact fun other member => nonempty other (List.mem_cons_of_mem _ member)
      · exact fun other member => absent other (List.mem_cons_of_mem _ member)

theorem Joined.clear {Item : Type} {mark : Char} {Form : Item → List Char → Prop}
    {marks : List Char} (absent : mark ∉ marks) (visible : isBlank mark = false)
    (inside : ∀ item word, Form item word → Clear marks word) {items : List Item}
    {text : List Char} (joined : Joined mark Form items text) : Clear marks text := by
  induction joined with
  | nil => exact clear_nil marks
  | mark _ ih => exact ih.cons absent visible
  | item form _ _ ih => exact (inside _ _ form).append ih

/-! ## Trimming -/

/-- A text without the blanks at its end. -/
def trimEnd (text : List Char) : List Char :=
  (text.reverse.dropWhile isBlank).reverse

theorem trimEnd_append_blanks (text : List Char) {blanks : List Char}
    (all : ∀ c ∈ blanks, isBlank c = true) : trimEnd (text ++ blanks) = trimEnd text := by
  rw [trimEnd, List.reverse_append,
    List.dropWhile_append_of_pos fun c member => all c (List.mem_reverse.mp member), trimEnd]

theorem trimEnd_append_cons (text : List Char) {c : Char} (visible : isBlank c = false)
    (rest : List Char) : trimEnd (text ++ c :: rest) = text ++ c :: trimEnd rest := by
  have kept : (rest.reverse ++ c :: text.reverse).dropWhile isBlank =
      rest.reverse.dropWhile isBlank ++ c :: text.reverse := by
    rw [List.dropWhile_append, List.dropWhile_cons_of_neg (by simp [visible])]
    split
    · next empty => rw [List.isEmpty_iff.mp empty, List.nil_append]
    · rfl
  have reversed : (text ++ c :: rest).reverse = rest.reverse ++ c :: text.reverse := by simp
  rw [trimEnd, reversed, kept, trimEnd]
  simp

theorem trimEnd_eq_self {text : List Char} (visible : ∀ c ∈ text, isBlank c = false) :
    trimEnd text = text := by
  induction text with
  | nil => rfl
  | cons c rest ih =>
      obtain ⟨first, others⟩ := List.forall_mem_cons.mp visible
      rw [← List.nil_append (c :: rest), trimEnd_append_cons [] first, ih others]

/-- Blanks around a text that does not start with one are trimmed off, and so are those at its end. -/
theorem trim_between {before text after : List Char} (front : ∀ c ∈ before, isBlank c = true)
    (visible : ∀ c, text.head? = some c → isBlank c = false)
    (back : ∀ c ∈ after, isBlank c = true) : trim (before ++ text ++ after) = trimEnd text := by
  have start : (before ++ text ++ after).dropWhile isBlank = (text ++ after).dropWhile isBlank := by
    rw [List.append_assoc, List.dropWhile_append_of_pos front]
  rw [trim, start]
  cases text with
  | nil =>
      rw [List.nil_append, ← List.append_nil after, List.dropWhile_append_of_pos back]
      rfl
  | cons c rest =>
      rw [List.cons_append, List.dropWhile_cons_of_neg (by simp [visible c rfl])]
      exact trimEnd_append_blanks (c :: rest) back

end SeriesQuery.Text
