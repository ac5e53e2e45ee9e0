import SeriesQuery.Json.Decode
import SeriesQuery.Proofs.Json.Spelling
import SeriesQuery.Proofs.Json.Tokens
import SeriesQuery.Proofs.Text.Items

set_option autoImplicit false

/-!
# Arrays of texts

The grammar of a JSON text that is an array of strings, with blanks around every part of it. Bytes are
read as such an array if and only if they are the UTF-8 of a text of this grammar, and the compact
text of the array is one.
-/

namespace SeriesQuery.Json

open SeriesQuery.Text

inductive Padded (Form : List Char → Prop) : List Char → Prop where
  | mk {before written after : List Char} : Blanks before → Form written → Blanks after →
      Padded Form (before ++ written ++ after)

/-- One or more strings with commas between them. -/
inductive ItemsForm : List String → List Char → Prop where
  | last {text : String} {written : List Char} : Padded (StringForm text) written →
      ItemsForm [text] written
  | cons {text : String} {rest : List String} {written more : List Char} :
      Padded (StringForm text) written → ItemsForm rest more →
      ItemsForm (text :: rest) (written ++ ',' :: more)

inductive ArrayForm : List String → List Char → Prop where
  | empty {blanks : List Char} : Blanks blanks → ArrayForm [] ('[' :: blanks ++ [']'])
  | items {texts : List String} {written : List Char} : ItemsForm texts written →
      ArrayForm texts ('[' :: written ++ [']'])

theorem Padded.of_form {Form : List Char → Prop} {written : List Char} (form : Form written) :
    Padded Form written := by
  have padded := Padded.mk blanks_nil form blanks_nil
  rwa [List.nil_append, List.append_nil] at padded

/-! ## Reading -/

/-- The strings of an array after the first one, each after its comma, and the end of the array. -/
def moreTokens (texts : List String) : List Token :=
  texts.flatMap (fun text => [.comma, .string (some text)]) ++ [.closeArray]

theorem moreTokens_cons (text : String) (rest : List String) :
    moreTokens (text :: rest) = .comma :: .string (some text) :: moreTokens rest :=
  rfl

theorem toTokens_texts_nil : toTokens (.array (([] : List String).map ofText)) =
    [.openArray, .closeArray] :=
  rfl

theorem toTokens_texts_cons (text : String) (rest : List String) :
    toTokens (.array ((text :: rest).map ofText)) =
      .openArray :: .string (some text) :: moreTokens rest := by
  have items : (itemTokens (rest.map ofText)).flatMap (Token.comma :: ·) =
      rest.flatMap fun text => [.comma, .string (some text)] := by
    rw [itemTokens_eq_map, List.map_map, List.flatMap_map]
    rfl
  rw [List.map_cons, toTokens, itemTokens, intercalate_cons, items]
  rfl

theorem spelled_comma_iff {rest : List Token} {parts : Utf8.Parts} :
    Spelled (.comma :: rest) parts ↔
      ∃ blanks more, Blanks blanks ∧ Spelled rest more ∧ parts = blanks.map some ++ some ',' :: more :=
  spelled_mark_iff (by decide)

theorem spelled_openArray_iff {rest : List Token} {parts : Utf8.Parts} :
    Spelled (.openArray :: rest) parts ↔
      ∃ blanks more, Blanks blanks ∧ Spelled rest more ∧ parts = blanks.map some ++ some '[' :: more :=
  spelled_mark_iff (by decide)

/-- A closing bracket at the end of a text. -/
theorem spelled_closeArray_iff {parts : Utf8.Parts} : Spelled [.closeArray] parts ↔
    ∃ before after, Blanks before ∧ Blanks after ∧ parts = (before ++ ']' :: after).map some := by
  have isMark : (']', Token.closeArray) ∈ marks := by decide
  rw [spelled_mark_iff isMark]
  constructor
  · rintro ⟨before, more, isBefore, ended, rfl⟩
    obtain ⟨after, isAfter, rfl⟩ := spelled_nil_iff.mp ended
    exact ⟨before, after, isBefore, isAfter, by simp⟩
  · rintro ⟨before, after, isBefore, isAfter, rfl⟩
    exact ⟨before, _, isBefore, .nil isAfter, by simp⟩

theorem exists_itemsForm {text : String} {rest : List String} {parts : Utf8.Parts}
    (spelled : Spelled (.string (some text) :: moreTokens rest) parts) :
    ∃ items after, ItemsForm (text :: rest) items ∧ Blanks after ∧
      parts = (items ++ ']' :: after).map some := by
  -- The blanks after a string are those that its comma or the bracket is spelled with.
  induction rest generalizing text parts with
  | nil =>
      obtain ⟨before, written, more, isBefore, form, ended, rfl⟩ := spelled_text_iff.mp spelled
      obtain ⟨between, after, isBetween, isAfter, rfl⟩ := spelled_closeArray_iff.mp ended
      exact ⟨_, after, .last (.mk isBefore form isBetween), isAfter, by simp⟩
  | cons next rest ih =>
      obtain ⟨before, written, more, isBefore, form, comma, rfl⟩ := spelled_text_iff.mp spelled
      rw [moreTokens_cons] at comma
      obtain ⟨between, left, isBetween, others, rfl⟩ := spelled_comma_iff.mp comma
      obtain ⟨items, after, isItems, isAfter, rfl⟩ := ih others
      exact ⟨_, after, .cons (.mk isBefore form isBetween) isItems, isAfter, by simp⟩

theorem ItemsForm.spelled {texts : List String} {items : List Char} (form : ItemsForm texts items)
    {after : List Char} (isAfter : Blanks after) : ∃ text rest, texts = text :: rest ∧
      Spelled (.string (some text) :: moreTokens rest) ((items ++ ']' :: after).map some) := by
  induction form with
  | @last text _ padded =>
      obtain ⟨isBefore, isString, isBetween⟩ := padded
      refine ⟨text, [], rfl, spelled_text_iff.mpr ⟨_, _, _, isBefore, isString, ?_, by simp; rfl⟩⟩
      exact spelled_closeArray_iff.mpr ⟨_, after, isBetween, isAfter, by simp⟩
  | @cons text rest _ more padded _ ih =>
      obtain ⟨isBefore, isString, isBetween⟩ := padded
      obtain ⟨next, others, rfl, spelled⟩ := ih
      refine ⟨text, _, rfl, spelled_text_iff.mpr ⟨_, _, _, isBefore, isString, ?_, by simp; rfl⟩⟩
      exact spelled_comma_iff.mpr ⟨_, _, isBetween, spelled, by simp⟩

theorem spelled_texts_iff {texts : List String} {parts : Utf8.Parts} :
    Spelled (toTokens (.array (texts.map ofText))) parts ↔
      ∃ text, parts = text.map some ∧ Padded (ArrayForm texts) text := by
  constructor
  · intro spelled
    cases texts with
    | nil =>
        rw [toTokens_texts_nil] at spelled
        obtain ⟨before, more, isBefore, ended, rfl⟩ := spelled_openArray_iff.mp spelled
        obtain ⟨inside, after, isInside, isAfter, rfl⟩ := spelled_closeArray_iff.mp ended
        exact ⟨_, by simp, .mk isBefore (.empty isInside) isAfter⟩
    | cons text rest =>
        rw [toTokens_texts_cons] at spelled
        obtain ⟨before, more, isBefore, others, rfl⟩ := spelled_openArray_iff.mp spelled
        obtain ⟨items, after, isItems, isAfter, rfl⟩ := exists_itemsForm others
        exact ⟨_, by simp, .mk isBefore (.items isItems) isAfter⟩
  · rintro ⟨_, rfl, ⟨isBefore, form, isAfter⟩⟩
    cases form with
    | empty isInside =>
        rw [toTokens_texts_nil]
        refine spelled_openArray_iff.mpr ⟨_, _, isBefore, ?_, by simp; rfl⟩
        exact spelled_closeArray_iff.mpr ⟨_, _, isInside, isAfter, by simp⟩
    | items isItems =>
        obtain ⟨text, rest, rfl, spelled⟩ := isItems.spelled isAfter
        rw [toTokens_texts_cons]
        exact spelled_openArray_iff.mpr ⟨_, _, isBefore, spelled, by simp⟩

theorem toText?_eq_some_iff {json : Json} {text : String} :
    json.toText? = some text ↔ json = ofText text := by
  cases json with
  | string content => simp [toText?, ofText]
  | null | bool | number | array | object => simp [toText?, ofText]

theorem toList?_texts_eq_some_iff {json : Json} {texts : List String} :
    json.toList? toText? = some texts ↔ json = .array (texts.map ofText) := by
  cases json with
  | array items =>
      rw [Json.array.injEq]
      exact mapM_eq_some_iff_map fun _ _ => toText?_eq_some_iff
  | null | bool | number | string | object => simp [toList?]

/-- Bytes are read as an array of strings if and only if they are the UTF-8 of one. -/
theorem readBytes?_texts_iff {bytes : List UInt8} {texts : List String} :
    readBytes? bytes = some (.array (texts.map ofText)) ↔
      ∃ text, bytes = Utf8.encode text ∧ Padded (ArrayForm texts) text := by
  simp only [readBytes?, Option.bind_eq_some_iff, ofTokens?_eq_some_iff, exists_eq_right,
    tokens_eq_some_iff, spelled_texts_iff]
  constructor
  · rintro ⟨text, same, form⟩
    exact ⟨text, Utf8.eq_encode_of_parts same, form⟩
  · rintro ⟨text, rfl, form⟩
    exact ⟨text, Utf8.parts_encode text, form⟩

/-! ## The form that is printed -/

theorem printItems_texts (texts : List String) :
    printItems (texts.map ofText) = texts.map printText := by
  induction texts with
  | nil => rfl
  | cons text rest ih =>
      rw [List.map_cons, printItems, ih]
      rfl

theorem itemsForm_printed (text : String) (rest : List String) :
    ItemsForm (text :: rest) (commaSeparated ((text :: rest).map printText)) := by
  induction rest generalizing text with
  | nil =>
      have same : commaSeparated ([text].map printText) = printText text := by
        simp [commaSeparated, List.intercalate]
      rw [same]
      exact .last (.of_form (stringForm_printText text))
  | cons next rest ih =>
      have same : commaSeparated ((text :: next :: rest).map printText) =
          printText text ++ ',' :: commaSeparated ((next :: rest).map printText) := by
        simp [commaSeparated, List.intercalate]
      rw [same]
      exact .cons (.of_form (stringForm_printText text)) (ih next)

theorem arrayForm_printed (texts : List String) :
    ArrayForm texts (print (.array (texts.map ofText))) := by
  rw [print, printItems_texts]
  cases texts with
  | nil => exact .empty blanks_nil
  | cons text rest => exact .items (itemsForm_printed text rest)

end SeriesQuery.Json
