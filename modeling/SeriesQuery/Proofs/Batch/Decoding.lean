import SeriesQuery.Batch.Envelope
import SeriesQuery.Proofs.Json.Texts
import SeriesQuery.Proofs.Query.Words
import SeriesQuery.Proofs.Text.Split

set_option autoImplicit false

/-!
# Decoding the body of a batch

A batch is refused for its content type, whatever its body is; then for a body that is not a JSON array
of strings; then for too many strings. Every other batch is read as the strings of its body.
-/

namespace SeriesQuery.Batch

open SeriesQuery.Text

/-- A content type whose text before the first semicolon is the media type of batches, with blanks
around it and letters of either case. -/
inductive MediaForm : List Char → Prop where
  | mk {before name after rest : List Char} : (∀ c ∈ before, isBlank c = true) →
      Spells (String.ofList name) mediaType → (∀ c ∈ after, isBlank c = true) →
      (rest = [] ∨ ∃ parameters, rest = ';' :: parameters) →
      MediaForm (before ++ name ++ after ++ rest)

/-- A body that is a JSON array of the strings, in UTF-8. A string in which a surrogate stands without
its partner is no text and stands for none of them. -/
def BodyForm (uris : List String) (body : List UInt8) : Prop :=
  ∃ text, body = Utf8.encode text ∧ Json.Padded (Json.ArrayForm uris) text

/-! ## Content types -/

theorem exists_blanks_around (text : List Char) : ∃ before after,
    (∀ c ∈ before, isBlank c = true) ∧ (∀ c ∈ after, isBlank c = true) ∧
      text = before ++ trim text ++ after := by
  have blank (part : List Char) : ∀ c ∈ part.takeWhile isBlank, isBlank c = true :=
    List.all_eq_true.mp List.all_takeWhile
  refine ⟨text.takeWhile isBlank, ((text.dropWhile isBlank).reverse.takeWhile isBlank).reverse,
    blank text, fun c member => blank _ c (List.mem_reverse.mp member), ?_⟩
  rw [List.append_assoc, trim, ← List.reverse_append, List.takeWhile_append_dropWhile,
    List.reverse_reverse, List.takeWhile_append_dropWhile]

theorem isBlank_of_capital {c : Char} (low : 'A' ≤ c) (high : c ≤ 'Z') : isBlank c = false := by
  have least : 65 ≤ c.toNat := low
  have most : c.toNat ≤ 90 := high
  simp only [isBlank, blankRanges, List.any_cons, List.any_nil, Bool.or_eq_false_iff,
    Bool.and_eq_false_iff, decide_eq_false_iff_not, and_true]
  omega

/-- The name of the media type has no blank and no semicolon. -/
theorem visible_of_spells {name : List Char} (isName : Spells (String.ofList name) mediaType) {c : Char}
    (member : c ∈ name) : isBlank c = false ∧ c ≠ ';' := by
  rw [Spells, String.toList_ofList] at isName
  have lower : lowerLetter c ∈ mediaType.toList := by
    rw [← isName, lowerLetter_eq_toLower]
    exact List.mem_map_of_mem member
  have plain : mediaType.toList.all (fun letter => !isBlank letter && letter != ';') = true := by
    decide
  by_cases capital : 'A' ≤ c ∧ c ≤ 'Z'
  · refine ⟨isBlank_of_capital capital.1 capital.2, ?_⟩
    rintro rfl
    exact absurd capital (by decide)
  · rw [lowerLetter, if_neg capital] at lower
    simpa using List.all_eq_true.mp plain c lower

theorem isMediaType_iff {given : String} : isMediaType given = true ↔ MediaForm given.toList := by
  rw [isMediaType, sameLetters_comm, sameLetters_iff (by decide)]
  constructor
  · intro isName
    obtain ⟨before, after, isBefore, isAfter, same⟩ := exists_blanks_around (cut ';' given.toList).1
    have whole := cut_append ';' given.toList
    rw [same] at whole
    rw [← whole]
    refine .mk isBefore isName isAfter ?_
    cases (cut ';' given.toList).2 with
    | none => exact .inl rfl
    | some parameters => exact .inr ⟨parameters, rfl⟩
  · intro form
    generalize given.toList = text at form
    cases form with
    | @mk before name after rest isBefore isName isAfter ended =>
        have blankMark {part : List Char} (blank : ∀ c ∈ part, isBlank c = true) : ';' ∉ part :=
          fun member => absurd (blank ';' member) (by decide)
        -- Neither blanks nor the name hold a semicolon, so the text is cut where the parameters start.
        have absent : ';' ∉ before ++ name ++ after := by
          simp only [List.mem_append, not_or]
          exact ⟨⟨blankMark isBefore, fun member => (visible_of_spells isName member).2 rfl⟩,
            blankMark isAfter⟩
        have first : (cut ';' (before ++ name ++ after ++ rest)).1 = before ++ name ++ after := by
          obtain rfl | ⟨parameters, rfl⟩ := ended
          · rw [List.append_nil, cut_of_not_mem absent]
          · rw [cut_append_cons absent]
        have visible : ∀ c ∈ name, isBlank c = false := fun c member => (visible_of_spells isName member).1
        rw [first, trim_between isBefore (fun c isHead => visible c (List.mem_of_mem_head? isHead)) isAfter,
          trimEnd_eq_self visible]
        exact isName

/-! ## Bodies -/

theorem readUris?_eq_some_iff {body : List UInt8} {uris : List String} :
    readUris? body = some uris ↔ BodyForm uris body := by
  rw [readUris?, BodyForm, ← Json.readBytes?_texts_iff, Option.bind_eq_bind, Option.bind_eq_some_iff]
  constructor
  · rintro ⟨json, read, isTexts⟩
    rwa [← Json.toList?_texts_eq_some_iff.mp isTexts]
  · intro read
    exact ⟨_, read, Json.toList?_texts_eq_some_iff.mpr rfl⟩

theorem bodyForm_printed (uris : List String) :
    BodyForm uris (Utf8.encode (Json.print (.array (uris.map Json.ofText)))) :=
  ⟨_, rfl, .of_form (Json.arrayForm_printed uris)⟩

/-! ## Batches -/

section

variable (maxItems : Nat) {contentType : Option String} {body : List UInt8} {uris : List String}

theorem decode_of_not_mediaForm (body : List UInt8)
    (other : ¬ MediaForm (contentType.getD "").toList) :
    ∃ shown, decode maxItems contentType body = .error (.unsupportedEncoding shown) := by
  rw [decode, if_neg (mt isMediaType_iff.mp other)]
  exact ⟨_, rfl⟩

theorem decode_of_not_bodyForm (media : MediaForm (contentType.getD "").toList)
    (other : ∀ uris, ¬ BodyForm uris body) :
    ∃ reason, decode maxItems contentType body = .error (.malformedEnvelope reason) := by
  have unread : readUris? body = none :=
    Option.eq_none_iff_forall_ne_some.mpr fun uris => mt readUris?_eq_some_iff.mp (other uris)
  rw [decode, if_pos (isMediaType_iff.mpr media), unread]
  exact ⟨_, rfl⟩

variable {maxItems}

theorem decode_of_longer (media : MediaForm (contentType.getD "").toList) (form : BodyForm uris body)
    (longer : maxItems < uris.length) :
    ∃ reason, decode maxItems contentType body = .error (.malformedEnvelope reason) := by
  rw [decode, if_pos (isMediaType_iff.mpr media), readUris?_eq_some_iff.mpr form]
  simp only [if_pos longer]
  exact ⟨_, rfl⟩

theorem decode_of_bodyForm (media : MediaForm (contentType.getD "").toList) (form : BodyForm uris body)
    (fits : uris.length ≤ maxItems) : decode maxItems contentType body = .ok uris := by
  rw [decode, if_pos (isMediaType_iff.mpr media), readUris?_eq_some_iff.mpr form]
  exact if_neg (Nat.not_lt.mpr fits)

/-- A body is an array of at most one list of strings. -/
theorem BodyForm.iff_eq (form : BodyForm uris body) (others : List String) :
    BodyForm others body ↔ others = uris := by
  have read := readUris?_eq_some_iff.mpr form
  rw [← readUris?_eq_some_iff, read, Option.some.injEq, eq_comm]

end

/-- A batch is decoded exactly if its content type, its body and the number of its items are right, and
what is wrong first decides how it is refused. -/
theorem decode_exact (maxItems : Nat) (contentType : Option String) (body : List UInt8) :
    ((∃ shown, decode maxItems contentType body = .error (.unsupportedEncoding shown)) ↔
        ¬ MediaForm (contentType.getD "").toList) ∧
      ((∃ reason, decode maxItems contentType body = .error (.malformedEnvelope reason)) ↔
        MediaForm (contentType.getD "").toList ∧
          ((¬ ∃ uris, BodyForm uris body) ∨ ∃ uris, BodyForm uris body ∧ maxItems < uris.length)) ∧
      (∀ uris, decode maxItems contentType body = .ok uris ↔
        MediaForm (contentType.getD "").toList ∧ BodyForm uris body ∧ uris.length ≤ maxItems) ∧
      ∀ uris, BodyForm uris (Utf8.encode (Json.print (.array (uris.map Json.ofText)))) := by
  suffices cases : _ ∧ _ ∧ _ from ⟨cases.1, cases.2.1, cases.2.2, bodyForm_printed⟩
  by_cases media : MediaForm (contentType.getD "").toList
  · by_cases array : ∃ uris, BodyForm uris body
    · obtain ⟨uris, form⟩ := array
      by_cases fits : uris.length ≤ maxItems
      · rw [decode_of_bodyForm media form fits]
        simp [media, form.iff_eq, fits, eq_comm]
      · have longer := Nat.lt_of_not_le fits
        obtain ⟨reason, refused⟩ := decode_of_longer media form longer
        rw [refused]
        simp [media, form.iff_eq, longer]
    · have noForm := not_exists.mp array
      obtain ⟨reason, refused⟩ := decode_of_not_bodyForm maxItems media noForm
      rw [refused]
      simp [media, noForm]
  · obtain ⟨shown, refused⟩ := decode_of_not_mediaForm maxItems body media
    rw [refused]
    simp [media]

end SeriesQuery.Batch
