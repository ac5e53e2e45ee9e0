import SeriesQuery.Proofs.Text.Percent
import SeriesQuery.Proofs.Text.Split
import SeriesQuery.Text.Form

set_option autoImplicit false

/-!
# Decoding what is form-encoded

The written forms of pairs. Plus signs may stand for spaces, characters that separate pairs or end a
query string are escaped, and so may any other be. Every written form is read as the pairs that it
was written for, and `encodePairs` is one of the ways to write them.
-/

namespace SeriesQuery.Text.Form

/-- The characters that may stand for themselves in a name or a value. -/
def Plain (c : Char) : Prop :=
  c ∉ ['&', '=', '+', '%', '#'] ∧ isBlank c = false

instance (c : Char) : Decidable (Plain c) :=
  inferInstanceAs (Decidable (_ ∧ _))

/-- What stands for a character that is not escaped. -/
def sign (c : Char) : Char :=
  if c = ' ' then '+' else c

/-- A name or a value in written form. -/
def Component (text written : List Char) : Prop :=
  ∃ spaced, Percent.Writes (fun c => Plain c ∨ c = ' ') text spaced ∧ written = spaced.map sign

def Pair (pair : List Char × List Char) (written : List Char) : Prop :=
  ∃ name value, Component pair.1 name ∧ Component pair.2 value ∧ written = name ++ '=' :: value

abbrev Pairs : List (List Char × List Char) → List Char → Prop :=
  Joined '&' Pair

/-! ## The characters of a written form -/

theorem Component.clear {text written : List Char} (form : Component text written) :
    Clear ['&', '=', '#'] written := by
  obtain ⟨spaced, writes, rfl⟩ := form
  have signs : ∀ c ∈ spaced, sign c ∉ ['&', '=', '#'] ∧ isBlank (sign c) = false := by
    refine writes.forall (by decide) (by decide) ?_
    rintro c (⟨separates, visible⟩ | rfl)
    · have noSpace : c ≠ ' ' := by
        rintro rfl
        exact absurd visible (by decide)
      have fewer : ['&', '=', '#'] ⊆ ['&', '=', '+', '%', '#'] := by decide
      rw [sign, if_neg noSpace]
      exact ⟨fun member => separates (fewer member), visible⟩
    · decide
  exact List.forall_mem_map.mpr signs

theorem Pair.clear {item : List Char × List Char} {written : List Char}
    (form : Pair item written) : Clear ['&', '#'] written := by
  obtain ⟨name, value, nameForm, valueForm, rfl⟩ := form
  have fewer : ['&', '#'] ⊆ ['&', '=', '#'] := by decide
  have valueClear := (valueForm.clear.of_subset fewer).cons (c := '=') (by decide) (by decide)
  exact (nameForm.clear.of_subset fewer).append valueClear

theorem Pairs.clear {items : List (List Char × List Char)} {written : List Char}
    (form : Pairs items written) : Clear ['#'] written :=
  Joined.clear (by decide) (by decide)
    (fun _ _ pair => pair.clear.of_subset (by decide)) form

theorem Pair.ne_nil {item : List Char × List Char} {written : List Char}
    (form : Pair item written) : written ≠ [] := by
  obtain ⟨name, value, _, _, rfl⟩ := form
  exact List.append_ne_nil_of_right_ne_nil name (List.cons_ne_nil _ _)

/-! ## Reading a written form -/

theorem component_eq {text written : List Char} (form : Component text written) :
    component written = text := by
  obtain ⟨spaced, writes, rfl⟩ := form
  -- No plus sign stands for itself, so each can be taken back to the space that it stands for.
  have noPlus : ∀ c ∈ spaced, c ≠ '+' := by
    refine writes.forall (by decide) (by decide) ?_
    rintro c (⟨separates, _⟩ | rfl)
    · rintro rfl
      exact separates (by decide)
    · decide
  have restored : (spaced.map sign).map (fun c => if c = '+' then ' ' else c) = spaced := by
    rw [List.map_map]
    refine (List.map_congr_left fun c member => ?_).trans (List.map_id spaced)
    have other := noPlus c member
    by_cases space : c = ' '
    · simp [sign, space]
    · simp [sign, space, other]
  rw [component, restored, writes.decode_eq (by decide), Utf8.decodeLenient_encode]

theorem pair_eq {item : List Char × List Char} {written : List Char} (form : Pair item written) :
    pair written = item := by
  obtain ⟨name, value, nameForm, valueForm, rfl⟩ := form
  have separate : '=' ∉ name := nameForm.clear.not_mem (by decide)
  simp only [pair, cut_append_cons separate, Option.getD_some, component_eq nameForm,
    component_eq valueForm]

/-- Every written form of pairs is read as these. -/
theorem pairs_eq {items : List (List Char × List Char)} {written : List Char}
    (form : Pairs items written) : pairs written = items := by
  have forms : List.Forall₂ Pair items (words '&' written) :=
    Joined.words form (fun _ _ _ pair => pair.ne_nil)
      (fun _ _ _ pair => pair.clear.not_mem (by decide))
  have read : List.Forall₂ Eq items ((words '&' written).map pair) :=
    List.forall₂_map_right_iff.mpr (forms.imp fun _ _ form => (pair_eq form).symm)
  rw [List.forall₂_eq_eq_eq] at read
  exact read.symm

/-! ## The written form that `encodePairs` picks -/

/-- How `encodeComponent` writes one byte. -/
def writeByte (byte : UInt8) : List Char :=
  if byte = 0x20 then ['+']
  else if isPlain byte then [Char.ofNat byte.toNat]
  else Percent.encodeByte true byte

theorem plain_of_isPlain :
    ∀ value < 256, isPlain (UInt8.ofNat value) = true →
      value < 0x80 ∧ Plain (Char.ofNat value) ∧ Char.ofNat value ≠ ' ' := by
  decide +kernel

theorem writeByte_of_le {byte : UInt8} (wide : 0x80 ≤ byte.toNat) :
    writeByte byte = Percent.encodeByte true byte := by
  have noSpace : byte ≠ 0x20 := by
    rintro rfl
    exact absurd wide (by decide)
  have notPlain : ¬ isPlain byte = true := by
    intro plain
    have narrow := plain_of_isPlain byte.toNat byte.toNat_lt (by rwa [UInt8.ofNat_toNat])
    omega
  rw [writeByte, if_neg noSpace, if_neg notPlain]

theorem Component.append {text more written rest : List Char} (first : Component text written)
    (second : Component more rest) : Component (text ++ more) (written ++ rest) := by
  obtain ⟨spaced, writes, rfl⟩ := first
  obtain ⟨others, writesOthers, rfl⟩ := second
  exact ⟨spaced ++ others, writes.append writesOthers, List.map_append.symm⟩

theorem component_escapes (c : Char) :
    Component [c] ((Utf8.encode [c]).flatMap (Percent.encodeByte true)) := by
  have escapes := Percent.escapes_encodeByte (Utf8.encode [c])
  have writes : Percent.Writes (fun c => Plain c ∨ c = ' ') [c] _ := .escaped escapes .nil
  rw [List.append_nil] at writes
  have unchanged : ∀ letter ∈ (Utf8.encode [c]).flatMap (Percent.encodeByte true),
      sign letter = letter := escapes.forall (by decide) (by decide)
  exact ⟨_, writes, ((List.map_congr_left unchanged).trans (List.map_id _)).symm⟩

theorem component_encodeChar (c : Char) : Component [c] ((Utf8.encode [c]).flatMap writeByte) := by
  have bytes := Utf8.encode_singleton c
  -- `encodeComponent` decides byte by byte. A character of one byte is escaped or stands for itself, all
  -- bytes of any other are escaped.
  rcases (Utf8.spelled_encodeChar c).narrow_or_wide with ⟨narrow, single⟩ | wide
  · have point : (UInt8.ofNat c.toNat).toNat = c.toNat :=
      UInt8.toNat_ofNat_of_lt' (Nat.lt_trans narrow (by decide))
    have written : (Utf8.encode [c]).flatMap writeByte = writeByte (UInt8.ofNat c.toNat) := by
      rw [bytes, single, List.flatMap_singleton]
    rw [written, writeByte]
    split
    · next space =>
        have same : c = ' ' := by
          rw [← Char.ofNat_toNat c, ← point, space]
          rfl
        subst same
        exact ⟨[' '], .plain (.inr rfl) .nil, rfl⟩
    · split
      · next plain =>
          have standing := plain_of_isPlain c.toNat (Nat.lt_trans narrow (by decide)) plain
          rw [Char.ofNat_toNat] at standing
          obtain ⟨_, plain, noSpace⟩ := standing
          rw [point, Char.ofNat_toNat]
          exact ⟨[c], .plain (.inl plain) .nil, by rw [List.map_singleton, sign, if_neg noSpace]⟩
      · have escapes := component_escapes c
        rwa [bytes, single, List.flatMap_singleton] at escapes
  · have same : (Utf8.encode [c]).flatMap writeByte =
        (Utf8.encode [c]).flatMap (Percent.encodeByte true) := by
      rw [bytes]
      exact List.flatMap_congr fun byte member => writeByte_of_le (wide byte member)
    rw [same]
    exact component_escapes c

theorem component_encodeComponent (text : List Char) : Component text (encodeComponent text) := by
  induction text with
  | nil => exact ⟨[], .nil, rfl⟩
  | cons c text ih =>
      have split : encodeComponent (c :: text) =
          (Utf8.encode [c]).flatMap writeByte ++ encodeComponent text := by
        change (Utf8.encode ([c] ++ text)).flatMap writeByte = _
        rw [Utf8.encode_append, List.flatMap_append]
        rfl
      rw [split]
      exact (component_encodeChar c).append ih

theorem pairs_encodePairs (items : List (List Char × List Char)) :
    Pairs items (encodePairs items) := by
  have form (item : List Char × List Char) : Pair item (encodePair item) :=
    ⟨_, _, component_encodeComponent item.1, component_encodeComponent item.2, rfl⟩
  induction items with
  | nil => exact .nil
  | cons item items ih =>
      cases items with
      | nil =>
          have last : Pairs [item] (encodePair item ++ []) := .item (form item) (.inl rfl) .nil
          rw [List.append_nil] at last
          rwa [encodePairs, List.map_singleton, List.intercalate_singleton]
      | cons next items => exact .item (form item) (.inr ⟨_, rfl⟩) (.mark ih)

end SeriesQuery.Text.Form
