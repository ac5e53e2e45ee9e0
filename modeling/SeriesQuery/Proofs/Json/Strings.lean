import SeriesQuery.Json.Printer
import SeriesQuery.Json.Token
import SeriesQuery.Proofs.Text.Percent

set_option autoImplicit false

/-!
# The written forms of a string

Each character of a string stands for itself, or is written by a backslash and a letter, or by one or
two codes of 16 bits in hexadecimal digits of either case. A string is read as a text if and only if it
is one of the written forms of that text; so a surrogate without its partner writes no text.
-/

namespace SeriesQuery.Json

open SeriesQuery.Text

/-- The letters that stand for a character after a backslash. -/
def escapeLetters : List (Char × Char) :=
  [('"', '"'), ('\\', '\\'), ('/', '/'), ('b', '\x08'), ('f', '\x0c'), ('n', '\n'), ('r', '\r'),
    ('t', '\t')]

/-- Four hexadecimal digits that write a code of 16 bits. -/
inductive Quad (code : Nat) : List Char → Prop where
  | mk {a b c d : Char} : code < 0x10000 → Percent.Digit (code / 0x1000) a →
      Percent.Digit (code / 0x100 % 16) b → Percent.Digit (code / 0x10 % 16) c →
      Percent.Digit (code % 16) d → Quad code [a, b, c, d]

inductive CharForm : Char → List Char → Prop where
  | plain {c : Char} : c ≠ '"' → c ≠ '\\' → 0x20 ≤ c.toNat → CharForm c [c]
  | letter {letter c : Char} : (letter, c) ∈ escapeLetters → CharForm c ['\\', letter]
  | code {c : Char} {digits : List Char} : Quad c.toNat digits → CharForm c ('\\' :: 'u' :: digits)
  /-- Two surrogates, for a character beyond 16 bits. -/
  | pair {c : Char} {high low : List Char} : 0x10000 ≤ c.toNat →
      Quad (0xD800 + (c.toNat - 0x10000) / 0x400) high →
      Quad (0xDC00 + (c.toNat - 0x10000) % 0x400) low →
      CharForm c ('\\' :: 'u' :: high ++ '\\' :: 'u' :: low)

/-- What stands between the quotes of a string. -/
inductive TextForm : List Char → List Char → Prop where
  | nil : TextForm [] []
  | cons {c : Char} {text form written : List Char} : CharForm c form → TextForm text written →
      TextForm (c :: text) (form ++ written)

inductive StringForm (text : String) : List Char → Prop where
  | mk {written : List Char} : TextForm text.toList written →
      StringForm text ('"' :: written ++ ['"'])

/-! ## Codes -/

theorem toNat_bounds {low high c : Char} (range : low ≤ c ∧ c ≤ high) :
    low.toNat ≤ c.toNat ∧ c.toNat ≤ high.toNat := range

theorem digit_of_hexValue? {c : Char} {value : Nat} (read : Percent.hexValue? c = some value) :
    value < 16 ∧ Percent.Digit value c := by
  have zero : '0'.toNat = 48 := rfl
  have nine : '9'.toNat = 57 := rfl
  have lowerA : 'a'.toNat = 97 := rfl
  have lowerF : 'f'.toNat = 102 := rfl
  have upperA : 'A'.toNat = 65 := rfl
  have upperF : 'F'.toNat = 70 := rfl
  unfold Percent.hexValue? at read
  split at read
  · next range =>
      obtain ⟨low, high⟩ := toNat_bounds range
      cases read
      refine ⟨by omega, .inl ?_⟩
      rw [Percent.hexDigit, if_pos (by omega), Nat.add_sub_cancel' low, Char.ofNat_toNat]
  · split at read
    · next range =>
        obtain ⟨low, high⟩ := toNat_bounds range
        cases read
        refine ⟨by omega, .inr ?_⟩
        rw [Percent.hexDigit, if_neg (by omega), if_neg Bool.false_ne_true, Nat.add_sub_cancel,
          Nat.add_sub_cancel' low, Char.ofNat_toNat]
    · split at read
      · next range =>
          obtain ⟨low, high⟩ := toNat_bounds range
          cases read
          refine ⟨by omega, .inl ?_⟩
          rw [Percent.hexDigit, if_neg (by omega), if_pos rfl, Nat.add_sub_cancel,
            Nat.add_sub_cancel' low, Char.ofNat_toNat]
      · cases read

theorem hexQuad?_eq_some_iff {a b c d : Char} {code : Nat} :
    hexQuad? a b c d = some code ↔ Quad code [a, b, c, d] := by
  constructor
  · intro read
    simp only [hexQuad?] at read
    split at read
    · next first second third fourth isFirst isSecond isThird isFourth =>
        obtain ⟨smallA, digitA⟩ := digit_of_hexValue? isFirst
        obtain ⟨smallB, digitB⟩ := digit_of_hexValue? isSecond
        obtain ⟨smallC, digitC⟩ := digit_of_hexValue? isThird
        obtain ⟨smallD, digitD⟩ := digit_of_hexValue? isFourth
        cases read
        refine .mk (by omega) ?_ ?_ ?_ ?_
        · rwa [show (((first * 16 + second) * 16 + third) * 16 + fourth) / 0x1000 = first by omega]
        · rwa [show (((first * 16 + second) * 16 + third) * 16 + fourth) / 0x100 % 16 = second by
            omega]
        · rwa [show (((first * 16 + second) * 16 + third) * 16 + fourth) / 0x10 % 16 = third by
            omega]
        · rwa [show (((first * 16 + second) * 16 + third) * 16 + fourth) % 16 = fourth by omega]
    · cases read
  · intro quad
    cases quad with
    | mk small digitA digitB digitC digitD =>
        simp only [hexQuad?, digitA.hexValue?_eq (by omega), digitB.hexValue?_eq (by omega),
          digitC.hexValue?_eq (by omega), digitD.hexValue?_eq (by omega), Option.some.injEq]
        omega

theorem escaped?_eq_some_iff {letter c : Char} :
    escaped? letter = some c ↔ (letter, c) ∈ escapeLetters := by
  constructor
  · intro read
    unfold escaped? at read
    split at read <;> cases read <;> decide
  · intro member
    simp only [escapeLetters, List.mem_cons, Prod.mk.injEq, List.not_mem_nil, or_false] at member
    rcases member with ⟨rfl, rfl⟩ | ⟨rfl, rfl⟩ | ⟨rfl, rfl⟩ | ⟨rfl, rfl⟩ | ⟨rfl, rfl⟩ | ⟨rfl, rfl⟩ |
      ⟨rfl, rfl⟩ | ⟨rfl, rfl⟩ <;> rfl

/-! ## Pieces -/

inductive PieceForm : Piece → Utf8.Parts → Prop where
  | plain {c : Char} : c ≠ '"' → c ≠ '\\' → 0x20 ≤ c.toNat → PieceForm (.char c) [some c]
  | letter {letter c : Char} : (letter, c) ∈ escapeLetters →
      PieceForm (.char c) [some '\\', some letter]
  | code {code : Nat} {digits : List Char} : Quad code digits →
      PieceForm (.ofCode code) (some '\\' :: some 'u' :: digits.map some)
  | illFormed : PieceForm .illFormed [none]

theorem PieceForm.stringPieces_eq {piece : Piece} {written : Utf8.Parts}
    (form : PieceForm piece written) (parts : Utf8.Parts) :
    stringPieces (written ++ parts) =
      (stringPieces parts).map fun (pieces, after) => (piece :: pieces, after) := by
  cases form with
  | @plain c noQuote noEscape visible =>
      rw [List.singleton_append, stringPieces, if_neg (by simp [noEscape]; omega)]
      · exact noQuote
      · intros
        exact noEscape ‹_›
      · intros
        exact noEscape ‹_›
  | @letter letter c member =>
      have noCode : letter ≠ 'u' := by
        rintro rfl
        simp [escapeLetters] at member
      rw [List.cons_append, List.singleton_append, stringPieces, escaped?_eq_some_iff.mpr member]
      · cases stringPieces parts <;> rfl
      · intros
        exact noCode ‹_›
  | @code code digits quad =>
      cases quad with
      | mk small digitA digitB digitC digitD =>
          have read := hexQuad?_eq_some_iff.mpr (.mk small digitA digitB digitC digitD)
          simp only [List.map_cons, List.map_nil, List.cons_append, List.nil_append, stringPieces, read]
          cases stringPieces parts <;> rfl
  | illFormed => rw [List.singleton_append, stringPieces]

theorem exists_of_stringPieces_cons {parts after : Utf8.Parts} {piece : Piece} {rest : List Piece}
    (read : stringPieces parts = some (piece :: rest, after)) :
    ∃ written left, PieceForm piece written ∧ parts = written ++ left ∧
      stringPieces left = some (rest, after) := by
  unfold stringPieces at read
  split at read
  · cases read
  · cases read
  · next a b c d left =>
      split at read
      · next code pieces last isCode found =>
          cases read
          exact ⟨_, left, .code (hexQuad?_eq_some_iff.mp isCode), rfl, found⟩
      · cases read
  · next letter left _ =>
      split at read
      · next c pieces last isLetter found =>
          cases read
          exact ⟨_, left, .letter (escaped?_eq_some_iff.mp isLetter), rfl, found⟩
      · cases read
  · next c left noQuote _ _ =>
      split at read
      · cases read
      · next plain =>
          obtain ⟨⟨pieces, last⟩, found, same⟩ := Option.map_eq_some_iff.mp read
          cases same
          obtain ⟨noEscape, visible⟩ := not_or.mp plain
          exact ⟨_, left, .plain noQuote noEscape (Nat.le_of_not_lt visible), rfl, found⟩
  · next left =>
      obtain ⟨⟨pieces, last⟩, found, same⟩ := Option.map_eq_some_iff.mp read
      cases same
      exact ⟨_, left, .illFormed, rfl, found⟩

theorem eq_of_stringPieces_nil {parts after : Utf8.Parts}
    (read : stringPieces parts = some ([], after)) : parts = some '"' :: after := by
  unfold stringPieces at read
  split at read
  · cases read
  · cases read
    rfl
  · split at read <;> cases read
  · split at read <;> cases read
  · split at read
    · cases read
    · obtain ⟨⟨pieces, last⟩, _, same⟩ := Option.map_eq_some_iff.mp read
      cases same
  · obtain ⟨⟨pieces, last⟩, _, same⟩ := Option.map_eq_some_iff.mp read
    cases same

theorem stringPieces_suffix {parts after : Utf8.Parts} {pieces : List Piece}
    (read : stringPieces parts = some (pieces, after)) : after <:+ parts := by
  induction pieces generalizing parts with
  | nil =>
      rw [eq_of_stringPieces_nil read]
      exact List.suffix_cons _ _
  | cons piece rest ih =>
      obtain ⟨written, left, _, rfl, next⟩ := exists_of_stringPieces_cons read
      exact (ih next).trans (List.suffix_append written left)

/-! ## Characters -/

/-- The code of a character is not a surrogate. -/
theorem ofCode_of_char (c : Char) : Piece.ofCode c.toNat = .char c := by
  have range : c.toNat < 0xD800 ∨ 0xDFFF < c.toNat ∧ c.toNat < 0x110000 := c.valid
  rw [Piece.ofCode, if_neg (by omega), Char.ofNat_toNat]

theorem ofCode_of_surrogate {code : Nat} (low : 0xD800 ≤ code) (high : code < 0xE000) :
    Piece.ofCode code = .surrogate code :=
  if_pos ⟨low, high⟩

theorem Quad.lt {code : Nat} {digits : List Char} (quad : Quad code digits) : code < 0x10000 := by
  cases quad with
  | mk small _ _ _ _ => exact small

theorem PieceForm.exists_charForm {c : Char} {written : Utf8.Parts}
    (form : PieceForm (.char c) written) : ∃ chars, CharForm c chars ∧ written = chars.map some := by
  generalize isPiece : Piece.char c = piece at form
  cases form with
  | plain noQuote noEscape visible =>
      cases isPiece
      exact ⟨[c], .plain noQuote noEscape visible, rfl⟩
  | @letter letter c member =>
      cases isPiece
      exact ⟨['\\', letter], .letter member, rfl⟩
  | @code code digits quad =>
      rw [Piece.ofCode] at isPiece
      split at isPiece
      · cases isPiece
      · next proper =>
          have small := quad.lt
          have valid : code.isValidChar := by
            rw [Nat.isValidChar]
            omega
          rw [← Utf8.toNat_ofNat_point valid, ← Piece.char.inj isPiece] at quad
          exact ⟨'\\' :: 'u' :: digits, .code quad, rfl⟩
  | illFormed => cases isPiece

theorem PieceForm.exists_quad {code : Nat} {written : Utf8.Parts}
    (form : PieceForm (.surrogate code) written) : 0xD800 ≤ code ∧ code < 0xE000 ∧
      ∃ digits, Quad code digits ∧ written = ('\\' :: 'u' :: digits).map some := by
  generalize isPiece : Piece.surrogate code = piece at form
  cases form with
  | plain _ _ _ => cases isPiece
  | letter _ => cases isPiece
  | @code other digits quad =>
      rw [Piece.ofCode] at isPiece
      split at isPiece
      · next range =>
          cases isPiece
          exact ⟨range.1, range.2, digits, quad, rfl⟩
      · cases isPiece
  | illFormed => cases isPiece

/-- Two surrogates write the character that they are computed from. -/
theorem joinPieces_pair {c : Char} (wide : 0x10000 ≤ c.toNat) (rest : List Piece) :
    joinPieces (.surrogate (0xD800 + (c.toNat - 0x10000) / 0x400) ::
        .surrogate (0xDC00 + (c.toNat - 0x10000) % 0x400) :: rest) =
      some c :: joinPieces rest := by
  have range : c.toNat < 0xD800 ∨ 0xDFFF < c.toNat ∧ c.toNat < 0x110000 := c.valid
  have point : 0x10000 + (0xD800 + (c.toNat - 0x10000) / 0x400 - 0xD800) * 0x400 +
      (0xDC00 + (c.toNat - 0x10000) % 0x400 - 0xDC00) = c.toNat := by omega
  rw [joinPieces, if_pos (by omega), point, Char.ofNat_toNat]

/-- The character that two surrogates write has them as a written form. -/
theorem charForm_of_surrogates {high low : Nat} {highDigits lowDigits : List Char}
    (highQuad : Quad high highDigits) (lowQuad : Quad low lowDigits) (least : 0xD800 ≤ high)
    (most : low < 0xE000) (range : high < 0xDC00 ∧ 0xDC00 ≤ low) :
    CharForm (Char.ofNat (0x10000 + (high - 0xD800) * 0x400 + (low - 0xDC00)))
      ('\\' :: 'u' :: highDigits ++ '\\' :: 'u' :: lowDigits) := by
  generalize isCode : 0x10000 + (high - 0xD800) * 0x400 + (low - 0xDC00) = code
  have valid : code.isValidChar := by
    rw [Nat.isValidChar]
    omega
  have point := Utf8.toNat_ofNat_point valid
  refine .pair (by omega) ?_ ?_
  · rwa [point, show 0xD800 + (code - 0x10000) / 0x400 = high by omega]
  · rwa [point, show 0xDC00 + (code - 0x10000) % 0x400 = low by omega]

/-- A written form of a character is read as one piece or two, which are joined to the character. -/
theorem CharForm.exists_pieces {c : Char} {written : List Char} (form : CharForm c written) :
    ∃ unit : List Piece, (∀ rest, joinPieces (unit ++ rest) = some c :: joinPieces rest) ∧
      ∀ parts, stringPieces (written.map some ++ parts) =
        (stringPieces parts).map fun (pieces, after) => (unit ++ pieces, after) := by
  have single (rest : List Piece) : joinPieces ([.char c] ++ rest) = some c :: joinPieces rest := by
    rw [List.singleton_append, joinPieces]
  cases form with
  | plain noQuote noEscape visible =>
      exact ⟨[.char c], single, (PieceForm.plain noQuote noEscape visible).stringPieces_eq⟩
  | letter member => exact ⟨[.char c], single, (PieceForm.letter member).stringPieces_eq⟩
  | code quad =>
      have form := PieceForm.code quad
      rw [ofCode_of_char] at form
      exact ⟨[.char c], single, form.stringPieces_eq⟩
  | pair wide high low =>
      have range : c.toNat < 0xD800 ∨ 0xDFFF < c.toNat ∧ c.toNat < 0x110000 := c.valid
      have first := PieceForm.code high
      have second := PieceForm.code low
      rw [ofCode_of_surrogate (by omega) (by omega)] at first second
      refine ⟨[.surrogate (0xD800 + (c.toNat - 0x10000) / 0x400),
        .surrogate (0xDC00 + (c.toNat - 0x10000) % 0x400)], joinPieces_pair wide, fun parts => ?_⟩
      rw [List.map_append, List.append_assoc]
      refine (first.stringPieces_eq _).trans ?_
      refine (congrArg _ (second.stringPieces_eq parts)).trans ?_
      cases stringPieces parts <;> rfl

/-! ## Texts -/

theorem TextForm.stringPieces_eq {text written : List Char} (form : TextForm text written)
    (after : Utf8.Parts) : ∃ pieces, joinPieces pieces = text.map some ∧
      stringPieces (written.map some ++ some '"' :: after) = some (pieces, after) := by
  induction form with
  | nil => exact ⟨[], rfl, rfl⟩
  | cons first _ ih =>
      obtain ⟨unit, joined, read⟩ := first.exists_pieces
      obtain ⟨pieces, rest, found⟩ := ih
      refine ⟨unit ++ pieces, ?_, ?_⟩
      · rw [joined, rest, List.map_cons]
      · rw [List.map_append, List.append_assoc, read, found, Option.map_some]

/-- Pieces that are joined to a text were read from one of its written forms. -/
theorem exists_textForm_of_pieces {pieces : List Piece} {parts after : Utf8.Parts}
    {text : List Char} (read : stringPieces parts = some (pieces, after))
    (joined : joinPieces pieces = text.map some) :
    ∃ written, TextForm text written ∧ parts = written.map some ++ some '"' :: after := by
  fun_induction joinPieces pieces generalizing parts text with
  | case1 =>
      cases text with
      | nil => exact ⟨[], .nil, eq_of_stringPieces_nil read⟩
      | cons c text => cases joined
  | case2 c pieces ih =>
      cases text with
      | nil => cases joined
      | cons d text =>
          obtain ⟨isChar, others⟩ := List.cons.inj joined
          obtain ⟨form, left, isForm, rfl, next⟩ := exists_of_stringPieces_cons read
          obtain ⟨written, rest, rfl⟩ := ih next others
          obtain ⟨chars, charForm, rfl⟩ := isForm.exists_charForm
          cases isChar
          exact ⟨chars ++ written, .cons charForm rest, by simp⟩
  | case3 pieces ih => cases text <;> cases joined
  | case4 high low pieces range ih =>
      cases text with
      | nil => cases joined
      | cons d text =>
          obtain ⟨isChar, others⟩ := List.cons.inj joined
          obtain ⟨first, left, isFirst, rfl, next⟩ := exists_of_stringPieces_cons read
          obtain ⟨second, left, isSecond, rfl, last⟩ := exists_of_stringPieces_cons next
          obtain ⟨written, rest, rfl⟩ := ih last others
          obtain ⟨least, _, highDigits, highQuad, rfl⟩ := isFirst.exists_quad
          obtain ⟨_, most, lowDigits, lowQuad, rfl⟩ := isSecond.exists_quad
          have form := charForm_of_surrogates highQuad lowQuad least most range
          rw [Option.some.inj isChar] at form
          exact ⟨_, .cons form rest, by simp⟩
  | case5 high low pieces range ih => cases text <;> cases joined
  | case6 high pieces _ ih => cases text <;> cases joined

/-- A string is read as a text if and only if one of the written forms of the text comes first. -/
theorem stringToken_eq_some_iff {parts after : Utf8.Parts} {text : String} :
    stringToken parts = some (.string (some text), after) ↔
      ∃ written, StringForm text written ∧ some '"' :: parts = written.map some ++ after := by
  constructor
  · intro read
    obtain ⟨⟨pieces, last⟩, found, same⟩ := Option.map_eq_some_iff.mp read
    obtain ⟨isText, rfl⟩ := Prod.mk.inj same
    obtain ⟨chars, isJoined, rfl⟩ := Option.map_eq_some_iff.mp (Token.string.inj isText)
    obtain ⟨written, form, rfl⟩ := exists_textForm_of_pieces found (Utf8.mapM_id_eq_some_iff.mp isJoined)
    rw [← String.toList_ofList (l := chars)] at form
    exact ⟨_, .mk form, by simp⟩
  · rintro ⟨_, ⟨form⟩, same⟩
    obtain ⟨pieces, joined, read⟩ := form.stringPieces_eq after
    simp only [List.cons_append, List.map_cons, List.map_append, List.map_nil, List.append_assoc,
      List.nil_append, List.cons.injEq, true_and] at same
    simp only [stringToken, same, read, Option.map_some, Utf8.mapM_id_eq_some_iff.mpr joined,
      String.ofList_toList]

theorem exists_string_of_stringToken {parts after : Utf8.Parts} {read : Token}
    (isToken : stringToken parts = some (read, after)) : ∃ content, read = .string content := by
  obtain ⟨⟨pieces, last⟩, _, same⟩ := Option.map_eq_some_iff.mp isToken
  cases same
  exact ⟨_, rfl⟩

/-! ## The form that is printed -/

theorem quad_control : ∀ code < 0x20,
    Quad code ['0', '0', Percent.hexDigit false (code / 16), Percent.hexDigit false (code % 16)] := by
  intro code small
  refine .mk (by omega) ?_ ?_ ?_ ?_
  · rw [show code / 0x1000 = 0 by omega]
    exact .of_upper false
  · rw [show code / 0x100 % 16 = 0 by omega]
    exact .of_upper false
  · rw [show code / 0x10 % 16 = code / 16 by omega]
    exact .of_upper false
  · exact .of_upper false

theorem charForm_printChar (c : Char) : CharForm c (printChar c) := by
  rw [printChar]
  -- The seven characters that have an escape of one letter.
  iterate 7
    split
    · next same =>
        subst same
        exact .letter (by decide)
  split
  · next control => exact .code (quad_control c.toNat control)
  · next noQuote noEscape _ _ _ _ _ visible =>
      exact .plain noQuote noEscape (Nat.le_of_not_lt visible)

theorem textForm_printed (text : List Char) : TextForm text (text.flatMap printChar) := by
  induction text with
  | nil => exact .nil
  | cons c text ih => exact .cons (charForm_printChar c) ih

theorem stringForm_printText (text : String) : StringForm text (printText text) :=
  .mk (textForm_printed text.toList)

end SeriesQuery.Json
