import SeriesQuery.Proofs.Text.Utf8
import SeriesQuery.Text.Percent

set_option autoImplicit false

/-!
# Decoding what is percent-encoded

A text is percent-encoded in many ways: any of its characters may be escaped, byte by byte and with
digits of either case, as long as those are that may not stand for themselves. All of them decode to
the bytes of the text.
-/

namespace SeriesQuery.Text.Percent

/-- A character is a hexadecimal digit of a value, in either case. -/
def Digit (value : Nat) (c : Char) : Prop :=
  c = hexDigit true value ∨ c = hexDigit false value

/-- A percent sign and two digits for each of some bytes. -/
inductive Escapes : List UInt8 → List Char → Prop where
  | nil : Escapes [] []
  | cons {byte : UInt8} {high low : Char} {bytes : List UInt8} {escapes : List Char} :
      Digit (byte.toNat / 16) high → Digit (byte.toNat % 16) low → Escapes bytes escapes →
      Escapes (byte :: bytes) ('%' :: high :: low :: escapes)

/-- A written form of a text, where the characters that are plain may stand for themselves and the
others are escaped. -/
inductive Writes (plain : Char → Prop) : List Char → List Char → Prop where
  | nil : Writes plain [] []
  | plain {c : Char} {text written : List Char} : plain c → Writes plain text written →
      Writes plain (c :: text) (c :: written)
  | escaped {c : Char} {text escapes written : List Char} : Escapes (Utf8.encode [c]) escapes →
      Writes plain text written → Writes plain (c :: text) (escapes ++ written)

theorem Digit.of_upper {value : Nat} (upper : Bool) : Digit value (hexDigit upper value) := by
  cases upper with
  | true => exact .inl rfl
  | false => exact .inr rfl

theorem escapes_encodeByte (bytes : List UInt8) : Escapes bytes (bytes.flatMap (encodeByte true)) := by
  induction bytes with
  | nil => exact .nil
  | cons byte bytes ih => exact .cons (.of_upper true) (.of_upper true) ih

/-! ## What is written -/

variable {plain good : Char → Prop} {text written : List Char}

theorem writes_plain (plains : ∀ c ∈ text, plain c) : Writes plain text text := by
  induction text with
  | nil => exact .nil
  | cons c text ih =>
      obtain ⟨first, others⟩ := List.forall_mem_cons.mp plains
      exact .plain first (ih others)

theorem Writes.append {more rest : List Char} (writes : Writes plain text written)
    (others : Writes plain more rest) : Writes plain (text ++ more) (written ++ rest) := by
  induction writes with
  | nil => exact others
  | plain isPlain _ ih => exact .plain isPlain ih
  | escaped escapes _ ih =>
      rw [List.append_assoc]
      exact .escaped escapes ih

theorem Escapes.forall (sign : good '%')
    (digits : ∀ value < 16, ∀ upper, good (hexDigit upper value)) {bytes : List UInt8}
    {escapes : List Char} (escaped : Escapes bytes escapes) : ∀ c ∈ escapes, good c := by
  have digit {value : Nat} {c : Char} (small : value < 16) (isDigit : Digit value c) : good c := by
    rcases isDigit with rfl | rfl
    · exact digits value small true
    · exact digits value small false
  induction escaped with
  | nil => exact List.forall_mem_nil _
  | @cons byte high low bytes escapes isHigh isLow _ ih =>
      have range := byte.toNat_lt
      rintro c (_ | ⟨_, _ | ⟨_, _ | ⟨_, member⟩⟩⟩)
      · exact sign
      · exact digit (by omega) isHigh
      · exact digit (by omega) isLow
      · exact ih c member

theorem Writes.forall (sign : good '%')
    (digits : ∀ value < 16, ∀ upper, good (hexDigit upper value))
    (plains : ∀ c, plain c → good c) (writes : Writes plain text written) :
    ∀ c ∈ written, good c := by
  induction writes with
  | nil => exact List.forall_mem_nil _
  | plain isPlain _ ih => exact List.forall_mem_cons.mpr ⟨plains _ isPlain, ih⟩
  | escaped escapes _ ih =>
      intro c member
      rcases List.mem_append.mp member with inEscapes | inRest
      · exact escapes.forall sign digits c inEscapes
      · exact ih c inRest

theorem Escapes.ne_nil {bytes : List UInt8} {escapes : List Char}
    (escaped : Escapes bytes escapes) (some : bytes ≠ []) : escapes ≠ [] := by
  cases escaped with
  | nil => exact absurd rfl some
  | cons _ _ _ => exact List.cons_ne_nil _ _

theorem Writes.ne_nil (writes : Writes plain text written) (some : text ≠ []) :
    written ≠ [] := by
  cases writes with
  | nil => exact absurd rfl some
  | plain _ _ => exact List.cons_ne_nil _ _
  | @escaped c _ _ _ escapes _ =>
      have someBytes := Utf8.encode_cons_ne_nil c []
      exact fun empty => escapes.ne_nil someBytes (List.append_eq_nil_iff.mp empty).1

/-! ## What it decodes to -/

theorem hexValue?_hexDigit :
    ∀ value < 16, ∀ upper, hexValue? (hexDigit upper value) = some value := by
  decide

theorem Digit.hexValue?_eq {value : Nat} {c : Char} (digit : Digit value c) (small : value < 16) :
    hexValue? c = some value := by
  rcases digit with rfl | rfl
  · exact hexValue?_hexDigit value small true
  · exact hexValue?_hexDigit value small false

theorem byte?_of_digits {byte : UInt8} {high low : Char} (isHigh : Digit (byte.toNat / 16) high)
    (isLow : Digit (byte.toNat % 16) low) : byte? high low = some byte := by
  have range := byte.toNat_lt
  have value : byte.toNat / 16 * 16 + byte.toNat % 16 = byte.toNat := by omega
  simp only [byte?, isHigh.hexValue?_eq (by omega), isLow.hexValue?_eq (by omega), value,
    UInt8.ofNat_toNat]

theorem decode_cons_of_ne {c : Char} (other : c ≠ '%') (rest : List Char) :
    decode (c :: rest) = Utf8.encode [c] ++ decode rest := by
  rw [decode]
  intro high low rest same
  exact absurd same other

/-- Every character stands for some bytes, by itself or as the start of an escape. -/
theorem decode_ne_nil (some : written ≠ []) : decode written ≠ [] := by
  fun_cases decode written with
  | case1 => exact absurd rfl some
  | case2 high low rest byte => simp
  | case3 high low rest => simp [Utf8.encode_cons_ne_nil]
  | case4 c rest => simp [Utf8.encode_cons_ne_nil]

theorem Escapes.decode_append {bytes : List UInt8} {escapes : List Char}
    (escaped : Escapes bytes escapes) (rest : List Char) :
    decode (escapes ++ rest) = bytes ++ decode rest := by
  induction escaped with
  | nil => rfl
  | cons isHigh isLow _ ih =>
      simp only [List.cons_append, decode, byte?_of_digits isHigh isLow, ih]

theorem Writes.decode_append (noSign : ¬ plain '%') (writes : Writes plain text written)
    (rest : List Char) : decode (written ++ rest) = Utf8.encode text ++ decode rest := by
  -- Any text may follow, since escapes are decoded without regard to where a character ends.
  induction writes with
  | nil => rfl
  | @plain c _ _ isPlain _ ih =>
      have other : c ≠ '%' := by
        rintro rfl
        exact noSign isPlain
      rw [List.cons_append, decode_cons_of_ne other, ih]
      simp [Utf8.encode]
  | escaped escapes _ ih =>
      rw [List.append_assoc, escapes.decode_append, ih]
      simp [Utf8.encode]

theorem Writes.decode_eq (noSign : ¬ plain '%') (writes : Writes plain text written) :
    decode written = Utf8.encode text := by
  have decoded := writes.decode_append noSign []
  rwa [List.append_nil, decode, List.append_nil] at decoded

end SeriesQuery.Text.Percent
