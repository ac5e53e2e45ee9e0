import Mathlib.Data.List.Induction
import SeriesQuery.Text.Numeral

set_option autoImplicit false

/-!
# Which texts are numerals

A number is written by one or more digits of ASCII, most significant first, with or without leading
zeros. A natural number may have a plus sign before them, an integer a minus sign as well. The
readers of numerals accept these texts and no others.
-/

namespace SeriesQuery.Text.Numeral

/-- Digits of ASCII, at least one, write a number. -/
structure Writes (digits : List Char) (value : Nat) : Prop where
  nonempty : digits ≠ []
  allDigits : ∀ c ∈ digits, c.isDigit = true
  value : Nat.ofDigitChars 10 digits 0 = value

inductive NaturalLiteral : List Char → Nat → Prop where
  | unsigned {digits : List Char} {value : Nat} : Writes digits value →
      NaturalLiteral digits value
  | plus {digits : List Char} {value : Nat} : Writes digits value →
      NaturalLiteral ('+' :: digits) value

inductive IntegerLiteral : List Char → Int → Prop where
  | unsigned {digits : List Char} {value : Nat} : Writes digits value →
      IntegerLiteral digits value
  | plus {digits : List Char} {value : Nat} : Writes digits value →
      IntegerLiteral ('+' :: digits) value
  | minus {digits : List Char} {value : Nat} : Writes digits value →
      IntegerLiteral ('-' :: digits) (-value)

/-! ## Digits -/

theorem digitValue?_eq_some_iff {c : Char} {value : Nat} :
    digitValue? c = some value ↔ c.isDigit = true ∧ c.toNat - '0'.toNat = value := by
  have same : c.isDigit = true ↔ '0' ≤ c ∧ c ≤ '9' := by
    simp only [Char.isDigit, Bool.and_eq_true, decide_eq_true_eq]
    exact Iff.rfl
  rw [digitValue?, same]
  split
  · next digit => simp [digit]
  · next other => simp [other]

theorem digitsFrom?_eq_some_iff {digits : List Char} {sofar value : Nat} :
    digitsFrom? sofar digits = some value ↔
      (∀ c ∈ digits, c.isDigit = true) ∧ Nat.ofDigitChars 10 digits sofar = value := by
  induction digits generalizing sofar with
  | nil => simp [digitsFrom?]
  | cons c rest ih =>
      rw [digitsFrom?]
      split
      · next digit found =>
          obtain ⟨isDigit, rfl⟩ := digitValue?_eq_some_iff.mp found
          rw [ih, Nat.ofDigitChars_cons, Nat.mul_comm]
          simp [isDigit]
      · next missing =>
          have notDigit : c.isDigit ≠ true := fun isDigit => by
            rw [digitValue?_eq_some_iff.mpr ⟨isDigit, rfl⟩] at missing
            cases missing
          simp [notDigit]

theorem digits?_eq_some_iff {text : List Char} {value : Nat} :
    digits? text = some value ↔ Writes text value := by
  rw [digits?]
  split
  · next empty =>
      constructor
      · intro given
        cases given
      · intro written
        exact absurd empty written.nonempty
  · next nonempty =>
      rw [digitsFrom?_eq_some_iff]
      constructor
      · intro given
        exact ⟨nonempty, given.1, given.2⟩
      · intro written
        exact ⟨written.allDigits, written.value⟩

theorem Writes.head_isDigit {c : Char} {rest : List Char} {value : Nat}
    (written : Writes (c :: rest) value) : c.isDigit = true :=
  written.allDigits c List.mem_cons_self

/-! ## Digits of a number -/

theorem isDigit_digit : ∀ value < 10, (digit value).isDigit = true := by
  decide

theorem ofDigitChars_digit {value : Nat} (small : value < 10) (sofar : Nat) :
    Nat.ofDigitChars 10 [digit value] sofar = 10 * sofar + value := by
  have distance : ∀ value < 10, (digit value).toNat - '0'.toNat = value := by decide
  rw [Nat.ofDigitChars_cons, Nat.ofDigitChars_nil, distance value small]

theorem writes_ofNat (value : Nat) : Writes (ofNat value) value := by
  fun_induction ofNat value with
  | case1 value small =>
      exact ⟨List.cons_ne_nil _ _, by simpa using isDigit_digit value small,
        by rw [ofDigitChars_digit small, Nat.mul_zero, Nat.zero_add]⟩
  | case2 value large ih =>
      have small : value % 10 < 10 := Nat.mod_lt _ (by decide)
      refine ⟨List.append_ne_nil_of_left_ne_nil ih.nonempty _, ?_, ?_⟩
      · exact List.forall_mem_append.mpr ⟨ih.allDigits, by simpa using isDigit_digit _ small⟩
      · rw [Nat.ofDigitChars_append, ih.value, ofDigitChars_digit small]
        omega

theorem digit_of_isDigit {c : Char} (isDigit : c.isDigit = true) :
    c.toNat - '0'.toNat < 10 ∧ digit (c.toNat - '0'.toNat) = c := by
  simp only [Char.isDigit, Bool.and_eq_true, decide_eq_true_eq] at isDigit
  have low : '0'.toNat ≤ c.toNat := isDigit.1
  have high : c.toNat ≤ '9'.toNat := isDigit.2
  have distance : '9'.toNat = '0'.toNat + 9 := rfl
  refine ⟨by omega, ?_⟩
  rw [digit, Nat.add_sub_cancel' low, Char.ofNat_toNat]

/-- Digits that start with a zero only if there is no other are those that the number is written
with. -/
theorem Writes.eq_ofNat {digits : List Char} {value : Nat} (written : Writes digits value)
    (short : digits.head? = some '0' → digits = ['0']) : digits = ofNat value := by
  induction digits using List.reverseRecOn generalizing value with
  | nil => exact absurd rfl written.nonempty
  | append_singleton front last ih =>
      obtain ⟨frontDigits, lastDigit⟩ := List.forall_mem_append.mp written.allDigits
      obtain ⟨small, isLast⟩ := digit_of_isDigit (lastDigit last (List.mem_singleton_self last))
      have isValue := written.value
      rw [Nat.ofDigitChars_append, ← isLast, ofDigitChars_digit small] at isValue
      by_cases empty : front = []
      · subst empty
        rw [Nat.ofDigitChars_nil, Nat.mul_zero, Nat.zero_add] at isValue
        rw [ofNat, if_pos (by omega), ← isValue, isLast, List.nil_append]
      · have noZero : front.head? ≠ some '0' := by
          intro zero
          have more := short (by rw [List.head?_append, zero, Option.some_or])
          have length := congrArg List.length more
          rw [List.length_append, List.length_singleton, List.length_singleton] at length
          exact empty (List.length_eq_zero_iff.mp (by omega))
        have isFront := ih ⟨empty, frontDigits, rfl⟩ fun zero => absurd zero noZero
        have large : 1 ≤ Nat.ofDigitChars 10 front 0 := by
          refine Nat.one_le_iff_ne_zero.mpr fun zero => noZero ?_
          rw [isFront, zero, ofNat, if_pos (by decide)]
          rfl
        rw [ofNat, if_neg (by omega), ← isValue, Nat.mul_add_div (by decide), Nat.mul_add_mod,
          Nat.div_eq_of_lt small, Nat.mod_eq_of_lt small, Nat.add_zero, ← isFront, isLast]

/-- The digits of a number start with a zero only if there is no other. -/
theorem ofNat_eq_of_head {value : Nat} (zero : (ofNat value).head? = some '0') :
    ofNat value = ['0'] := by
  fun_induction ofNat value with
  | case1 value small => simpa using zero
  | case2 value large ih =>
      obtain ⟨first, rest, front⟩ :=
        List.exists_cons_of_ne_nil (writes_ofNat (value / 10)).nonempty
      have isZero := (writes_ofNat (value / 10)).value
      rw [ih (by simpa [front] using zero), show Nat.ofDigitChars 10 ['0'] 0 = 0 from rfl] at isZero
      omega

theorem length_ofNat_of_le {value : Nat} (large : 10 ≤ value) :
    (ofNat value).length = (ofNat (value / 10)).length + 1 := by
  rw [ofNat, if_neg (by omega), List.length_append, List.length_singleton]

theorem length_ofNat_le_three {value : Nat} (small : value < 1000) :
    (ofNat value).length ≤ 3 := by
  have one : ∀ value < 10, (ofNat value).length = 1 := fun value small => by
    rw [ofNat, if_pos small, List.length_singleton]
  by_cases large : 10 ≤ value
  · have first := length_ofNat_of_le large
    by_cases larger : 10 ≤ value / 10
    · have second := length_ofNat_of_le larger
      have third := one (value / 10 / 10) (by omega)
      omega
    · have second := one (value / 10) (by omega)
      omega
  · have first := one value (by omega)
    omega

/-! ## Signs -/

theorem naturalLiteral_plus_iff {rest : List Char} {value : Nat} :
    NaturalLiteral ('+' :: rest) value ↔ Writes rest value := by
  constructor
  · intro literal
    cases literal with
    -- A sign is no digit, so a text with a sign is no numeral without one.
    | unsigned written => exact absurd written.head_isDigit (by decide)
    | plus written => exact written
  · exact .plus

theorem naturalLiteral_unsigned_iff {text : List Char} {value : Nat}
    (unsigned : ∀ rest, text ≠ '+' :: rest) : NaturalLiteral text value ↔ Writes text value := by
  constructor
  · intro literal
    cases literal with
    | unsigned written => exact written
    | plus written => exact absurd rfl (unsigned _)
  · exact .unsigned

theorem natural?_eq_some_iff {bound : Nat} {text : List Char} {value : Nat} :
    natural? bound text = some value ↔ NaturalLiteral text value ∧ value < bound := by
  unfold natural?
  split
  · rw [naturalLiteral_plus_iff]
    simp [Option.filter_eq_some_iff, digits?_eq_some_iff]
  · next unsigned =>
      rw [naturalLiteral_unsigned_iff unsigned]
      simp [Option.filter_eq_some_iff, digits?_eq_some_iff]

theorem map_sign_eq_some_iff {text : List Char} {sign : Int → Int} {value : Int} :
    ((do return (← digits? text : Int)) : Option Int).map sign = some value ↔
      ∃ size : Nat, Writes text size ∧ sign size = value := by
  simp only [← digits?_eq_some_iff]
  cases digits? text <;> simp

theorem integer?_eq_some_iff {text : List Char} {value : Int} :
    integer? text = some value ↔ IntegerLiteral text value := by
  unfold integer?
  split
  · next rest =>
      refine map_sign_eq_some_iff.trans ⟨?_, ?_⟩
      · rintro ⟨size, written, rfl⟩
        exact .minus written
      · intro literal
        cases literal with
        | unsigned written => exact absurd written.head_isDigit (by decide)
        | minus written => exact ⟨_, written, rfl⟩
  · next rest =>
      refine map_sign_eq_some_iff.trans ⟨?_, ?_⟩
      · rintro ⟨size, written, rfl⟩
        exact .plus written
      · intro literal
        cases literal with
        | unsigned written => exact absurd written.head_isDigit (by decide)
        | plus written => exact ⟨_, written, rfl⟩
  · next notMinus notPlus =>
      refine map_sign_eq_some_iff.trans ⟨?_, ?_⟩
      · rintro ⟨size, written, rfl⟩
        exact .unsigned written
      · intro literal
        cases literal with
        | unsigned written => exact ⟨_, written, rfl⟩
        | plus written => exact absurd rfl (notPlus _)
        | minus written => exact absurd rfl (notMinus _)

theorem inInt64_toInt (value : Int64) : inInt64 value.toInt = true := by
  have low := value.le_toInt
  have high := value.toInt_lt
  simp only [inInt64, Bool.and_eq_true, decide_eq_true_eq]
  omega

theorem toInt_ofInt_of_inInt64 {value : Int} (inside : inInt64 value = true) :
    (Int64.ofInt value).toInt = value := by
  simp only [inInt64, Bool.and_eq_true, decide_eq_true_eq] at inside
  apply Int64.toInt_ofInt_of_le <;> omega

/-- A text is read as a signed number of 64 bits if it is a numeral of an integer in their range. -/
theorem int64?_eq_some_iff {text : List Char} {value : Int64} :
    int64? text = some value ↔ IntegerLiteral text value.toInt := by
  simp only [int64?, Option.map_eq_some_iff, Option.filter_eq_some_iff, integer?_eq_some_iff]
  constructor
  · rintro ⟨whole, ⟨literal, inside⟩, rfl⟩
    rw [toInt_ofInt_of_inInt64 inside]
    exact literal
  · intro literal
    exact ⟨value.toInt, ⟨literal, inInt64_toInt value⟩, Int64.ofInt_toInt value⟩

/-! ## Words of a fixed width -/

/-- The words of a type stand for the natural numbers below a bound. -/
structure Width {Word : Type} (bound : Nat) (ofNat : Nat → Word) (toNat : Word → Nat) : Prop where
  lt : ∀ word, toNat word < bound
  toNat_ofNat : ∀ number < bound, toNat (ofNat number) = number
  ofNat_toNat : ∀ word, ofNat (toNat word) = word

theorem width_uInt16 : Width UInt16.size UInt16.ofNat UInt16.toNat where
  lt := UInt16.toNat_lt
  toNat_ofNat _ small := UInt16.toNat_ofNat_of_lt' small
  ofNat_toNat _ := UInt16.ofNat_toNat

theorem width_uInt32 : Width UInt32.size UInt32.ofNat UInt32.toNat where
  lt := UInt32.toNat_lt
  toNat_ofNat _ small := UInt32.toNat_ofNat_of_lt' small
  ofNat_toNat _ := UInt32.ofNat_toNat

/-- A word is read where the number that it stands for is, by a reader that keeps to the bound. -/
theorem Width.map_eq_some_iff {Word : Type} {bound : Nat} {ofNat : Nat → Word} {toNat : Word → Nat}
    (width : Width bound ofNat toNat) {read : Option Nat}
    (bounded : ∀ number, read = some number → number < bound) {word : Word} :
    read.map ofNat = some word ↔ read = some (toNat word) := by
  rw [Option.map_eq_some_iff]
  constructor
  · intro given
    obtain ⟨number, found, rfl⟩ := given
    rw [width.toNat_ofNat number (bounded number found), found]
  · intro found
    exact ⟨toNat word, found, width.ofNat_toNat word⟩

end SeriesQuery.Text.Numeral
