import SeriesQuery.Json.Printer
import SeriesQuery.Proofs.Json.Spelling
import SeriesQuery.Proofs.Json.Tokens

set_option autoImplicit false

/-!
# Reading what is printed

The compact text of a value is read as that value, if its strings have texts and its numbers are
integers. A number ends where its text does, since a mark or the end of the text follows it.
-/

namespace SeriesQuery.Json

open SeriesQuery.Text

/-- The values that have a compact text: all strings in them are texts and all numbers integers. -/
inductive Printable : Json → Prop where
  | null : Printable .null
  | bool (value : Bool) : Printable (.bool value)
  | integer (negative : Bool) (size : Nat) : Printable (.number ⟨negative, ⟨size, 0⟩, true⟩)
  | text (text : String) : Printable (.string (some text))
  | array {items : List Json} : (∀ item ∈ items, Printable item) → Printable (.array items)
  | object {members : List (Option String × Json)} :
      (∀ member ∈ members, member.1.isSome = true) → (∀ member ∈ members, Printable member.2) →
      Printable (.object members)

/-! ## Digits -/

theorem digitValue?_digit : ∀ value < 10, Numeral.digitValue? (Numeral.digit value) = some value := by
  decide

theorem ofDigits_append_singleton (digits : List Nat) (last : Nat) :
    Decimal.ofDigits (digits ++ [last]) = Decimal.ofDigits digits * 10 + last := by
  simp [Decimal.ofDigits]

/-- The digits of a number start with a zero only if there is no other. -/
theorem exists_digits (value : Nat) : ∃ first rest, Numeral.ofNat value =
      (first :: rest).map Numeral.digit ∧ (∀ digit ∈ first :: rest, digit < 10) ∧
      Decimal.ofDigits (first :: rest) = value ∧ (first = 0 → rest = [] ∧ value = 0) := by
  fun_induction Numeral.ofNat value with
  | case1 value small =>
      exact ⟨value, [], rfl, by simpa using small, by simp [Decimal.ofDigits], fun zero => ⟨rfl, zero⟩⟩
  | case2 value large ih =>
      obtain ⟨first, rest, written, small, isValue, zero⟩ := ih
      refine ⟨first, rest ++ [value % 10], ?_, ?_, ?_, ?_⟩
      · rw [written, ← List.cons_append, List.map_append, List.map_singleton]
      · intro digit member
        rw [← List.cons_append, List.mem_append, List.mem_singleton] at member
        rcases member with member | rfl
        · exact small digit member
        · exact Nat.mod_lt _ (by decide)
      · rw [← List.cons_append, ofDigits_append_singleton, isValue]
        omega
      · intro isZero
        have := (zero isZero).2
        omega

/-- What follows does not go on with a number. -/
def EndsNumber (more : Utf8.Parts) : Prop :=
  ∀ c rest, more = some c :: rest → Numeral.digitValue? c = none ∧ c ≠ '.' ∧ c ≠ 'e' ∧ c ≠ 'E'

theorem endsNumber_nil : EndsNumber [] := by
  intro c rest same
  cases same

theorem endsNumber_cons {c : Char} (isEnd : c ∈ [',', ']', '\x7d']) (rest : Utf8.Parts) :
    EndsNumber (some c :: rest) := by
  have ends : ∀ c ∈ [',', ']', '\x7d'],
      Numeral.digitValue? c = none ∧ c ≠ '.' ∧ c ≠ 'e' ∧ c ≠ 'E' := by simp [Numeral.digitValue?]
  intro first others same
  cases same
  exact ends c isEnd

theorem spanDigits_of_endsNumber {more : Utf8.Parts} (ends : EndsNumber more) :
    spanDigits more = ([], more) := by
  cases more with
  | nil => rfl
  | cons part rest =>
      cases part with
      | none => rfl
      | some c => rw [spanDigits, Option.bind_some, (ends c rest rfl).1]

theorem spanDigits_digits {digits : List Nat} (small : ∀ digit ∈ digits, digit < 10)
    {more : Utf8.Parts} (ends : EndsNumber more) :
    spanDigits ((digits.map Numeral.digit).map some ++ more) = (digits, more) := by
  induction digits with
  | nil => exact spanDigits_of_endsNumber ends
  | cons digit rest ih =>
      obtain ⟨first, others⟩ := List.forall_mem_cons.mp small
      rw [List.map_cons, List.map_cons, List.cons_append, spanDigits, Option.bind_some,
        digitValue?_digit digit first, ih others]

theorem fraction?_of_endsNumber {more : Utf8.Parts} (ends : EndsNumber more) :
    fraction? more = some (none, more) := by
  unfold fraction?
  split
  · next rest => exact absurd rfl (ends '.' rest rfl).2.1
  · rfl

theorem exponent?_of_endsNumber {more : Utf8.Parts} (ends : EndsNumber more) :
    exponent? more = some (none, more) := by
  unfold exponent?
  split
  · next c rest =>
      obtain ⟨_, _, noLower, noUpper⟩ := ends c rest rfl
      rw [if_neg (not_or.mpr ⟨noLower, noUpper⟩)]
  · rfl

theorem integral?_ofNat (value : Nat) {more : Utf8.Parts} (ends : EndsNumber more) :
    ∃ digits, integral? ((Numeral.ofNat value).map some ++ more) = some (digits, more) ∧
      Decimal.ofDigits digits = value := by
  obtain ⟨first, rest, written, small, isValue, zero⟩ := exists_digits value
  refine ⟨first :: rest, ?_, isValue⟩
  have read := spanDigits_digits small ends
  rw [written]
  unfold integral?
  split
  · next left same =>
      have isFirst : Numeral.digit first = '0' := by simpa using congrArg List.head? same
      have isZero : first = 0 := by
        have value := digitValue?_digit first (small first List.mem_cons_self)
        rw [isFirst] at value
        exact (Option.some.inj value).symm
      obtain ⟨rfl, _⟩ := zero isZero
      cases isZero
      cases same
      rfl
  · rw [read]

theorem numberToken_ofNat (negative : Bool) (value : Nat) {more : Utf8.Parts}
    (ends : EndsNumber more) : numberToken negative ((Numeral.ofNat value).map some ++ more) =
      some (.number ⟨negative, ⟨value, 0⟩, true⟩, more) := by
  obtain ⟨digits, read, isValue⟩ := integral?_ofNat value ends
  simp only [numberToken, read, fraction?_of_endsNumber ends, exponent?_of_endsNumber ends,
    Option.bind_eq_bind, Option.bind_some, Option.pure_def]
  simp [Decimal.ofParts, isValue]

theorem token_digit {value : Nat} (small : value < 10) (rest : Utf8.Parts) :
    token (Numeral.digit value) rest = numberToken false (some (Numeral.digit value) :: rest) := by
  have isDigit := digitValue?_digit value small
  unfold token
  split
  iterate 11
    · next same =>
        rw [same] at isDigit
        cases isDigit
  · rfl

theorem stands_integer (negative : Bool) (size : Nat) {more : Utf8.Parts} (ends : EndsNumber more) :
    Stands more (.number ⟨negative, ⟨size, 0⟩, true⟩)
      ((printNumber ⟨negative, ⟨size, 0⟩, true⟩).map some) := by
  have read := numberToken_ofNat negative size ends
  cases negative with
  | true => exact .mk (by decide) read
  | false =>
      obtain ⟨first, rest, written, small, _, _⟩ := exists_digits size
      have digit := small first List.mem_cons_self
      have visible : ∀ value < 10, isBlank (Numeral.digit value) = false := by decide
      rw [printNumber, if_neg Bool.false_ne_true, List.nil_append, written, List.map_cons, List.map_cons]
      refine .mk (visible first digit) ?_
      rw [token_digit digit]
      rwa [written] at read

/-! ## Values -/

theorem Spelled.mark {rest : List Token} {more : Utf8.Parts} (spelled : Spelled rest more) (c : Char)
    (mark : Token) (isMark : (c, mark) ∈ marks) :
    Spelled (mark :: rest) (some c :: more) :=
  (spelled_mark_iff isMark).mpr ⟨[], more, blanks_nil, spelled, rfl⟩

theorem Spelled.text (text : String) {rest : List Token} {more : Utf8.Parts}
    (spelled : Spelled rest more) :
    Spelled (.string (some text) :: rest) ((printText text).map some ++ more) :=
  spelled_text_iff.mpr ⟨[], printText text, more, blanks_nil, stringForm_printText text, spelled, rfl⟩

theorem Spelled.of_stands {first : Token} {taken more : Utf8.Parts} {rest : List Token}
    (stands : Stands more first taken) (spelled : Spelled rest more) :
    Spelled (first :: rest) (taken ++ more) :=
  .cons blanks_nil stands spelled

theorem stands_null (more : Utf8.Parts) : Stands more .null ("null".toList.map some) :=
  .mk (by decide) (by
    have found : after? (word "ull") (word "ull" ++ more) = some more := after?_eq_some_iff.mpr rfl
    exact congrArg (Option.map _) found)

theorem stands_bool (value : Bool) (more : Utf8.Parts) :
    Stands more (.bool value) ((if value then "true".toList else "false".toList).map some) := by
  cases value with
  | true =>
      have found : after? (word "rue") (word "rue" ++ more) = some more := after?_eq_some_iff.mpr rfl
      exact .mk (by decide) (congrArg (Option.map _) found)
  | false =>
      have found : after? (word "alse") (word "alse" ++ more) = some more := after?_eq_some_iff.mpr rfl
      exact .mk (by decide) (congrArg (Option.map _) found)

/-- After an item comes a comma or the end. -/
theorem endsNumber_pieces (pieces : List (List Char)) {last : Char} (isLast : last ∈ [']', '\x7d'])
    (more : Utf8.Parts) :
    EndsNumber ((pieces.flatMap (',' :: ·)).map some ++ some last :: more) := by
  cases pieces with
  | nil => exact endsNumber_cons (List.mem_cons_of_mem _ isLast) more
  | cons piece rest => exact endsNumber_cons (by decide) _

theorem print_array_cons (item : Json) (items : List Json) :
    print (.array (item :: items)) =
      '[' :: (print item ++ ((printItems items).flatMap (',' :: ·) ++ [']'])) := by
  rw [print, printItems, commaSeparated, intercalate_cons, List.cons_append, List.append_assoc]

theorem print_object_cons (key : String) (value : Json) (members : List (Option String × Json)) :
    print (.object ((some key, value) :: members)) = '\x7b' :: (printText key ++
      ':' :: (print value ++ ((printMembers members).flatMap (',' :: ·) ++ ['\x7d']))) := by
  rw [print, printMembers, commaSeparated, intercalate_cons, Option.getD_some]
  simp only [List.cons_append, List.append_assoc]

mutual

/-- The compact text of a value spells its tokens, whatever tokens follow. -/
theorem spelled_print {rest : List Token} {more : Utf8.Parts} (spelled : Spelled rest more)
    (ends : EndsNumber more) : (json : Json) → Printable json →
    Spelled (json.toTokens ++ rest) ((print json).map some ++ more)
  | .null, _ => .of_stands (stands_null more) spelled
  | .bool value, _ => .of_stands (stands_bool value more) spelled
  | .number _, .integer negative size => .of_stands (stands_integer negative size ends) spelled
  | .string _, .text text => .text text spelled
  | .array [], _ => (spelled.mark ']' .closeArray (by decide)).mark '[' .openArray (by decide)
  | .object [], _ => (spelled.mark '\x7d' .closeObject (by decide)).mark '\x7b' .openObject (by decide)
  | .array (item :: items), .array all => by
      obtain ⟨first, others⟩ := List.forall_mem_cons.mp all
      have tail := spelled_printItems spelled items others
      have whole := spelled_print tail (endsNumber_pieces _ (by decide) more) item first
      have opened := whole.mark '[' .openArray (by decide)
      rw [toTokens_array_cons, print_array_cons]
      simpa using opened
  | .object ((some key, value) :: members), .object keys all => by
      obtain ⟨first, others⟩ := List.forall_mem_cons.mp all
      have tail := spelled_printMembers spelled members (List.forall_mem_cons.mp keys).2 others
      have whole := spelled_print tail (endsNumber_pieces _ (by decide) more) value first
      have named := Spelled.text key (whole.mark ':' .colon (by decide))
      have opened := named.mark '\x7b' .openObject (by decide)
      rw [toTokens_object_cons, print_object_cons]
      simpa using opened
  | .object ((none, _) :: _), .object keys _ => by
      cases (List.forall_mem_cons.mp keys).1

/-- The items of an array after the first one, each after its comma, and the end of the array. -/
theorem spelled_printItems {rest : List Token} {more : Utf8.Parts} (spelled : Spelled rest more) :
    (items : List Json) → (∀ item ∈ items, Printable item) →
    Spelled ((itemTokens items).flatMap (.comma :: ·) ++ .closeArray :: rest)
      (((printItems items).flatMap (',' :: ·)).map some ++ some ']' :: more)
  | [], _ => spelled.mark ']' .closeArray (by decide)
  | item :: items, all => by
      obtain ⟨first, others⟩ := List.forall_mem_cons.mp all
      have tail := spelled_printItems spelled items others
      have whole := spelled_print tail (endsNumber_pieces _ (by decide) more) item first
      have next := whole.mark ',' .comma (by decide)
      rw [itemTokens, printItems]
      simpa using next

theorem spelled_printMembers {rest : List Token} {more : Utf8.Parts} (spelled : Spelled rest more) :
    (members : List (Option String × Json)) → (∀ member ∈ members, member.1.isSome = true) →
    (∀ member ∈ members, Printable member.2) →
    Spelled ((memberTokens members).flatMap (.comma :: ·) ++ .closeObject :: rest)
      (((printMembers members).flatMap (',' :: ·)).map some ++ some '\x7d' :: more)
  | [], _, _ => spelled.mark '\x7d' .closeObject (by decide)
  | (some key, value) :: members, keys, all => by
      obtain ⟨first, others⟩ := List.forall_mem_cons.mp all
      have tail := spelled_printMembers spelled members (List.forall_mem_cons.mp keys).2 others
      have whole := spelled_print tail (endsNumber_pieces _ (by decide) more) value first
      have named := Spelled.text key (whole.mark ':' .colon (by decide))
      have next := named.mark ',' .comma (by decide)
      rw [memberTokens, printMembers]
      simpa using next
  | (none, _) :: _, keys, _ => by
      cases (List.forall_mem_cons.mp keys).1

end

/-- The compact text of a value spells the value's tokens. -/
theorem Printable.spelled {json : Json} (printable : Printable json) :
    Spelled json.toTokens ((print json).map some) := by
  have spelled := spelled_print (.nil blanks_nil) endsNumber_nil json printable
  rwa [List.append_nil, List.map_nil, List.append_nil] at spelled

theorem read?_of_spelled {json : Json} {text : List Char}
    (spelled : Spelled json.toTokens (text.map some)) : read? text = some json := by
  unfold read?
  rw [tokens_eq_some_iff.mpr spelled, Option.bind_some]
  exact ofTokens?_eq_some_iff.mpr rfl

/-- The compact text of a value is read as that value. -/
theorem readBytes?_print {json : Json} (printable : Printable json) :
    readBytes? (Utf8.encode (print json)) = some json := by
  have read := read?_of_spelled printable.spelled
  rwa [read?, ← Utf8.parts_encode] at read

end SeriesQuery.Json
