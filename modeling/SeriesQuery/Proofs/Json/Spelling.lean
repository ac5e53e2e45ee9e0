import SeriesQuery.Proofs.Json.Strings

set_option autoImplicit false

/-!
# How tokens are spelled

Each token takes up some of the text, and blanks may stand before it and at the end. A text has a list
of tokens if and only if it spells it in this way.
-/

namespace SeriesQuery.Json

open SeriesQuery.Text

def Blanks (text : List Char) : Prop :=
  ∀ c ∈ text, isBlank c = true

/-- Parts stand for a token before `more`. What follows matters to numbers only. -/
inductive Stands (more : Utf8.Parts) (read : Token) : Utf8.Parts → Prop where
  | mk {first : Char} {rest : Utf8.Parts} : isBlank first = false →
      token first (rest ++ more) = some (read, more) → Stands more read (some first :: rest)

inductive Spelled : List Token → Utf8.Parts → Prop where
  | nil {blanks : List Char} : Blanks blanks → Spelled [] (blanks.map some)
  | cons {blanks : List Char} {first : Token} {rest : List Token} {taken more : Utf8.Parts} :
      Blanks blanks → Stands more first taken → Spelled rest more →
      Spelled (first :: rest) (blanks.map some ++ taken ++ more)

theorem blanks_nil : Blanks [] :=
  List.forall_mem_nil _

/-! ## Tokens take up a start of the text -/

theorem spanDigits_suffix (parts : Utf8.Parts) : (spanDigits parts).2 <:+ parts := by
  induction parts with
  | nil => exact List.suffix_rfl
  | cons part rest ih =>
      rw [spanDigits]
      split
      · exact ih.trans (List.suffix_cons part rest)
      · exact List.suffix_rfl

theorem spanDigits_suffix_tail {parts : Utf8.Parts} (some : (spanDigits parts).1 ≠ []) :
    (spanDigits parts).2 <:+ parts.tail := by
  cases parts with
  | nil => exact absurd rfl some
  | cons part rest =>
      rw [spanDigits] at some ⊢
      split at some
      · exact spanDigits_suffix rest
      · exact absurd rfl some

/-- A number has at least one digit. -/
theorem integral?_suffix {parts after : Utf8.Parts} {digits : List Nat}
    (read : integral? parts = some (digits, after)) : after <:+ parts.tail := by
  unfold integral? at read
  split at read
  · cases read
    exact List.suffix_rfl
  · split at read
    · cases read
    · next nonempty =>
        have found := Option.some.inj read
        have suffix := spanDigits_suffix_tail fun empty => nonempty _ (Prod.ext empty rfl)
        rwa [found] at suffix

theorem fraction?_suffix {parts after : Utf8.Parts} {digits : Option (List Nat)}
    (read : fraction? parts = some (digits, after)) : after <:+ parts := by
  unfold fraction? at read
  split at read
  · next rest =>
      split at read
      · cases read
      · next found _ same =>
          cases read
          have suffix := spanDigits_suffix rest
          rw [same] at suffix
          exact suffix.trans (List.suffix_cons _ _)
  · cases read
    exact List.suffix_rfl

theorem exponent?_suffix {parts after : Utf8.Parts} {exponent : Option Int}
    (read : exponent? parts = some (exponent, after)) : after <:+ parts := by
  unfold exponent? at read
  split at read
  · next c rest =>
      split at read
      · split at read
        next negative left isSigned =>
          have within : left <:+ rest := by
            split at isSigned <;> cases isSigned
            · exact List.suffix_cons _ _
            · exact List.suffix_cons _ _
            · exact List.suffix_rfl
          split at read
          · cases read
          · next same =>
              cases read
              have suffix := spanDigits_suffix left
              rw [same] at suffix
              exact suffix.trans (within.trans (List.suffix_cons _ _))
      · cases read
        exact List.suffix_rfl
  · cases read
    exact List.suffix_rfl

theorem numberToken_suffix {negative : Bool} {parts after : Utf8.Parts} {read : Token}
    (isToken : numberToken negative parts = some (read, after)) : after <:+ parts.tail := by
  obtain ⟨⟨integral, rest⟩, isIntegral, isToken⟩ := Option.bind_eq_some_iff.mp isToken
  obtain ⟨⟨fraction, left⟩, isFraction, isToken⟩ := Option.bind_eq_some_iff.mp isToken
  obtain ⟨⟨exponent, last⟩, isExponent, isToken⟩ := Option.bind_eq_some_iff.mp isToken
  cases isToken
  exact (exponent?_suffix isExponent).trans
    ((fraction?_suffix isFraction).trans (integral?_suffix isIntegral))

theorem exists_number_of_numberToken {negative : Bool} {parts after : Utf8.Parts} {read : Token}
    (isToken : numberToken negative parts = some (read, after)) : ∃ number, read = .number number := by
  obtain ⟨_, _, isToken⟩ := Option.bind_eq_some_iff.mp isToken
  obtain ⟨_, _, isToken⟩ := Option.bind_eq_some_iff.mp isToken
  obtain ⟨_, _, isToken⟩ := Option.bind_eq_some_iff.mp isToken
  cases isToken
  exact ⟨_, rfl⟩

theorem token_suffix {first : Char} {rest after : Utf8.Parts} {read : Token}
    (isToken : token first rest = some (read, after)) : after <:+ rest := by
  have literal {start : String} {value : Token}
      (found : (after? (word start) rest).map (fun after => (value, after)) = some (read, after)) :
      after <:+ rest := by
    obtain ⟨left, isLeft, same⟩ := Option.map_eq_some_iff.mp found
    cases same
    rw [after?_eq_some_iff.mp isLeft]
    exact List.suffix_append _ _
  unfold token at isToken
  split at isToken
  -- The six marks.
  iterate 6
    · cases isToken
      exact List.suffix_rfl
  · obtain ⟨⟨pieces, last⟩, found, same⟩ := Option.map_eq_some_iff.mp isToken
    cases same
    exact stringPieces_suffix found
  · exact (numberToken_suffix isToken).trans (List.tail_suffix rest)
  · exact literal isToken
  · exact literal isToken
  · exact literal isToken
  · exact numberToken_suffix isToken

/-! ## Texts -/

theorem exists_blanks (parts : Utf8.Parts) : ∃ blanks, Blanks blanks ∧
    parts = blanks.map some ++ parts.dropWhile (·.any isBlank) := by
  induction parts with
  | nil => exact ⟨[], blanks_nil, rfl⟩
  | cons part rest ih =>
      obtain ⟨blanks, isBlank, same⟩ := ih
      cases part with
      | none => exact ⟨[], blanks_nil, rfl⟩
      | some c =>
          by_cases blank : Json.isBlank c = true
          · refine ⟨c :: blanks, List.forall_mem_cons.mpr ⟨blank, isBlank⟩, ?_⟩
            rw [List.dropWhile_cons_of_pos (by simpa using blank), List.map_cons, List.cons_append,
              ← same]
          · refine ⟨[], blanks_nil, ?_⟩
            rw [List.dropWhile_cons_of_neg (by simpa using blank), List.map_nil, List.nil_append]

theorem dropWhile_blanks {blanks : List Char} (isBlank : Blanks blanks) (rest : Utf8.Parts) :
    (blanks.map some ++ rest).dropWhile (·.any Json.isBlank) =
      rest.dropWhile (·.any Json.isBlank) := by
  induction blanks with
  | nil => rfl
  | cons c blanks ih =>
      obtain ⟨first, others⟩ := List.forall_mem_cons.mp isBlank
      rw [List.map_cons, List.cons_append, List.dropWhile_cons_of_pos (by simpa using first),
        ih others]

/-- The first of the tokens that were read, if there is one, and what was read after it. -/
theorem exists_of_tokensWithin {limit : Nat} {parts : Utf8.Parts} {read : List Token}
    (isRead : tokensWithin limit parts = some read) : ∃ blanks, Blanks blanks ∧
      (read = [] ∧ parts = blanks.map some ∨
        ∃ first rest taken more fewer, read = first :: rest ∧ parts = blanks.map some ++ taken ++ more ∧
          Stands more first taken ∧ tokensWithin fewer more = some rest) := by
  obtain ⟨blanks, isBlank, same⟩ := exists_blanks parts
  refine ⟨blanks, isBlank, ?_⟩
  unfold tokensWithin at isRead
  split at isRead
  · next ended =>
      cases isRead
      rw [ended, List.append_nil] at same
      exact .inl ⟨rfl, same⟩
  · cases isRead
  · cases isRead
  · next fewer c left visible =>
      obtain ⟨⟨first, more⟩, isFirst, isRead⟩ := Option.bind_eq_some_iff.mp isRead
      obtain ⟨rest, isRest, isRead⟩ := Option.bind_eq_some_iff.mp isRead
      cases isRead
      obtain ⟨taken, rfl⟩ := token_suffix isFirst
      -- Blanks were dropped as long as there were any.
      have noBlank : Json.isBlank c = false := by
        have head := List.head?_dropWhile_not (·.any Json.isBlank) parts
        rw [visible] at head
        simpa using head
      rw [visible] at same
      exact .inr ⟨first, rest, some c :: taken, more, fewer, rfl, by simpa using same,
        .mk noBlank isFirst, isRest⟩

theorem spelled_of_tokensWithin {limit : Nat} {parts : Utf8.Parts} {read : List Token}
    (isRead : tokensWithin limit parts = some read) : Spelled read parts := by
  induction read generalizing limit parts with
  | nil =>
      obtain ⟨blanks, isBlank, ⟨_, rfl⟩ | ⟨_, _, _, _, _, isCons, _⟩⟩ := exists_of_tokensWithin isRead
      · exact .nil isBlank
      · cases isCons
  | cons first rest ih =>
      obtain ⟨blanks, isBlank, ⟨isNil, _⟩ | ⟨_, _, taken, more, fewer, same, rfl, stands, next⟩⟩ :=
        exists_of_tokensWithin isRead
      · cases isNil
      · cases same
        exact .cons isBlank stands (ih next)

theorem Spelled.tokensWithin_eq {written : List Token} {parts : Utf8.Parts}
    (spelled : Spelled written parts) {limit : Nat} (enough : written.length ≤ limit) :
    tokensWithin limit parts = some written := by
  induction spelled generalizing limit with
  | @nil blanks isBlank =>
      have ended := dropWhile_blanks isBlank []
      rw [List.append_nil] at ended
      unfold tokensWithin
      rw [ended]
      cases limit <;> rfl
  | @cons blanks first rest taken more isBlank stands _ ih =>
      cases stands with
      | @mk c left visible read =>
          cases limit with
          | zero => cases enough
          | succ limit =>
              have remaining := ih (Nat.le_of_succ_le_succ enough)
              have stops : (some c :: (left ++ more)).dropWhile (·.any Json.isBlank) =
                  some c :: (left ++ more) :=
                List.dropWhile_cons_of_neg (by simp [visible])
              unfold tokensWithin
              rw [List.append_assoc, List.cons_append, dropWhile_blanks isBlank, stops]
              simp only [read, remaining, Option.bind_eq_bind, Option.bind_some]
              rfl

theorem Spelled.length_le {written : List Token} {parts : Utf8.Parts}
    (spelled : Spelled written parts) : written.length ≤ parts.length := by
  induction spelled with
  | nil _ => exact Nat.zero_le _
  | cons _ stands _ ih =>
      cases stands with
      | mk _ _ =>
          simp only [List.length_append, List.length_cons]
          omega

/-- The limit on the number of tokens is never met: each token has at least one character. -/
theorem tokens_eq_some_iff {parts : Utf8.Parts} {read : List Token} :
    tokens parts = some read ↔ Spelled read parts :=
  ⟨spelled_of_tokensWithin, fun spelled => spelled.tokensWithin_eq spelled.length_le⟩

/-! ## Marks and strings -/

/-- The characters that are tokens by themselves. -/
def marks : List (Char × Token) :=
  [('[', .openArray), (']', .closeArray), ('\x7b', .openObject), ('\x7d', .closeObject),
    (',', .comma), (':', .colon)]

theorem token_of_mark {c : Char} {mark : Token} (isMark : (c, mark) ∈ marks) (rest : Utf8.Parts) :
    token c rest = some (mark, rest) := by
  simp only [marks, List.mem_cons, Prod.mk.injEq, List.not_mem_nil, or_false] at isMark
  rcases isMark with ⟨rfl, rfl⟩ | ⟨rfl, rfl⟩ | ⟨rfl, rfl⟩ | ⟨rfl, rfl⟩ | ⟨rfl, rfl⟩ | ⟨rfl, rfl⟩ <;> rfl

/-- A token is a mark, a string after a quote, or neither. -/
theorem token_cases {first : Char} {rest after : Utf8.Parts} {read : Token}
    (isToken : token first rest = some (read, after)) :
    ((first, read) ∈ marks ∧ after = rest) ∨
      (first = '"' ∧ stringToken rest = some (read, after)) ∨
      read = .null ∨ (∃ value, read = .bool value) ∨ ∃ number, read = .number number := by
  unfold token at isToken
  split at isToken
  iterate 6
    · cases isToken
      exact .inl ⟨by decide, rfl⟩
  · exact .inr (.inl ⟨rfl, isToken⟩)
  · exact .inr (.inr (.inr (.inr (exists_number_of_numberToken isToken))))
  · obtain ⟨_, _, same⟩ := Option.map_eq_some_iff.mp isToken
    cases same
    exact .inr (.inr (.inl rfl))
  · obtain ⟨_, _, same⟩ := Option.map_eq_some_iff.mp isToken
    cases same
    exact .inr (.inr (.inr (.inl ⟨true, rfl⟩)))
  · obtain ⟨_, _, same⟩ := Option.map_eq_some_iff.mp isToken
    cases same
    exact .inr (.inr (.inr (.inl ⟨false, rfl⟩)))
  · exact .inr (.inr (.inr (.inr (exists_number_of_numberToken isToken))))

theorem marks_unique : ∀ one ∈ marks, ∀ other ∈ marks, one.2 = other.2 → one.1 = other.1 := by
  decide

theorem stands_mark_iff {c : Char} {mark : Token} (isMark : (c, mark) ∈ marks)
    {more taken : Utf8.Parts} : Stands more mark taken ↔ taken = [some c] := by
  constructor
  · rintro ⟨visible, read⟩
    rcases token_cases read with ⟨same, left⟩ | ⟨_, isString⟩ | rfl | ⟨_, rfl⟩ | ⟨_, rfl⟩
    · cases marks_unique _ same _ isMark rfl
      rw [List.self_eq_append_left.mp left]
    · obtain ⟨_, rfl⟩ := exists_string_of_stringToken isString
      simp [marks] at isMark
    · simp [marks] at isMark
    · simp [marks] at isMark
    · simp [marks] at isMark
  · rintro rfl
    have visible : ∀ one ∈ marks, isBlank one.1 = false := by decide
    exact .mk (visible _ isMark) (token_of_mark isMark more)

theorem stands_text_iff {text : String} {more taken : Utf8.Parts} :
    Stands more (.string (some text)) taken ↔
      ∃ written, StringForm text written ∧ taken = written.map some := by
  constructor
  · rintro ⟨visible, read⟩
    rcases token_cases read with ⟨isMark, _⟩ | ⟨rfl, isString⟩ | isNull | ⟨_, isBool⟩ | ⟨_, isNumber⟩
    · simp [marks] at isMark
    · obtain ⟨written, form, same⟩ := stringToken_eq_some_iff.mp isString
      rw [← List.cons_append] at same
      exact ⟨written, form, List.append_cancel_right same⟩
    · cases isNull
    · cases isBool
    · cases isNumber
  · rintro ⟨written, form, rfl⟩
    have read : ∀ rest, some '"' :: rest = written.map some ++ more →
        token '"' rest = some (.string (some text), more) :=
      fun rest same => stringToken_eq_some_iff.mpr ⟨written, form, same⟩
    cases form with
    | mk form => exact .mk (by decide) (read _ (by simp))

theorem spelled_nil_iff {parts : Utf8.Parts} :
    Spelled [] parts ↔ ∃ blanks, Blanks blanks ∧ parts = blanks.map some := by
  constructor
  · rintro ⟨isBlank⟩
    exact ⟨_, isBlank, rfl⟩
  · rintro ⟨blanks, isBlank, rfl⟩
    exact .nil isBlank

theorem spelled_mark_iff {c : Char} {mark : Token} (isMark : (c, mark) ∈ marks) {rest : List Token}
    {parts : Utf8.Parts} : Spelled (mark :: rest) parts ↔
      ∃ blanks more, Blanks blanks ∧ Spelled rest more ∧ parts = blanks.map some ++ some c :: more := by
  constructor
  · intro spelled
    cases spelled with
    | cons isBlank stands others =>
        rw [(stands_mark_iff isMark).mp stands]
        exact ⟨_, _, isBlank, others, List.append_assoc ..⟩
  · rintro ⟨blanks, more, isBlank, others, rfl⟩
    have whole := Spelled.cons isBlank ((stands_mark_iff isMark).mpr rfl) others
    rwa [List.append_assoc] at whole

theorem spelled_text_iff {text : String} {rest : List Token} {parts : Utf8.Parts} :
    Spelled (.string (some text) :: rest) parts ↔
      ∃ blanks written more, Blanks blanks ∧ StringForm text written ∧ Spelled rest more ∧
        parts = (blanks ++ written).map some ++ more := by
  constructor
  · intro spelled
    cases spelled with
    | cons isBlank stands others =>
        obtain ⟨written, form, rfl⟩ := stands_text_iff.mp stands
        exact ⟨_, written, _, isBlank, form, others, by rw [List.map_append]⟩
  · rintro ⟨blanks, written, more, isBlank, form, others, rfl⟩
    rw [List.map_append]
    exact .cons isBlank (stands_text_iff.mpr ⟨written, form, rfl⟩) others

end SeriesQuery.Json
