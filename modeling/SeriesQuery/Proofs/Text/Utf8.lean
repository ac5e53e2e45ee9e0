import SeriesQuery.Proofs.Text.Items
import SeriesQuery.Text.Utf8

set_option autoImplicit false

/-!
# UTF-8 bytes write exactly one text

Reading bytes is the inverse of writing characters: what characters write is read as these
characters, by the strict reading and by the lenient one, and no other bytes are well formed.
-/

namespace SeriesQuery.Text.Utf8

/-! ## Code points -/

def Tail (byte : UInt8) : Prop :=
  0x80 ≤ byte.toNat ∧ byte.toNat ≤ 0xBF

/-- The well-formed bytes of a code point, by their number. The second byte is bounded further after
some first ones, which leaves out overlong forms, surrogates and code points above U+10FFFF. -/
inductive Spelled : Nat → List UInt8 → Prop where
  | one {a : UInt8} : a.toNat < 0x80 → Spelled a.toNat [a]
  | two {a b : UInt8} : 0xC2 ≤ a.toNat → a.toNat < 0xE0 → Tail b →
      Spelled ((a.toNat - 0xC0) * 64 + (b.toNat - 0x80)) [a, b]
  | three {a b c : UInt8} : 0xE0 ≤ a.toNat → a.toNat < 0xF0 → Tail b → Tail c →
      (a.toNat = 0xE0 → 0xA0 ≤ b.toNat) → (a.toNat = 0xED → b.toNat ≤ 0x9F) →
      Spelled (((a.toNat - 0xE0) * 64 + (b.toNat - 0x80)) * 64 + (c.toNat - 0x80)) [a, b, c]
  | four {a b c d : UInt8} : 0xF0 ≤ a.toNat → a.toNat < 0xF5 → Tail b → Tail c → Tail d →
      (a.toNat = 0xF0 → 0x90 ≤ b.toNat) → (a.toNat = 0xF4 → b.toNat ≤ 0x8F) →
      Spelled ((((a.toNat - 0xF0) * 64 + (b.toNat - 0x80)) * 64 + (c.toNat - 0x80)) * 64 +
        (d.toNat - 0x80)) [a, b, c, d]

theorem Spelled.valid {point : Nat} {bytes : List UInt8} (spelled : Spelled point bytes) :
    point.isValidChar := by
  cases spelled with
  | one => left; omega
  | two _ _ tail => obtain ⟨_, _⟩ := tail; left; omega
  | three _ _ b c low high =>
      obtain ⟨_, _⟩ := b
      obtain ⟨_, _⟩ := c
      rw [Nat.isValidChar]
      omega
  | four _ _ b c d low high =>
      obtain ⟨_, _⟩ := b
      obtain ⟨_, _⟩ := c
      obtain ⟨_, _⟩ := d
      rw [Nat.isValidChar]
      omega

theorem Spelled.exists_cons {point : Nat} {bytes : List UInt8} (spelled : Spelled point bytes) :
    ∃ first tails, bytes = first :: tails := by
  cases spelled <;> exact ⟨_, _, rfl⟩

theorem Spelled.of_eq {point value : Nat} {bytes : List UInt8} (spelled : Spelled value bytes)
    (same : value = point) : Spelled point bytes :=
  same ▸ spelled

theorem toNat_ofNat_byte {value : Nat} (small : value < 256) : (UInt8.ofNat value).toNat = value :=
  UInt8.toNat_ofNat_of_lt' small

/-- A code point of ASCII is its own byte, and all bytes of any other lie above ASCII. -/
theorem Spelled.narrow_or_wide {point : Nat} {bytes : List UInt8} (spelled : Spelled point bytes) :
    (point < 0x80 ∧ bytes = [UInt8.ofNat point]) ∨ ∀ byte ∈ bytes, 0x80 ≤ byte.toNat := by
  cases spelled with
  | one narrow => exact .inl ⟨narrow, by rw [UInt8.ofNat_toNat]⟩
  | two low _ tail =>
      right
      rintro byte (_ | ⟨_, _ | ⟨_, ⟨⟩⟩⟩)
      · omega
      · exact tail.1
  | three low _ second third _ _ =>
      right
      rintro byte (_ | ⟨_, _ | ⟨_, _ | ⟨_, ⟨⟩⟩⟩⟩)
      · omega
      · exact second.1
      · exact third.1
  | four low _ second third fourth _ _ =>
      right
      rintro byte (_ | ⟨_, _ | ⟨_, _ | ⟨_, _ | ⟨_, ⟨⟩⟩⟩⟩⟩)
      · omega
      · exact second.1
      · exact third.1
      · exact fourth.1

theorem spelled_encodeChar (c : Char) : Spelled c.toNat (String.utf8EncodeChar c) := by
  have valid : c.toNat < 55296 ∨ 57343 < c.toNat ∧ c.toNat < 1114112 := c.valid
  have same : c.val.toNat = c.toNat := rfl
  simp only [String.utf8EncodeChar, same]
  generalize c.toNat = point at valid
  have tail (value : Nat) : (UInt8.ofNat (value % 64 + 128)).toNat = value % 64 + 128 :=
    toNat_ofNat_byte (by omega)
  have isTail (value : Nat) : Tail (UInt8.ofNat (value % 64 + 128)) := by
    rw [Tail, tail]
    omega
  split
  · have lead : (UInt8.ofNat point).toNat = point := toNat_ofNat_byte (by omega)
    refine (Spelled.one ?_).of_eq lead
    omega
  · split
    · have lead : (UInt8.ofNat (point / 64 % 32 + 192)).toNat = point / 64 % 32 + 192 :=
        toNat_ofNat_byte (by omega)
      refine (Spelled.two ?_ ?_ (isTail _)).of_eq ?_ <;> simp only [lead, tail] <;> omega
    · split
      · have lead : (UInt8.ofNat (point / 4096 % 16 + 224)).toNat = point / 4096 % 16 + 224 :=
          toNat_ofNat_byte (by omega)
        refine (Spelled.three ?_ ?_ (isTail _) (isTail _) ?_ ?_).of_eq ?_ <;>
          simp only [lead, tail] <;> omega
      · have lead : (UInt8.ofNat (point / 262144 % 8 + 240)).toNat = point / 262144 % 8 + 240 :=
          toNat_ofNat_byte (by omega)
        refine (Spelled.four ?_ ?_ (isTail _) (isTail _) (isTail _) ?_ ?_).of_eq ?_ <;>
          simp only [lead, tail] <;> omega

theorem toNat_ofNat_point {point : Nat} (valid : point.isValidChar) :
    (Char.ofNat point).toNat = point := by
  rw [Char.ofNat, dif_pos valid]
  rfl

theorem cons_ofNat {value : Nat} {byte : UInt8} {bytes rest : List UInt8}
    (same : value = byte.toNat) (others : bytes = rest) :
    UInt8.ofNat value :: bytes = byte :: rest := by
  rw [same, UInt8.ofNat_toNat, others]

/-- No other bytes are those of a code point. -/
theorem Spelled.eq_encodeChar {point : Nat} {bytes : List UInt8} (spelled : Spelled point bytes) :
    String.utf8EncodeChar (Char.ofNat point) = bytes := by
  have same : (Char.ofNat point).val.toNat = point := toNat_ofNat_point spelled.valid
  simp only [String.utf8EncodeChar, same]
  cases spelled with
  | one small => rw [if_pos (by omega), UInt8.ofNat_toNat]
  | two low high b =>
      obtain ⟨bLow, bHigh⟩ := b
      rw [if_neg (by omega), if_pos (by omega)]
      refine cons_ofNat ?_ (cons_ofNat ?_ rfl) <;> omega
  | three low high b c first last =>
      obtain ⟨bLow, bHigh⟩ := b
      obtain ⟨cLow, cHigh⟩ := c
      rw [if_neg (by omega), if_neg (by omega), if_pos (by omega)]
      refine cons_ofNat ?_ (cons_ofNat ?_ (cons_ofNat ?_ rfl)) <;> omega
  | four low high b c d first last =>
      obtain ⟨bLow, bHigh⟩ := b
      obtain ⟨cLow, cHigh⟩ := c
      obtain ⟨dLow, dHigh⟩ := d
      rw [if_neg (by omega), if_neg (by omega), if_neg (by omega)]
      refine cons_ofNat ?_ (cons_ofNat ?_ (cons_ofNat ?_ (cons_ofNat ?_ rfl))) <;> omega

/-! ## Reading single characters -/

@[simp] theorem continuation_zero (low high bits : Nat) (bytes : List UInt8) :
    continuation 0 low high bits bytes = (some bits, bytes) := by
  cases bytes <;> rfl

theorem continuation_succ {tails low high bits : Nat} {byte : UInt8} {rest : List UInt8}
    (inside : low ≤ byte.toNat ∧ byte.toNat ≤ high) :
    continuation (tails + 1) low high bits (byte :: rest) =
      continuation tails 0x80 0xBF (bits * 64 + (byte.toNat - 0x80)) rest := by
  rw [continuation, if_pos inside]

theorem exists_of_continuation {tails low high bits point : Nat} {bytes left : List UInt8}
    (read : continuation (tails + 1) low high bits bytes = (some point, left)) :
    ∃ byte rest, bytes = byte :: rest ∧ low ≤ byte.toNat ∧ byte.toNat ≤ high ∧
      continuation tails 0x80 0xBF (bits * 64 + (byte.toNat - 0x80)) rest = (some point, left) := by
  cases bytes with
  | nil => simp [continuation] at read
  | cons byte rest =>
      rw [continuation] at read
      split at read
      · next inside => exact ⟨byte, rest, rfl, inside.1, inside.2, read⟩
      · cases read

theorem ofByte?_two {byte : Nat} (low : 0xC2 ≤ byte) (high : byte < 0xE0) :
    Lead.ofByte? byte = some ⟨1, 0x80, 0xBF, byte - 0xC0⟩ := by
  rw [Lead.ofByte?, if_neg (by omega), if_neg (by omega), if_pos high]

theorem ofByte?_three {byte : Nat} (low : 0xE0 ≤ byte) (high : byte < 0xF0) :
    Lead.ofByte? byte =
      some ⟨2, if byte = 0xE0 then 0xA0 else 0x80, if byte = 0xED then 0x9F else 0xBF,
        byte - 0xE0⟩ := by
  rw [Lead.ofByte?, if_neg (by omega), if_neg (by omega), if_neg (by omega), if_pos high]

theorem ofByte?_four {byte : Nat} (low : 0xF0 ≤ byte) (high : byte < 0xF5) :
    Lead.ofByte? byte =
      some ⟨3, if byte = 0xF0 then 0x90 else 0x80, if byte = 0xF4 then 0x8F else 0xBF,
        byte - 0xF0⟩ := by
  rw [Lead.ofByte?, if_neg (by omega), if_neg (by omega), if_neg (by omega), if_neg (by omega),
    if_pos high]

theorem Spelled.front_eq {point : Nat} {first : UInt8} {tails : List UInt8}
    (spelled : Spelled point (first :: tails)) (rest : List UInt8) :
    front first (tails ++ rest) = (some (Char.ofNat point), rest) := by
  cases spelled with
  | one small => simp [front, Lead.ofByte?, small]
  | two low high b => simp [front, ofByte?_two low high, continuation_succ b]
  | @three _ b _ low high tailB tailC firstTail lastTail =>
      have inside : (if first.toNat = 0xE0 then 0xA0 else 0x80) ≤ b.toNat ∧
          b.toNat ≤ if first.toNat = 0xED then 0x9F else 0xBF := by
        obtain ⟨_, _⟩ := tailB
        constructor <;> split <;> omega
      simp [front, ofByte?_three low high, continuation_succ inside, continuation_succ tailC]
  | @four _ b _ _ low high tailB tailC tailD firstTail lastTail =>
      have inside : (if first.toNat = 0xF0 then 0x90 else 0x80) ≤ b.toNat ∧
          b.toNat ≤ if first.toNat = 0xF4 then 0x8F else 0xBF := by
        obtain ⟨_, _⟩ := tailB
        constructor <;> split <;> omega
      simp [front, ofByte?_four low high, continuation_succ inside, continuation_succ tailC,
        continuation_succ tailD]

theorem exists_lead_of_front {first : UInt8} {rest left : List UInt8} {c : Char}
    (read : front first rest = (some c, left)) :
    ∃ lead point, Lead.ofByte? first.toNat = some lead ∧
      continuation lead.tails lead.low lead.high lead.bits rest = (some point, left) ∧
      c = Char.ofNat point := by
  rw [front] at read
  cases led : Lead.ofByte? first.toNat with
  | none => simp [led] at read
  | some lead =>
      simp only [led, Prod.mk.injEq, Option.map_eq_some_iff] at read
      obtain ⟨⟨point, found, rfl⟩, rfl⟩ := read
      exact ⟨lead, point, rfl, Prod.ext found rfl, rfl⟩

/-- What is read as a character starts with the bytes of its code point. -/
theorem exists_spelled_of_front {first : UInt8} {rest left : List UInt8} {c : Char}
    (read : front first rest = (some c, left)) :
    ∃ point tails, Spelled point (first :: tails) ∧ rest = tails ++ left ∧
      c = Char.ofNat point := by
  obtain ⟨lead, point, led, continued, rfl⟩ := exists_lead_of_front read
  refine ⟨point, ?_⟩
  -- The first byte tells how many bytes follow, so there is one case for each width and two for bytes
  -- that start no character.
  by_cases one : first.toNat < 0x80
  · rw [Lead.ofByte?, if_pos one] at led
    cases led
    rw [continuation_zero] at continued
    cases continued
    exact ⟨[], .one one, rfl, rfl⟩
  by_cases noLead : first.toNat < 0xC2
  · rw [Lead.ofByte?, if_neg one, if_pos noLead] at led
    cases led
  by_cases two : first.toNat < 0xE0
  · rw [ofByte?_two (by omega) two] at led
    cases led
    obtain ⟨b, left, rfl, low, high, continued⟩ := exists_of_continuation continued
    rw [continuation_zero, Prod.mk.injEq, Option.some.injEq] at continued
    obtain ⟨rfl, rfl⟩ := continued
    exact ⟨[b], .two (by omega) two ⟨low, high⟩, rfl, rfl⟩
  by_cases three : first.toNat < 0xF0
  · rw [ofByte?_three (by omega) three] at led
    cases led
    obtain ⟨b, left, rfl, low, high, continued⟩ := exists_of_continuation continued
    obtain ⟨c, left, rfl, cLow, cHigh, continued⟩ := exists_of_continuation continued
    rw [continuation_zero, Prod.mk.injEq, Option.some.injEq] at continued
    obtain ⟨rfl, rfl⟩ := continued
    simp only at low high
    refine ⟨[b, c], .three (by omega) three ⟨?_, ?_⟩ ⟨cLow, cHigh⟩ ?_ ?_, rfl, rfl⟩
    · split at low <;> omega
    · split at high <;> omega
    · intro least
      rwa [if_pos least] at low
    · intro surrogates
      rwa [if_pos surrogates] at high
  by_cases four : first.toNat < 0xF5
  · rw [ofByte?_four (by omega) four] at led
    cases led
    obtain ⟨b, left, rfl, low, high, continued⟩ := exists_of_continuation continued
    obtain ⟨c, left, rfl, cLow, cHigh, continued⟩ := exists_of_continuation continued
    obtain ⟨d, left, rfl, dLow, dHigh, continued⟩ := exists_of_continuation continued
    rw [continuation_zero, Prod.mk.injEq, Option.some.injEq] at continued
    obtain ⟨rfl, rfl⟩ := continued
    simp only at low high
    refine ⟨[b, c, d], .four (by omega) four ⟨?_, ?_⟩ ⟨cLow, cHigh⟩ ⟨dLow, dHigh⟩ ?_ ?_, rfl, rfl⟩
    · split at low <;> omega
    · split at high <;> omega
    · intro least
      rwa [if_pos least] at low
    · intro greatest
      rwa [if_pos greatest] at high
  · rw [Lead.ofByte?, if_neg one, if_neg noLead, if_neg two, if_neg three, if_neg four] at led
    cases led

/-! ## Texts -/

theorem encode_cons (c : Char) (text : List Char) :
    encode (c :: text) = String.utf8EncodeChar c ++ encode text :=
  rfl

theorem encode_singleton (c : Char) : encode [c] = String.utf8EncodeChar c :=
  List.append_nil _

theorem encode_append (text rest : List Char) : encode (text ++ rest) = encode text ++ encode rest :=
  List.flatMap_append

theorem encode_cons_ne_nil (c : Char) (text : List Char) : encode (c :: text) ≠ [] := by
  obtain ⟨first, tails, bytes⟩ := (spelled_encodeChar c).exists_cons
  rw [encode_cons, bytes]
  exact List.cons_ne_nil _ _

theorem parts_cons_of_front {first : UInt8} {rest left : List UInt8} {part : Option Char}
    (read : front first rest = (part, left)) : parts (first :: rest) = part :: parts left := by
  rw [parts, read]

theorem parts_encodeChar (c : Char) (rest : List UInt8) :
    parts (String.utf8EncodeChar c ++ rest) = some c :: parts rest := by
  have spelled := spelled_encodeChar c
  obtain ⟨first, tails, bytes⟩ := spelled.exists_cons
  rw [bytes] at spelled ⊢
  have read := spelled.front_eq rest
  rw [Char.ofNat_toNat] at read
  exact parts_cons_of_front read

theorem parts_encode_append (text : List Char) (rest : List UInt8) :
    parts (encode text ++ rest) = text.map some ++ parts rest := by
  induction text with
  | nil => rfl
  | cons c text ih =>
      rw [encode_cons, List.append_assoc, parts_encodeChar, ih]
      rfl

theorem parts_encode (text : List Char) : parts (encode text) = text.map some := by
  have read := parts_encode_append text []
  rw [List.append_nil, parts, List.append_nil] at read
  exact read

/-- Bytes that are read without an ill-formed part are those that the characters write. -/
theorem eq_encode_of_parts {bytes : List UInt8} {text : List Char}
    (read : parts bytes = text.map some) : bytes = encode text := by
  -- The induction is on the text, since one step of the reader takes all the bytes of a character.
  induction text generalizing bytes with
  | nil =>
      cases bytes with
      | nil => rfl
      | cons first rest =>
          rw [parts] at read
          cases read
  | cons c text ih =>
      cases bytes with
      | nil =>
          rw [parts] at read
          cases read
      | cons first rest =>
          obtain ⟨part, left, found⟩ : ∃ part left, front first rest = (part, left) := ⟨_, _, rfl⟩
          rw [parts_cons_of_front found, List.map_cons] at read
          obtain ⟨rfl, after⟩ := List.cons.inj read
          obtain ⟨point, tails, spelled, rfl, rfl⟩ := exists_spelled_of_front found
          rw [ih after, encode_cons, spelled.eq_encodeChar]
          rfl

theorem mapM_id_eq_some_iff {parts : Parts} {text : List Char} :
    parts.mapM id = some text ↔ parts = text.map some :=
  mapM_eq_some_iff_map fun _ _ => Iff.rfl

/-- Bytes are the strict form of a text if and only if the text writes them. -/
theorem decode?_eq_some_iff {bytes : List UInt8} {text : List Char} :
    decode? bytes = some text ↔ bytes = encode text := by
  rw [decode?, mapM_id_eq_some_iff]
  constructor
  · exact eq_encode_of_parts
  · rintro rfl
    exact parts_encode text

theorem encode_inj {text other : List Char} : encode text = encode other ↔ text = other := by
  constructor
  · intro same
    have read : decode? (encode text) = some other := decode?_eq_some_iff.mpr same
    rw [decode?_eq_some_iff.mpr rfl] at read
    exact Option.some.inj read
  · exact congrArg encode

theorem decodeLenient_encode (text : List Char) : decodeLenient (encode text) = text := by
  rw [decodeLenient, parts_encode, List.map_map]
  exact List.map_id' text

end SeriesQuery.Text.Utf8
