set_option autoImplicit false

/-!
# UTF-8

Characters as bytes and back. `parts` splits any sequence of bytes into characters and ill-formed
parts, where an ill-formed part is as long as it can be while still being the start of some
character (one byte if it starts none). The strict reading refuses ill-formed parts; the lenient one
puts the replacement character U+FFFD for each.
-/

namespace SeriesQuery.Text.Utf8

/-- The bytes of a text, one to four for each character. -/
def encode (text : List Char) : List UInt8 :=
  text.flatMap String.utf8EncodeChar

/-- What the first byte of a character says about the rest of it. -/
structure Lead where
  tails : Nat
  /-- Least value of the first continuation byte. -/
  low : Nat
  /-- Greatest value of the first continuation byte. -/
  high : Nat
  /-- The bits of the code point that the first byte holds. -/
  bits : Nat
  deriving DecidableEq, Repr

/-- Reads a first byte. The ranges of the next byte leave out overlong forms, surrogates and code
points above U+10FFFF. -/
def Lead.ofByte? (byte : Nat) : Option Lead :=
  if byte < 0x80 then some ⟨0, 0x80, 0xBF, byte⟩
  else if byte < 0xC2 then none
  else if byte < 0xE0 then some ⟨1, 0x80, 0xBF, byte - 0xC0⟩
  else if byte < 0xF0 then
    some ⟨2, if byte = 0xE0 then 0xA0 else 0x80, if byte = 0xED then 0x9F else 0xBF, byte - 0xE0⟩
  else if byte < 0xF5 then
    some ⟨3, if byte = 0xF0 then 0x90 else 0x80, if byte = 0xF4 then 0x8F else 0xBF, byte - 0xF0⟩
  else none

/-- Reads `tails` continuation bytes after the bits read so far, the first of them between `low` and
`high`. It answers with the code point, if all of them are there, and the bytes left. -/
def continuation (tails low high bits : Nat) : List UInt8 → Option Nat × List UInt8
  | [] => (if tails = 0 then some bits else none, [])
  | byte :: rest =>
    match tails with
    | 0 => (some bits, byte :: rest)
    | tails + 1 =>
      if low ≤ byte.toNat ∧ byte.toNat ≤ high then
        continuation tails 0x80 0xBF (bits * 64 + (byte.toNat - 0x80)) rest
      else (none, byte :: rest)

theorem length_continuation_le (tails low high bits : Nat) (bytes : List UInt8) :
    (continuation tails low high bits bytes).2.length ≤ bytes.length := by
  induction bytes generalizing tails low high bits with
  | nil => simp [continuation]
  | cons byte rest ih =>
      cases tails with
      | zero => simp [continuation]
      | succ tails =>
          simp only [continuation]
          split
          · exact Nat.le_succ_of_le (ih tails _ _ _)
          · simp

/-- The character or the ill-formed part (`none`) that starts with `first`, and the bytes after it.
-/
def front (first : UInt8) (rest : List UInt8) : Option Char × List UInt8 :=
  match Lead.ofByte? first.toNat with
  | none => (none, rest)
  | some lead =>
    let (point, left) := continuation lead.tails lead.low lead.high lead.bits rest
    (point.map Char.ofNat, left)

theorem length_front_le (first : UInt8) (rest : List UInt8) :
    (front first rest).2.length ≤ rest.length := by
  unfold front
  split
  · simp
  · exact length_continuation_le ..

/-- What bytes write: characters and, as `none`, ill-formed parts, in order. -/
abbrev Parts := List (Option Char)

def parts : List UInt8 → Parts
  | [] => []
  | first :: rest => (front first rest).1 :: parts (front first rest).2
termination_by bytes => bytes.length
decreasing_by exact Nat.lt_succ_of_le (length_front_le first rest)

/-- The text of a well-formed sequence of bytes; `none` if some part of it is ill-formed. -/
def decode? (bytes : List UInt8) : Option (List Char) :=
  (parts bytes).mapM id

/-- The text of any sequence of bytes, with U+FFFD for each ill-formed part. -/
def decodeLenient (bytes : List UInt8) : List Char :=
  (parts bytes).map (·.getD '\uFFFD')

end SeriesQuery.Text.Utf8
