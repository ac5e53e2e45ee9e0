import SeriesQuery.Json.Value
import SeriesQuery.Text.Numeral
import SeriesQuery.Text.Percent
import SeriesQuery.Text.Split
import SeriesQuery.Text.Utf8

set_option autoImplicit false

/-!
# JSON tokens

What bytes write as a list of tokens, by RFC 8259. Blanks are space, tab, line feed and carriage
return. In a string, control characters must be escaped; a pair of escaped surrogates writes one
character. A surrogate without its partner leaves the string without a text, and so does an
ill-formed part, which may stand nowhere else.
-/

namespace SeriesQuery.Json

open SeriesQuery.Text

inductive Token where
  | openArray
  | closeArray
  | openObject
  | closeObject
  | comma
  | colon
  | null
  | bool (value : Bool)
  | number (number : Number)
  | string (text : Option String)
  deriving DecidableEq, Repr

def isBlank (c : Char) : Bool :=
  c == ' ' || c == '\t' || c == '\n' || c == '\r'

def word (text : String) : Utf8.Parts :=
  text.toList.map some

/-! ## Strings -/

/-- A piece of a string: a character, half of a surrogate pair, or an ill-formed part. -/
inductive Piece where
  | char (c : Char)
  | surrogate (code : Nat)
  | illFormed
  deriving DecidableEq, Repr

def escaped? : Char → Option Char
  | '"' => some '"'
  | '\\' => some '\\'
  | '/' => some '/'
  | 'b' => some '\x08'
  | 'f' => some '\x0c'
  | 'n' => some '\n'
  | 'r' => some '\r'
  | 't' => some '\t'
  | _ => none

def hexQuad? (a b c d : Char) : Option Nat :=
  match Percent.hexValue? a, Percent.hexValue? b, Percent.hexValue? c, Percent.hexValue? d with
  | some a, some b, some c, some d => some (((a * 16 + b) * 16 + c) * 16 + d)
  | _, _, _, _ => none

/-- The piece of a string that a code of 16 bits writes. -/
def Piece.ofCode (code : Nat) : Piece :=
  if 0xD800 ≤ code ∧ code < 0xE000 then .surrogate code else .char (Char.ofNat code)

/-- The pieces of a string up to its closing quote, and what comes after it. -/
def stringPieces : Utf8.Parts → Option (List Piece × Utf8.Parts)
  | [] => none
  | some '"' :: rest => some ([], rest)
  | some '\\' :: some 'u' :: some a :: some b :: some c :: some d :: rest =>
    match hexQuad? a b c d, stringPieces rest with
    | some code, some (pieces, after) => some (Piece.ofCode code :: pieces, after)
    | _, _ => none
  | some '\\' :: some letter :: rest =>
    match escaped? letter, stringPieces rest with
    | some c, some (pieces, after) => some (.char c :: pieces, after)
    | _, _ => none
  | some c :: rest =>
    if c = '\\' ∨ c.toNat < 0x20 then none
    else (stringPieces rest).map fun (pieces, after) => (.char c :: pieces, after)
  | none :: rest => (stringPieces rest).map fun (pieces, after) => (.illFormed :: pieces, after)

/-- The characters that pieces of a string write, with `none` for an ill-formed part and for a
surrogate without its partner. -/
def joinPieces : List Piece → Utf8.Parts
  | [] => []
  | .char c :: rest => some c :: joinPieces rest
  | .illFormed :: rest => none :: joinPieces rest
  | .surrogate high :: .surrogate low :: rest =>
    if high < 0xDC00 ∧ 0xDC00 ≤ low then
      some (Char.ofNat (0x10000 + (high - 0xD800) * 0x400 + (low - 0xDC00))) :: joinPieces rest
    else none :: joinPieces (.surrogate low :: rest)
  | .surrogate _ :: rest => none :: joinPieces rest

/-- The string that starts after an opening quote, and what comes after it. -/
def stringToken (parts : Utf8.Parts) : Option (Token × Utf8.Parts) :=
  (stringPieces parts).map fun (pieces, after) =>
    (.string (((joinPieces pieces).mapM id).map String.ofList), after)

/-! ## Numbers -/

/-- The digits at the front, and what comes after them. -/
def spanDigits (parts : Utf8.Parts) : List Nat × Utf8.Parts :=
  match parts with
  | [] => ([], [])
  | part :: rest =>
    match part.bind Numeral.digitValue? with
    | some digit => (digit :: (spanDigits rest).1, (spanDigits rest).2)
    | none => ([], parts)

/-- The integral digits at the front: a zero alone, or digits that start with another. -/
def integral? (parts : Utf8.Parts) : Option (List Nat × Utf8.Parts) :=
  match parts with
  | some '0' :: rest => some ([0], rest)
  | _ =>
    match spanDigits parts with
    | ([], _) => none
    | found => some found

/-- The digits of a fraction, if one follows. A point without digits is refused. -/
def fraction? (parts : Utf8.Parts) : Option (Option (List Nat) × Utf8.Parts) :=
  match parts with
  | some '.' :: rest =>
    match spanDigits rest with
    | ([], _) => none
    | (digits, after) => some (some digits, after)
  | _ => some (none, parts)

/-- The exponent, if one follows. An exponent without digits is refused. -/
def exponent? (parts : Utf8.Parts) : Option (Option Int × Utf8.Parts) :=
  match parts with
  | some c :: rest =>
    if c = 'e' ∨ c = 'E' then
      let (negative, rest) := match rest with
        | some '-' :: rest => (true, rest)
        | some '+' :: rest => (false, rest)
        | _ => (false, rest)
      match spanDigits rest with
      | ([], _) => none
      | (digits, after) =>
        let size : Int := Decimal.ofDigits digits
        some (some (if negative then -size else size), after)
    else some (none, parts)
  | _ => some (none, parts)

/-- The number at the front after its sign, and what comes after it. -/
def numberToken (negative : Bool) (parts : Utf8.Parts) : Option (Token × Utf8.Parts) := do
  let (integral, rest) ← integral? parts
  let (fraction, rest) ← fraction? rest
  let (exponent, rest) ← exponent? rest
  return (.number {
    negative
    magnitude := .ofParts integral (fraction.getD []) (exponent.getD 0)
    plain := fraction.isNone && exponent.isNone }, rest)

/-! ## All tokens -/

/-- The token that starts with `first`, and what comes after it. -/
def token (first : Char) (rest : Utf8.Parts) : Option (Token × Utf8.Parts) :=
  match first with
  | '[' => some (.openArray, rest)
  | ']' => some (.closeArray, rest)
  | '\x7b' => some (.openObject, rest)
  | '\x7d' => some (.closeObject, rest)
  | ',' => some (.comma, rest)
  | ':' => some (.colon, rest)
  | '"' => stringToken rest
  | '-' => numberToken true rest
  | 'n' => (after? (word "ull") rest).map fun after => (.null, after)
  | 't' => (after? (word "rue") rest).map fun after => (.bool true, after)
  | 'f' => (after? (word "alse") rest).map fun after => (.bool false, after)
  | _ => numberToken false (some first :: rest)

/-- The tokens that parts write, at most `limit` of them; none if they are not made of tokens. -/
def tokensWithin (limit : Nat) (parts : Utf8.Parts) : Option (List Token) :=
  match limit, parts.dropWhile (·.any isBlank) with
  | _, [] => some []
  | 0, _ :: _ => none
  | _, none :: _ => none
  | limit + 1, some first :: rest => do
    let (token, after) ← token first rest
    let tokens ← tokensWithin limit after
    return token :: tokens

/-- The tokens that parts write. A token has at least one character, which bounds their number. -/
def tokens (parts : Utf8.Parts) : Option (List Token) :=
  tokensWithin parts.length parts

end SeriesQuery.Json
