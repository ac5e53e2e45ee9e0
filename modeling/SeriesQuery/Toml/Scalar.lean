import SeriesQuery.Text.Decimal
import SeriesQuery.Text.Numeral
import SeriesQuery.Toml.Text
import SeriesQuery.Toml.Value

set_option autoImplicit false

/-!
# TOML numbers, dates and truth values

Values without parts. Each reader answers with the value at the front of a text and the text after
it. An integer must lie in the range of signed 64-bit numbers; a positive float must not round
beyond the greatest double; a date must be one of the calendar.
-/

namespace SeriesQuery.Toml

open SeriesQuery.Text

/-- Digits at the front of a text, single underscores between them passed over, and the text after
them. -/
def digitRun (value? : Char → Option Nat) : List Char → List Nat × List Char
  | [] => ([], [])
  | '_' :: c :: rest =>
    match value? c with
    | some digit => (digit :: (digitRun value? rest).1, (digitRun value? rest).2)
    | none => ([], '_' :: c :: rest)
  | c :: rest =>
    match value? c with
    | some digit => (digit :: (digitRun value? rest).1, (digitRun value? rest).2)
    | none => ([], c :: rest)

/-- One or more digits, the first of them not after an underscore. -/
def digits? (value? : Char → Option Nat) (text : List Char) : Option (List Nat × List Char) :=
  match text with
  | c :: rest =>
    match value? c with
    | some digit => some (digit :: (digitRun value? rest).1, (digitRun value? rest).2)
    | none => none
  | [] => none

/-- The digits of a decimal integer: a zero alone, or digits that start with another. -/
def integral? (text : List Char) : Option (List Nat × List Char) :=
  match text with
  | '0' :: rest => some ([0], rest)
  | _ => digits? Numeral.digitValue? text

/-- The value of a digit in a base up to sixteen. -/
def digitIn? (base : Nat) (c : Char) : Option Nat :=
  (Percent.hexValue? c).filter (· < base)

def ofDigits (base : Nat) (digits : List Nat) : Nat :=
  digits.foldl (fun sofar digit => sofar * base + digit) 0

def inRange? (value : Int) : Option Toml :=
  if Numeral.inInt64 value then some (.integer value) else none

/-- An integer with the prefix of a base, after it. -/
def based? (base : Nat) (text : List Char) : Option (Toml × List Char) := do
  let (digits, rest) ← digits? (digitIn? base) text
  let value ← inRange? (ofDigits base digits)
  return (value, rest)

/-- The sign at the front of a text, if there is one, and the text after it. -/
def sign (text : List Char) : Bool × List Char :=
  match text with
  | '-' :: rest => (true, rest)
  | '+' :: rest => (false, rest)
  | _ => (false, text)

/-- The digits of a fraction and the exponent of a float after its integral digits. There must be
one of the two. -/
def fractional? (text : List Char) : Option (List Nat × Int × List Char) := do
  let (places, rest) ← match text with
    | '.' :: rest => digits? Numeral.digitValue? rest
    | _ => some ([], text)
  match rest with
  | c :: after =>
    if c = 'e' ∨ c = 'E' then
      let (negative, after) := sign after
      let (digits, after) ← digits? Numeral.digitValue? after
      let size : Int := Decimal.ofDigits digits
      return (places, if negative then -size else size, after)
    else if places = [] then none
    else return (places, 0, rest)
  | [] => if places = [] then none else return (places, 0, [])

def decimal? (text : List Char) : Option (Toml × List Char) :=
  let (negative, unsigned) := sign text
  match unsigned with
  | 'i' :: 'n' :: 'f' :: rest => some (.float, rest)
  | 'n' :: 'a' :: 'n' :: rest => some (.float, rest)
  | _ => do
    let (integral, rest) ← integral? unsigned
    match fractional? rest with
    | some (places, exponent, after) =>
      if negative || (Decimal.ofParts integral places exponent).fitsDouble then
        return (.float, after)
      else none
    | none =>
      let size : Int := Decimal.ofDigits integral
      let value ← inRange? (if negative then -size else size)
      return (value, rest)

def number? (text : List Char) : Option (Toml × List Char) :=
  match text with
  | '0' :: 'x' :: rest => based? 16 rest
  | '0' :: 'o' :: rest => based? 8 rest
  | '0' :: 'b' :: rest => based? 2 rest
  | _ => decimal? text

/-! ## Dates and times -/

/-- The number that exactly `count` digits at the front of a text write, if it lies between two
bounds, and the text after them. -/
def fixedDigits? (count low high : Nat) (text : List Char) : Option (Nat × List Char) := do
  if text.length < count then none
  let digits ← (text.take count).mapM Numeral.digitValue?
  let value := Decimal.ofDigits digits
  if low ≤ value ∧ value ≤ high then some (value, text.drop count) else none

/-- The text after a character, if it starts with it. -/
def pass? (c : Char) : List Char → Option (List Char)
  | first :: rest => if first = c then some rest else none
  | [] => none

def daysOfMonth (year month : Nat) : Nat :=
  if month = 2 then
    if year % 4 = 0 ∧ (year % 100 ≠ 0 ∨ year % 400 = 0) then 29 else 28
  else if month = 4 ∨ month = 6 ∨ month = 9 ∨ month = 11 then 30
  else 31

def date? (text : List Char) : Option (List Char) := do
  let (year, rest) ← fixedDigits? 4 0 9999 text
  let (month, rest) ← fixedDigits? 2 1 12 (← pass? '-' rest)
  let (_, rest) ← fixedDigits? 2 1 (daysOfMonth year month) (← pass? '-' rest)
  return rest

def time? (text : List Char) : Option (List Char) := do
  let (_, rest) ← fixedDigits? 2 0 23 text
  let (_, rest) ← fixedDigits? 2 0 59 (← pass? ':' rest)
  let (_, rest) ← fixedDigits? 2 0 60 (← pass? ':' rest)
  match rest with
  | '.' :: fraction =>
    match fraction.takeWhile Char.isDigit with
    | [] => none
    | _ => return fraction.dropWhile Char.isDigit
  | _ => return rest

/-- The text after an offset from universal time. -/
def offset? (text : List Char) : Option (List Char) :=
  match text with
  | [] => none
  | c :: rest =>
    if c = 'Z' ∨ c = 'z' then some rest
    else if c = '+' ∨ c = '-' then do
      let (_, rest) ← fixedDigits? 2 0 23 rest
      let (_, rest) ← fixedDigits? 2 0 59 (← pass? ':' rest)
      return rest
    else none

/-- The text after a date, a date with a time and perhaps an offset, or a time of day. -/
def datetime? (text : List Char) : Option (List Char) :=
  match date? text with
  | some rest =>
    match rest with
    | c :: clock =>
      if c = 'T' ∨ c = 't' ∨ c = ' ' then
        match time? clock with
        | some after => some ((offset? after).getD after)
        | none => some rest
      else some rest
    | [] => some []
  | none => time? text

def scalar (text : List Char) : Option (Toml × List Char) :=
  match text with
  | 't' :: 'r' :: 'u' :: 'e' :: rest => some (.boolean true, rest)
  | 'f' :: 'a' :: 'l' :: 's' :: 'e' :: rest => some (.boolean false, rest)
  | '"' :: _ | '\'' :: _ =>
    (anyString? text).map fun (content, after) => (.string (String.ofList content), after)
  | _ =>
    match datetime? text with
    | some rest => some (.datetime, rest)
    | none => number? text

end SeriesQuery.Toml
