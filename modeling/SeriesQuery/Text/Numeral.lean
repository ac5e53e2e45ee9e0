set_option autoImplicit false

/-!
# Decimal numerals

Integers in decimal digits of ASCII. Reading takes any number of leading zeros and an optional sign:
a plus sign always, a minus sign only where negative values exist. Writing gives the shortest
numeral, with no plus sign.
-/

namespace SeriesQuery.Text.Numeral

def digitValue? (c : Char) : Option Nat :=
  if '0' ≤ c ∧ c ≤ '9' then some (c.toNat - '0'.toNat) else none

/-- The value of digits read after `sofar`. -/
def digitsFrom? (sofar : Nat) : List Char → Option Nat
  | [] => some sofar
  | c :: rest =>
    match digitValue? c with
    | some value => digitsFrom? (sofar * 10 + value) rest
    | none => none

def digits? (text : List Char) : Option Nat :=
  if text = [] then none else digitsFrom? 0 text

/-- A natural number below `bound`, with an optional plus sign. -/
def natural? (bound : Nat) (text : List Char) : Option Nat :=
  let digits := match text with
    | '+' :: rest => rest
    | _ => text
  (digits? digits).filter (· < bound)

/-- An integer, with an optional sign. -/
def integer? (text : List Char) : Option Int :=
  match text with
  | '-' :: rest => (digits? rest).map fun value => -(value : Int)
  | '+' :: rest => (digits? rest).map fun value => (value : Int)
  | _ => (digits? text).map fun value => (value : Int)

/-- The least and greatest value of a signed 64-bit number. -/
def inInt64 (value : Int) : Bool :=
  -9223372036854775808 ≤ value && value ≤ 9223372036854775807

def int64? (text : List Char) : Option Int64 :=
  ((integer? text).filter inInt64).map Int64.ofInt

def digit (value : Nat) : Char :=
  Char.ofNat ('0'.toNat + value)

/-- A natural number in decimal, with no leading zero unless it is zero. -/
def ofNat (value : Nat) : List Char :=
  if value < 10 then [digit value] else ofNat (value / 10) ++ [digit (value % 10)]
decreasing_by omega

/-- An integer in decimal, with a minus sign if it is negative. -/
def ofInt (value : Int) : List Char :=
  if value < 0 then '-' :: ofNat value.natAbs else ofNat value.natAbs

def natText (value : Nat) : String := String.ofList (ofNat value)

def int64Text (value : Int64) : String := String.ofList (ofInt value.toInt)

end SeriesQuery.Text.Numeral
