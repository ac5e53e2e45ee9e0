import SeriesQuery.Binary

set_option autoImplicit false

/-!
# Decimal fractions

A number written with a decimal point or an exponent, as the digits that are written and a power of
ten, and whether its magnitude stays within the range of IEEE doubles. There are two ways to read
it: exactly, with one rounding at the end, or by its leading digits as a product of two doubles. At
the end of the range they differ.
-/

namespace SeriesQuery.Text

/-- The magnitude of a written number: `significand` times ten to the power `exponent`. -/
structure Decimal where
  /-- All digits, those of the fraction among them, as one number. -/
  significand : Nat
  /-- The exponent, less the number of digits of the fraction. -/
  exponent : Int
  deriving DecidableEq, Repr

namespace Decimal

/-- The number that digits write, the first one the most significant. -/
def ofDigits (digits : List Nat) : Nat :=
  digits.foldl (fun sofar digit => sofar * 10 + digit) 0

/-- The magnitude that integral digits, the digits of a fraction and an exponent write. -/
def ofParts (integral fraction : List Nat) (exponent : Int) : Decimal where
  significand := ofDigits (integral ++ fraction)
  exponent := exponent - fraction.length

/-- The least magnitude that rounds beyond the greatest double. -/
def beyondDouble : Nat :=
  (1 <<< 1024) - (1 <<< 970)

/-- Whether a magnitude rounds to a double. Magnitudes far from the greatest double are told apart
by their exponents, so that no great power of ten is computed. -/
def fitsDouble (decimal : Decimal) : Bool :=
  let digits := decimal.significand.log2 / 3 + 1
  if decimal.significand = 0 then true
  else if decimal.exponent > 310 then false
  else if decimal.exponent + digits < 300 then true
  else
    decimal.significand * Nat.pow 10 decimal.exponent.toNat <
      beyondDouble * Nat.pow 10 (-decimal.exponent).toNat

/-- The magnitude without the last digits for which 64 bits have no room. -/
def shorten (decimal : Decimal) : Decimal :=
  if decimal.significand < UInt64.size then decimal
  else shorten ⟨decimal.significand / 10, decimal.exponent + 1⟩
termination_by decimal.significand
decreasing_by
  rename_i large
  have : 0 < UInt64.size := by decide
  omega

theorem shorten_of_lt {decimal : Decimal} (small : decimal.significand < UInt64.size) :
    decimal.shorten = decimal := by
  rw [shorten, if_pos small]

/-- Whether a magnitude is a double when it is read as a product: the digits that 64 bits hold times
the power of ten, each rounded to a double. Those digits alone never leave the range, and neither
does a quotient of them. -/
def fitsProduct (decimal : Decimal) : Bool :=
  let short := decimal.shorten
  if short.significand = 0 then true
  else if 308 < short.exponent then false
  else if short.exponent ≤ 0 then true
  else
    ((Binary.ofNat short.significand).mul
      (Binary.ofNat (Nat.pow 10 short.exponent.toNat))).isFinite

end Decimal

end SeriesQuery.Text
