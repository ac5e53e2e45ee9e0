import SeriesQuery.Binary
import SeriesQuery.Series.Align

set_option autoImplicit false

/-!
# Ratios in percent

A ratio of two values is computed in doubles: the quotient is rounded, then a hundred times it is
rounded, and the result goes to the nearest whole number, ties away from zero, within the range of
64 bits. A ratio to zero is 0. Two series are aligned to the same seconds, each on its own, and then
divided point by point.
-/

namespace SeriesQuery.Series

/-- The nearest value within the range of signed 64-bit numbers. -/
def clamp (value : Int) : Int64 :=
  Int64.ofInt (max (-9223372036854775808) (min 9223372036854775807 value))

/-- A hundred times the quotient of two absolute values, in doubles, to the nearest whole number. -/
def percentOfAbs (numerator denominator : Nat) : Nat :=
  (((Binary.ofNat numerator).div (Binary.ofNat denominator)).mul (Binary.ofNat 100)).round

/-- The percentage that `numerator` is of `denominator`; 0 if the denominator is zero. -/
def ratioPercent (numerator denominator : Int64) : Int64 :=
  if denominator = 0 then 0
  else
    let size := percentOfAbs numerator.toInt.natAbs denominator.toInt.natAbs
    if (numerator < 0) = (denominator < 0) then clamp size else clamp (-size)

def ratioSeries (numerator denominator : List Point) (start : Int64) (count : Nat) : List Point :=
  let wanted := targets start count
  let ratios := List.zipWith ratioPercent (valuesAt numerator wanted) (valuesAt denominator wanted)
  List.zipWith Point.mk wanted ratios

end SeriesQuery.Series
