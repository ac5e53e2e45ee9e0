set_option autoImplicit false

/-!
# Binary numbers

Quotients of natural numbers rounded to whole numbers, and rounded to the 53 significant bits of an
IEEE double. A double is a whole number below 2^53 times a power of two, so it is kept as such a
pair and computed with exactly. Rounding sets no bound on the power of two: a result above the range
of doubles is one that is not `isFinite`, and results below it do not arise.
-/

namespace SeriesQuery

/-- The whole number nearest to `num / den`; a tie goes to the even one. -/
def roundHalfEven (num den : Nat) : Nat :=
  let floor := num / den
  let twice := 2 * (num % den)
  if twice < den then floor
  else if den < twice then floor + 1
  else if floor % 2 = 0 then floor
  else floor + 1

/-- The whole number nearest to `num / den`; a tie goes up. -/
def roundHalfUp (num den : Nat) : Nat :=
  (2 * num + den) / (2 * den)

/-- A nonnegative binary number: `mantissa` times two to the power `up`, divided by two to the power
`down`. -/
structure Binary where
  mantissa : Nat
  up : Nat
  down : Nat
  deriving DecidableEq, Repr

/-- The numerator of a binary number over two to the power `down`. -/
def Binary.num (number : Binary) : Nat :=
  number.mantissa <<< number.up

def Binary.den (number : Binary) : Nat :=
  1 <<< number.down

/-- The power of two, as a difference of two exponents, at which `num / den` has 53 bits before the
binary point. -/
def unitOf (num den : Nat) : Nat × Nat :=
  let guess : Int := (num.log2 : Int) - (den.log2 : Int) - 52
  let unit :=
    if num <<< (-guess).toNat < den <<< (guess.toNat + 52) then guess - 1 else guess
  (unit.toNat, (-unit).toNat)

/-- The double nearest to `num / den`; a tie goes to the even mantissa. -/
def Binary.nearest (num den : Nat) : Binary :=
  if num = 0 then ⟨0, 0, 0⟩
  else
    let (up, down) := unitOf num den
    ⟨roundHalfEven (num <<< down) (den <<< up), up, down⟩

def Binary.ofNat (value : Nat) : Binary :=
  nearest value 1

def Binary.div (left right : Binary) : Binary :=
  nearest (left.num * right.den) (left.den * right.num)

def Binary.mul (left right : Binary) : Binary :=
  nearest (left.num * right.num) (left.den * right.den)

/-- Whether a rounded number does not lie above the greatest double. -/
def Binary.isFinite (number : Binary) : Bool :=
  number.num < number.den <<< 1024

/-- The whole number nearest to a double; a tie goes up. -/
def Binary.round (number : Binary) : Nat :=
  roundHalfUp number.num number.den

end SeriesQuery
