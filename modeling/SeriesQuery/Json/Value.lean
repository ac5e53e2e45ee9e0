import SeriesQuery.Text.Decimal

set_option autoImplicit false

/-!
# JSON values

A JSON text as a value, with what a reader of typed data has to know about it: numbers as written,
members of an object in order with repeats, and strings that do not write a text: their escapes
leave a surrogate alone, or their bytes are ill-formed.
-/

namespace SeriesQuery

structure Json.Number where
  /-- Whether it is written with a minus sign. -/
  negative : Bool
  magnitude : Text.Decimal
  /-- Whether it has neither a fraction nor an exponent. -/
  plain : Bool
  deriving DecidableEq, Repr

/-- A JSON value. A string has no text if its escapes or its bytes write none. -/
inductive Json where
  | null
  | bool (value : Bool)
  | number (number : Json.Number)
  | string (text : Option String)
  | array (items : List Json)
  | object (members : List (Option String × Json))
  deriving Repr

namespace Json

def ofText (text : String) : Json :=
  .string (some text)

/-- The string value of an optional text; null if it is absent. -/
def ofText? : Option String → Json
  | none => .null
  | some value => ofText value

def ofInt (value : Int) : Json :=
  .number ⟨value < 0, ⟨value.natAbs, 0⟩, true⟩

def ofInt64 (value : Int64) : Json :=
  ofInt value.toInt

def ofMembers (members : List (String × Json)) : Json :=
  .object (members.map fun (name, value) => (some name, value))

/-- The integer that a number writes. A number with a fraction or an exponent writes none, and
neither does `-0`. -/
def Number.toInt? (number : Number) : Option Int :=
  let size := number.magnitude.significand
  if !number.plain || (number.negative && size == 0) then none
  else some (if number.negative then -(size : Int) else size)

/-- Whether the value of a number, read as a product, stays within the range of IEEE doubles. -/
def Number.isFinite (number : Number) : Bool :=
  number.magnitude.fitsProduct

end Json

end SeriesQuery
