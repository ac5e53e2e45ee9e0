import SeriesQuery.Text.Utf8

set_option autoImplicit false

/-!
# Percent-encoding

A percent sign and two hexadecimal digits stand for a byte; every other character stands for its own
bytes. A percent sign without two digits after it stands for itself.
-/

namespace SeriesQuery.Text.Percent

/-- The value of a hexadecimal digit of either case. -/
def hexValue? (c : Char) : Option Nat :=
  if '0' ≤ c ∧ c ≤ '9' then some (c.toNat - '0'.toNat)
  else if 'a' ≤ c ∧ c ≤ 'f' then some (c.toNat - 'a'.toNat + 10)
  else if 'A' ≤ c ∧ c ≤ 'F' then some (c.toNat - 'A'.toNat + 10)
  else none

def byte? (high low : Char) : Option UInt8 :=
  match hexValue? high, hexValue? low with
  | some high, some low => some (UInt8.ofNat (high * 16 + low))
  | _, _ => none

/-- The bytes that pairs of hexadecimal digits write, up to the first pair that is not one. -/
def ofHex : List Char → List UInt8
  | high :: low :: rest =>
    match byte? high low with
    | some byte => byte :: ofHex rest
    | none => []
  | _ => []

/-- The bytes that a percent-encoded text stands for. -/
def decode : List Char → List UInt8
  | [] => []
  | '%' :: high :: low :: rest =>
    match byte? high low with
    | some byte => byte :: decode rest
    | none => Utf8.encode ['%'] ++ decode (high :: low :: rest)
  | c :: rest => Utf8.encode [c] ++ decode rest

/-- The hexadecimal digit of a value below sixteen, in the given case. -/
def hexDigit (upper : Bool) (value : Nat) : Char :=
  if value < 10 then Char.ofNat ('0'.toNat + value)
  else if upper then Char.ofNat ('A'.toNat + (value - 10))
  else Char.ofNat ('a'.toNat + (value - 10))

/-- A byte as a percent sign and two hexadecimal digits. -/
def encodeByte (upper : Bool) (byte : UInt8) : List Char :=
  ['%', hexDigit upper (byte.toNat / 16), hexDigit upper (byte.toNat % 16)]

end SeriesQuery.Text.Percent
