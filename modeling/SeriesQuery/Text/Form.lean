import SeriesQuery.Text.Percent
import SeriesQuery.Text.Split

set_option autoImplicit false

/-!
# Form-encoded pairs

The `application/x-www-form-urlencoded` reading of a query string: pairs are separated by `&`, a
name ends at the first `=`, a plus sign stands for a space, and bytes may be percent-encoded. Bytes
that are not UTF-8 are read leniently, so that every text has a reading. Empty pieces hold no pair.
-/

namespace SeriesQuery.Text.Form

/-- A name or a value: plus signs become spaces before percent-decoding. -/
def component (text : List Char) : List Char :=
  Utf8.decodeLenient (Percent.decode (text.map fun c => if c = '+' then ' ' else c))

/-- One pair. Without `=` the value is empty. -/
def pair (piece : List Char) : List Char × List Char :=
  let (name, value) := cut '=' piece
  (component name, component (value.getD []))

def pairs (query : List Char) : List (List Char × List Char) :=
  ((pieces '&' query).filter (· ≠ [])).map pair

/-- Whether a byte stands for itself in the written form: ASCII letters and digits, `*`, `-`, `.`
and `_`. -/
def isPlain (byte : UInt8) : Bool :=
  (0x30 ≤ byte && byte ≤ 0x39) || (0x41 ≤ byte && byte ≤ 0x5A) || (0x61 ≤ byte && byte ≤ 0x7A) ||
    byte == 0x2A || byte == 0x2D || byte == 0x2E || byte == 0x5F

/-- A name or a value in written form: a space as a plus sign, every byte that is not plain
percent-encoded. -/
def encodeComponent (text : List Char) : List Char :=
  (Utf8.encode text).flatMap fun byte =>
    if byte = 0x20 then ['+']
    else if isPlain byte then [Char.ofNat byte.toNat]
    else Percent.encodeByte true byte

def encodePair (pair : List Char × List Char) : List Char :=
  encodeComponent pair.1 ++ '=' :: encodeComponent pair.2

/-- Pairs in written form, in order. -/
def encodePairs (pairs : List (List Char × List Char)) : List Char :=
  ['&'].intercalate (pairs.map encodePair)

end SeriesQuery.Text.Form
