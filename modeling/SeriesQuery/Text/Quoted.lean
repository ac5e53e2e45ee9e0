import SeriesQuery.Text.Shapeless

set_option autoImplicit false

/-!
# Quoted text

A text between double quotes on one line. The quote and the backslash are escaped by a backslash,
four controls by a letter, and all other characters without a shape of their own by their code
point in hexadecimal; what is left stands as it is.
-/

namespace SeriesQuery.Text.Quoted

/-- A code point in braces, in lower-case hexadecimal. -/
def codePoint (c : Char) : List Char :=
  "\\u\x7b".toList ++ Nat.toDigits 16 c.toNat ++ ['\x7d']

def escape (c : Char) : List Char :=
  if c = '"' then ['\\', '"']
  else if c = '\\' then ['\\', '\\']
  else if c = '\n' then ['\\', 'n']
  else if c = '\r' then ['\\', 'r']
  else if c = '\t' then ['\\', 't']
  else if c = '\x00' then ['\\', '0']
  else if isShapeless c then codePoint c
  else [c]

def quote (text : String) : String :=
  String.ofList ('"' :: text.toList.flatMap escape ++ ['"'])

end SeriesQuery.Text.Quoted
