import SeriesQuery.Json.Value
import SeriesQuery.Text.Numeral
import SeriesQuery.Text.Percent

set_option autoImplicit false

/-!
# Writing JSON

The compact text of a value: no blanks, members in order. In a string the quote, the backslash and
control characters are escaped, the last by a letter if they have one and by four lower-case
hexadecimal digits if not; all other characters stand as they are.
-/

namespace SeriesQuery.Json

open SeriesQuery.Text

def printChar (c : Char) : List Char :=
  if c = '"' then ['\\', '"']
  else if c = '\\' then ['\\', '\\']
  else if c = '\x08' then ['\\', 'b']
  else if c = '\x0c' then ['\\', 'f']
  else if c = '\n' then ['\\', 'n']
  else if c = '\r' then ['\\', 'r']
  else if c = '\t' then ['\\', 't']
  else if c.toNat < 0x20 then
    ['\\', 'u', '0', '0', Percent.hexDigit false (c.toNat / 16),
      Percent.hexDigit false (c.toNat % 16)]
  else [c]

def printText (text : String) : List Char :=
  '"' :: text.toList.flatMap printChar ++ ['"']

/-- A number. The numbers that are written are integers. -/
def printNumber (number : Number) : List Char :=
  (if number.negative then ['-'] else []) ++ Numeral.ofNat number.magnitude.significand

def commaSeparated (pieces : List (List Char)) : List Char :=
  [','].intercalate pieces

mutual

def print : Json → List Char
  | .null => "null".toList
  | .bool value => if value then "true".toList else "false".toList
  | .number written => printNumber written
  | .string content => printText (content.getD "")
  | .array items => '[' :: commaSeparated (printItems items) ++ [']']
  | .object members => '\x7b' :: commaSeparated (printMembers members) ++ ['\x7d']

def printItems : List Json → List (List Char)
  | [] => []
  | item :: rest => print item :: printItems rest

def printMembers : List (Option String × Json) → List (List Char)
  | [] => []
  | (key, value) :: rest =>
    (printText (key.getD "") ++ ':' :: print value) :: printMembers rest

end

def compact (json : Json) : String :=
  String.ofList (print json)

end SeriesQuery.Json
