import SeriesQuery.Json.Decode
import SeriesQuery.Toml.Value

set_option autoImplicit false

/-!
# Formats that settings are written in

What the reader of settings needs from a format: how a value is told to be a text, an integer, a
truth value or a list, how the members of a record are found, and how a word of a closed set is
read. JSON and TOML are such formats. They differ in that JSON refuses repeated members and overlong
records, where TOML has no repeated members and passes over what is too much.
-/

namespace SeriesQuery.Settings

/-- A format for settings with values of type `Value`. -/
structure Format (Value : Type) where
  text? : Value → Option String
  int? : Value → Option Int
  bool? : Value → Option Bool
  /-- The items of the list that a value is. -/
  items? : Value → Option (List Value)
  /-- The member of each name of the record that a value is, where it is there. -/
  members? : List String → Value → Option (List (Option Value))
  word? : Value → Option String

/-- A word in JSON: a string, or an object whose only member has the word as its key and is null. -/
def jsonWord? : Json → Option String
  | .string content => content
  | .object [(key, .null)] => key
  | _ => none

def Format.json : Format Json where
  text? := Json.toText?
  int? := Json.toInt?
  bool? := Json.toBool?
  items? := Json.toList? some
  members? names := Json.record? names 0
  word? := jsonWord?

def tomlText? : Toml → Option String
  | .string content => some content
  | _ => none

def tomlInt? : Toml → Option Int
  | .integer value => some value
  | _ => none

def tomlBool? : Toml → Option Bool
  | .boolean value => some value
  | _ => none

def tomlItems? : Toml → Option (List Toml)
  | .array items => some items
  | _ => none

/-- The members of a TOML record: the entries of a table, or the items of an array in order. A date
counts as a record without any of the members. -/
def tomlMembers? (names : List String) : Toml → Option (List (Option Toml))
  | .table entries => some (names.map fun name => entries.lookup name)
  | .array items => some ((List.range names.length).map fun place => items[place]?)
  | .datetime => some (names.map fun _ => none)
  | _ => none

/-- A word in TOML: a string, or a table whose only entry has the word as its key and is an empty
table or array. -/
def tomlWord? : Toml → Option String
  | .string content => some content
  | .table [(key, .table [])] => some key
  | .table [(key, .array [])] => some key
  | _ => none

def Format.toml : Format Toml where
  text? := tomlText?
  int? := tomlInt?
  bool? := tomlBool?
  items? := tomlItems?
  members? := tomlMembers?
  word? := tomlWord?

end SeriesQuery.Settings
