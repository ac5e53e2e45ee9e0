import SeriesQuery.Json.Reader
import SeriesQuery.Text.Numeral

set_option autoImplicit false

/-!
# Typed data in JSON

How records are read from JSON. A record is an object with named members, each known name at most
once and unknown names passed over, or an array of the members in order. Integers must be written
as integers and lie in range.
-/

namespace SeriesQuery.Json

def toText? : Json → Option String
  | .string content => content
  | _ => none

def toInt? : Json → Option Int
  | .number written => written.toInt?
  | _ => none

def toInt64? (json : Json) : Option Int64 :=
  (json.toInt?.filter Text.Numeral.inInt64).map Int64.ofInt

def toBool? : Json → Option Bool
  | .bool value => some value
  | _ => none

/-- An optional member: null stands for an absent one. -/
def toOption? {Value : Type} (read : Json → Option Value) : Json → Option (Option Value)
  | .null => some none
  | json => (read json).map some

def toList? {Value : Type} (read : Json → Option Value) : Json → Option (List Value)
  | .array items => items.mapM read
  | _ => none

/-- The values of the members called `name`. -/
def membersNamed (name : String) (members : List (Option String × Json)) : List Json :=
  (members.filter (·.1 == some name)).map Prod.snd

/-- The member of each name, if it is there. An object is refused if a known name stands in it twice
or a key has no text. An array is refused if it has more items than there are names, or fewer than
`least`. -/
def record? (names : List String) (least : Nat) : Json → Option (List (Option Json))
  | .object members =>
    if members.any (·.1.isNone) then none
    else names.mapM fun name =>
      match membersNamed name members with
      | [] => some none
      | [value] => some (some value)
      | _ :: _ :: _ => none
  | .array items =>
    if names.length < items.length ∨ items.length < least then none
    else some ((List.range names.length).map fun place => items[place]?)
  | _ => none

/-- A member that may be left out, with the value that stands for it then; the same in every
format. -/
def orDefault {Raw Value : Type} (fallback : Value) (read : Raw → Option Value) :
    Option Raw → Option Value
  | none => some fallback
  | some raw => read raw

mutual

/-- How deep arrays and objects are nested in a value. -/
def depth : Json → Nat
  | .array items => 1 + depthOfItems items
  | .object members => 1 + depthOfMembers members
  | _ => 0

def depthOfItems : List Json → Nat
  | [] => 0
  | item :: rest => max (depth item) (depthOfItems rest)

def depthOfMembers : List (Option String × Json) → Nat
  | [] => 0
  | (_, value) :: rest => max (depth value) (depthOfMembers rest)

end

mutual

/-- Whether every string of a value has a text and every number lies in the range of doubles. -/
def isPlain : Json → Bool
  | .number written => written.isFinite
  | .string content => content.isSome
  | .array items => arePlainItems items
  | .object members => arePlainMembers members
  | _ => true

def arePlainItems : List Json → Bool
  | [] => true
  | item :: rest => isPlain item && arePlainItems rest

/-- Whether all members of an object are plain, keys included. -/
def arePlainMembers : List (Option String × Json) → Bool
  | [] => true
  | (key, value) :: rest => key.isSome && isPlain value && arePlainMembers rest

end

end SeriesQuery.Json
