import SeriesQuery.Text.Numeral
import SeriesQuery.Text.Percent
import SeriesQuery.Text.Split

set_option autoImplicit false

/-!
# Endpoints

An endpoint is an address of the Internet Protocol with a port, written `1.2.3.4:80` or `[::1]:80`.
Only addresses can be written, not names. In version 4 the four numbers have no leading zeros. In
version 6 there are eight groups of hexadecimal digits; two colons stand for one or more groups of
zero, and the last two groups may be written as an address of version 4.
-/

namespace SeriesQuery.Http

open SeriesQuery.Text

inductive Address where
  /-- Version 4, by its four numbers. -/
  | four (numbers : List UInt8)
  /-- Version 6, by its eight groups and the zone that it belongs to. -/
  | six (groups : List UInt16) (zone : UInt32)
  deriving DecidableEq, Repr

structure Endpoint where
  address : Address
  port : UInt16
  deriving DecidableEq, Repr

namespace Address

/-- A number of an address of version 4: at most three digits, with no leading zero unless it is
zero. -/
def number? (text : List Char) : Option UInt8 :=
  if 3 < text.length ∨ (text.head? = some '0' ∧ text.length ≠ 1) then none
  else ((Numeral.digits? text).filter (· < 256)).map UInt8.ofNat

/-- The four numbers of an address of version 4. -/
def numbers? (text : List Char) : Option (List UInt8) :=
  ((pieces '.' text).mapM number?).filter fun numbers => numbers.length = 4

def hexDigits? (text : List Char) : Option Nat :=
  text.foldlM (fun value c => (Percent.hexValue? c).map fun digit => value * 16 + digit) 0

/-- A group of an address of version 6: one to four hexadecimal digits. -/
def group? (text : List Char) : Option UInt16 :=
  if text = [] ∨ 4 < text.length then none else (hexDigits? text).map UInt16.ofNat

/-- The last group, or the last two as an address of version 4. -/
def lastGroups? (text : List Char) : Option (List UInt16) :=
  match group? text, numbers? text with
  | some group, _ => some [group]
  | none, some [first, second, third, fourth] =>
    some [first.toUInt16 * 256 + second.toUInt16, third.toUInt16 * 256 + fourth.toUInt16]
  | none, _ => none

/-- Groups with a colon between them, the last two in either way of writing. -/
def groupsOf? : List (List Char) → Option (List UInt16)
  | [] => some []
  | [last] => lastGroups? last
  | first :: rest => do return (← group? first) :: (← groupsOf? rest)

/-- Groups that stand next to two colons, of which there may be none. -/
def sideGroups (text : List Char) : List (List Char) :=
  if text = [] then [] else pieces ':' text

/-- The text before the first two colons and, if there are any, the text after them. -/
def cutColons : List Char → List Char × Option (List Char)
  | ':' :: ':' :: rest => ([], some rest)
  | [] => ([], none)
  | c :: rest => (c :: (cutColons rest).1, (cutColons rest).2)

/-- The eight groups of an address of version 6. -/
def groups? (text : List Char) : Option (List UInt16) :=
  match cutColons text with
  | (_, none) => (groupsOf? (pieces ':' text)).filter fun groups => groups.length = 8
  | (before, some after) => do
    let head ← (sideGroups before).mapM group?
    let tail ← groupsOf? (sideGroups after)
    let left := 8 - (head.length + tail.length)
    if left = 0 then none else return head ++ List.replicate left 0 ++ tail

/-- An address of version 6, with its zone after a percent sign if it has one. -/
def six? (text : List Char) : Option Address := do
  let (groups, zone) := cut '%' text
  let zone ← match zone with
    | none => some 0
    | some zone => (Numeral.digits? zone).filter (· < UInt32.size)
  return .six (← groups? groups) (UInt32.ofNat zone)

end Address

namespace Endpoint

def port? (text : List Char) : Option UInt16 :=
  ((Numeral.digits? text).filter (· < UInt16.size)).map UInt16.ofNat

def ofText? (text : String) : Option Endpoint :=
  match text.toList with
  | '[' :: rest =>
    match cut ']' rest with
    | (address, some (':' :: port)) => do return ⟨← Address.six? address, ← port? port⟩
    | _ => none
  | text =>
    match cut ':' text with
    | (address, some port) => do return ⟨.four (← Address.numbers? address), ← port? port⟩
    | _ => none

end Endpoint

end SeriesQuery.Http
