import SeriesQuery.Toml.Scalar
import SeriesQuery.Toml.Section

set_option autoImplicit false

/-!
# Reading TOML

A document is a list of lines: blank ones, comments, headers, and pairs of a key and a value, of
which an array or a multi-line string may go on over further lines. The lines make sections and the
sections make tables.
-/

namespace SeriesQuery.Toml

/-- The text after a comment, if it starts with one: its line end is not taken. -/
def skipComment : List Char → List Char
  | '#' :: rest => rest.dropWhile isPlain
  | text => text

/-- The text after blanks, comments and line ends, at most `limit` lines of them. A comment has to
reach to a line end. -/
def skipLines (limit : Nat) (text : List Char) : List Char :=
  match limit with
  | 0 => text
  | limit + 1 =>
    let text := skipBlanks text
    match lineEnd? (skipComment text) with
    | some after => skipLines limit after
    | none => text

/-- The rest of a line after a header or a pair: blanks, perhaps a comment, and a line end or the
end of the text. -/
def restOfLine? (text : List Char) : Option (List Char) :=
  match skipComment (skipBlanks text) with
  | [] => some []
  | rest => lineEnd? rest

/-! ## Values -/

/-- The items of an array up to its closing bracket. A comma may stand after the last item. The
limit bounds the number of items. -/
def items? (value? : List Char → Option (Toml × List Char)) (limit : Nat) (text : List Char) :
    Option (List Toml × List Char) :=
  match limit with
  | 0 => none
  | limit + 1 =>
    match skipLines text.length text with
    | ']' :: after => some ([], after)
    | text => do
      let (item, rest) ← value? text
      match skipLines rest.length rest with
      | ']' :: after => return ([item], after)
      | ',' :: rest =>
        let (items, after) ← items? value? limit rest
        return (item :: items, after)
      | _ => none

def pair? (value? : List Char → Option (Toml × List Char)) (text : List Char) :
    Option ((List String × Toml) × List Char) := do
  let (path, rest) ← key? text
  match rest with
  | '=' :: rest =>
    let (value, after) ← value? (skipBlanks rest)
    return ((path, value), after)
  | _ => none

/-- The pairs of an inline table up to its closing brace. They are separated by commas, all on one
line. The limit bounds the number of pairs. -/
def pairs? (value? : List Char → Option (Toml × List Char)) (limit : Nat) (text : List Char) :
    Option (List (List String × Toml) × List Char) :=
  match limit with
  | 0 => none
  | limit + 1 => do
    let (pair, rest) ← pair? value? text
    match skipBlanks rest with
    | '\x7d' :: after => return ([pair], after)
    | ',' :: rest =>
      let (pairs, after) ← pairs? value? limit rest
      return (pair :: pairs, after)
    | _ => none

/-- A value with at most `depth` arrays and inline tables nested in each other. -/
def value? (depth : Nat) (text : List Char) : Option (Toml × List Char) :=
  match depth, text with
  | 0, '[' :: _ => none
  | 0, '\x7b' :: _ => none
  | depth + 1, '[' :: rest =>
    (items? (value? depth) (rest.length + 1) rest).map fun (items, after) => (.array items, after)
  | depth + 1, '\x7b' :: rest =>
    match skipBlanks rest with
    | '\x7d' :: after => some (.table [], after)
    | rest => do
      let (pairs, after) ← pairs? (value? depth) (rest.length + 1) rest
      let table ← inlineTable? pairs
      return (table, after)
  | _, text => scalar text

/-! ## Lines -/

inductive Line where
  | header (header : Header)
  | pair (path : List String) (value : Toml)

/-- The header of a key: its last part is the name, the others are the path to it. -/
def header? (make : List String → String → Header) (path : List String) : Option Header :=
  path.getLast?.map (make path.dropLast)

/-- The line that a text starts with, and the text after it. -/
def line? (text : List Char) : Option (Line × List Char) :=
  match text with
  | '[' :: '[' :: rest => do
    let (path, rest) ← key? rest
    match rest with
    | ']' :: ']' :: rest => return (.header (← header? .item path), ← restOfLine? rest)
    | _ => none
  | '[' :: rest => do
    let (path, rest) ← key? rest
    match rest with
    | ']' :: rest => return (.header (← header? .table path), ← restOfLine? rest)
    | _ => none
  | _ => do
    let ((path, value), rest) ← pair? (value? depthLimit) text
    return (.pair path value, ← restOfLine? rest)

/-- The lines of a document, at most `limit` of them. A comment may end with the text. -/
def lines? (limit : Nat) (text : List Char) : Option (List Line) :=
  match skipLines text.length text with
  | [] => some []
  | '#' :: rest => if rest.all isPlain then some [] else none
  | text =>
    match limit with
    | 0 => none
    | limit + 1 => do
      let (line, rest) ← line? text
      let lines ← lines? limit rest
      return line :: lines

/-- The sections of lines, with the pairs of the first in `pairs`, the latest first. -/
def toSections (header : Header) (pairs : List (List String × Toml)) : List Line → List Section
  | [] => [⟨header, pairs.reverse⟩]
  | .header next :: rest => ⟨header, pairs.reverse⟩ :: toSections next [] rest
  | .pair path value :: rest => toSections header ((path, value) :: pairs) rest

/-- A text without the byte order mark at its front. -/
def withoutMark : List Char → List Char
  | '\uFEFF' :: rest => rest
  | text => text

def read? (text : List Char) : Option Toml := do
  let text := withoutMark text
  let lines ← lines? text.length text
  ofSections? (toSections .root [] lines)

end SeriesQuery.Toml
