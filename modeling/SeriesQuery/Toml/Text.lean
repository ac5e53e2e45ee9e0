import SeriesQuery.Text.Percent

set_option autoImplicit false

/-!
# TOML strings and keys

The four forms of a string and the parts of a key. Each reader takes the text after the opening
quote and answers with what the string holds and the text after its end. Line ends inside multi-line
strings are read as line feeds.
-/

namespace SeriesQuery.Toml

open SeriesQuery.Text

def isBlank (c : Char) : Bool :=
  c == ' ' || c == '\t'

def skipBlanks (text : List Char) : List Char :=
  text.dropWhile isBlank

/-- Whether a character may stand in a comment or, quotes and backslashes apart, in a string: a tab,
or any character that is not a control character of ASCII. -/
def isPlain (c : Char) : Bool :=
  c == '\t' || (0x20 ≤ c.toNat && c.toNat != 0x7F)

/-- The text after a line end, if it starts with one. -/
def lineEnd? : List Char → Option (List Char)
  | '\n' :: rest => some rest
  | '\r' :: '\n' :: rest => some rest
  | _ => none

def escaped? : Char → Option Char
  | 'b' => some '\x08'
  | 't' => some '\t'
  | 'n' => some '\n'
  | 'f' => some '\x0c'
  | 'r' => some '\r'
  | '"' => some '"'
  | '\\' => some '\\'
  | _ => none

def hexNumber? (digits : List Char) : Option Nat :=
  digits.foldlM (fun sofar digit => (Percent.hexValue? digit).map (sofar * 16 + ·)) 0

/-- The character of a code point, if it is not a surrogate and not too great. -/
def scalar? (code : Nat) : Option Char :=
  if code < 0xD800 ∨ (0xDFFF < code ∧ code < 0x110000) then some (Char.ofNat code) else none

/-- The character that `count` hexadecimal digits at the front of a text write, and the text after
them. -/
def hexEscape? (count : Nat) (text : List Char) : Option (Char × List Char) := do
  if text.length < count then none
  let code ← hexNumber? (text.take count)
  let c ← scalar? code
  return (c, text.drop count)

/-- The character of an escape after its backslash, and the text after it. -/
def escape? : List Char → Option (Char × List Char)
  | 'u' :: rest => hexEscape? 4 rest
  | 'U' :: rest => hexEscape? 8 rest
  | letter :: rest => (escaped? letter).map fun c => (c, rest)
  | [] => none

/-- A string in apostrophes, which has no escapes. -/
def literal? : List Char → Option (List Char × List Char)
  | [] => none
  | '\'' :: rest => some ([], rest)
  | c :: rest =>
    if isPlain c then (literal? rest).map fun (content, after) => (c :: content, after) else none

/-- A string in quotes. The limit bounds the number of its characters. -/
def basic? (limit : Nat) (text : List Char) : Option (List Char × List Char) :=
  match limit, text with
  | 0, _ => none
  | _, [] => none
  | _, '"' :: rest => some ([], rest)
  | limit + 1, '\\' :: rest => do
    let (c, rest) ← escape? rest
    let (content, after) ← basic? limit rest
    return (c :: content, after)
  | limit + 1, c :: rest =>
    if isPlain c then (basic? limit rest).map fun (content, after) => (c :: content, after)
    else none

/-- The number of times that a character is repeated at the front of a text. -/
def runLength (c : Char) (text : List Char) : Nat :=
  (text.takeWhile (· == c)).length

/-- The text after a line continuation: blanks, a line end, and all blanks and line ends after it.
-/
def continuation? (text : List Char) : Option (List Char) :=
  (lineEnd? (skipBlanks text)).map (skipLines text.length)
where
  /-- A text without the blanks and line ends at its front, at most `limit` of them. -/
  skipLines (limit : Nat) (text : List Char) : List Char :=
    match limit, text with
    | 0, _ => text
    | _, [] => []
    | limit + 1, c :: rest =>
      if isBlank c then skipLines limit rest
      else match lineEnd? (c :: rest) with
        | some after => skipLines limit after
        | none => c :: rest

/-- A multi-line string up to three closing quotes, before which one or two quotes may belong to it.
Escapes and line continuations count only where `escapes` is set. The limit bounds the number of its
parts. -/
def multiLine? (quote : Char) (escapes : Bool) (limit : Nat) (text : List Char) :
    Option (List Char × List Char) :=
  match limit, text with
  | 0, _ => none
  | _, [] => none
  | limit + 1, c :: rest =>
    let quotes := runLength quote text
    if 3 ≤ quotes then
      let inside := min (quotes - 3) 2
      some (List.replicate inside quote, text.drop (inside + 3))
    else if escapes && c == '\\' then
      match continuation? rest with
      | some after => multiLine? quote escapes limit after
      | none => do
        let (c, rest) ← escape? rest
        let (content, after) ← multiLine? quote escapes limit rest
        return (c :: content, after)
    else match lineEnd? text with
      | some after =>
        (multiLine? quote escapes limit after).map fun (content, after) => ('\n' :: content, after)
      | none =>
        if isPlain c then
          (multiLine? quote escapes limit rest).map fun (content, after) => (c :: content, after)
        else none

/-- The body of a multi-line string after its opening quotes. A line end right after them does not
belong to it. -/
def multiLineBody? (quote : Char) (escapes : Bool) (text : List Char) :
    Option (List Char × List Char) :=
  multiLine? quote escapes (text.length + 1) ((lineEnd? text).getD text)

/-- A string on one line, from its opening quote on. -/
def lineString? : List Char → Option (List Char × List Char)
  | '"' :: rest => basic? (rest.length + 1) rest
  | '\'' :: rest => literal? rest
  | _ => none

/-- A string of any form, from its opening quotes on. -/
def anyString? : List Char → Option (List Char × List Char)
  | '"' :: '"' :: '"' :: rest => multiLineBody? '"' true rest
  | '\'' :: '\'' :: '\'' :: rest => multiLineBody? '\'' false rest
  | text => lineString? text

def isBareKey (c : Char) : Bool :=
  c.isAlphanum || c == '-' || c == '_'

/-- One part of a key: a string on one line, or bare characters. -/
def keyPart? (text : List Char) : Option (String × List Char) :=
  match text with
  | '"' :: _ | '\'' :: _ =>
    (lineString? text).map fun (content, after) => (String.ofList content, after)
  | _ =>
    match text.takeWhile isBareKey with
    | [] => none
    | bare => some (String.ofList bare, text.dropWhile isBareKey)

/-- The parts of a dotted key, with blanks around the dots passed over, and the text after it and
the blanks that follow. The limit bounds the number of parts. -/
def keyWithin? (limit : Nat) (text : List Char) : Option (List String × List Char) :=
  match limit with
  | 0 => none
  | limit + 1 => do
    let (part, rest) ← keyPart? (skipBlanks text)
    match skipBlanks rest with
    | '.' :: rest =>
      let (parts, after) ← keyWithin? limit rest
      return (part :: parts, after)
    | after => return ([part], after)

/-- How deep arrays and inline tables may be nested, and how many parts a key may have. -/
def depthLimit : Nat := 79

/-- The parts of a dotted key, and the text after it. -/
def key? (text : List Char) : Option (List String × List Char) :=
  keyWithin? depthLimit text

end SeriesQuery.Toml
