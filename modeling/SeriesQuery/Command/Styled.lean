import SeriesQuery.Settings.Basic

set_option autoImplicit false

/-!
# Styled lines

A line as spans of text that may stand out. It becomes a string only when it is rendered: with the
control sequences of a terminal around each span that stands out, or as its text alone. Output that
is read by another program is plain unless the environment asks otherwise.
-/

namespace SeriesQuery.Command

inductive Emphasis where
  | none
  /-- A title, such as that of a table. -/
  | title
  /-- Words that are to be typed as they stand. -/
  | literal
  | alert
  | mistake
  deriving DecidableEq, Repr

/-- The control sequences that an emphasis starts with. -/
def Emphasis.start : Emphasis → String
  | .none => ""
  | .title => "\x1b[1m\x1b[4m"
  | .literal => "\x1b[1m"
  | .alert => "\x1b[1m\x1b[31m"
  | .mistake => "\x1b[33m"

/-- The control sequences that an emphasis ends with. -/
def Emphasis.stop : Emphasis → String
  | .none => ""
  | _ => "\x1b[0m"

structure Span where
  emphasis : Emphasis
  text : String
  deriving DecidableEq, Repr

abbrev Styled := List Span

namespace Styled

def plain (text : String) : Styled := [⟨.none, text⟩]

def ofText (emphasis : Emphasis) (text : String) : Styled := [⟨emphasis, text⟩]

/-- The number of characters that a line shows. -/
def width (line : Styled) : Nat :=
  line.foldr (fun span rest => span.text.length + rest) 0

/-- The text of a line, with control sequences if it is to stand out. -/
def render (visible : Bool) (line : Styled) : String :=
  String.join <| line.map fun span =>
    if visible then span.emphasis.start ++ span.text ++ span.emphasis.stop else span.text

end Styled

/-- The variable that asks for emphasis in any output. -/
def emphasisVariable : String := "CLICOLOR_FORCE"

def noEmphasisVariable : String := "NO_COLOR"

def isSet (environment : List (String × String)) (name : String) : Bool :=
  (Settings.valueOf? environment name).any fun value => value != ""

/-- Whether the environment asks for emphasis. Any value asks for it or rules it out, and ruling it
out wins. -/
def wantsEmphasis (environment : List (String × String)) : Bool :=
  isSet environment emphasisVariable && !isSet environment noEmphasisVariable

end SeriesQuery.Command
