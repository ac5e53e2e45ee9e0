import SeriesQuery.Command.Arguments
import SeriesQuery.Command.Styled

set_option autoImplicit false

/-!
# Help

What is said about the program and its commands, and about arguments that are wrong.
-/

namespace SeriesQuery.Command

def programName : String := "metrics-query-server"

def programSummary : String := "Metrics query service with batch and single-query endpoints"

def helpSummary : String := "Print this message or the help of the given subcommand(s)"

def Action.summary : Action → String
  | .start => "Start the HTTP server (default)"
  | .checkSettings => "Validate configuration file without starting the server"

def Flag.summary : Flag → String
  | .settings => "Path to configuration file (overrides METRICS_QUERY_CONFIG env var)"
  | .listen => "Override listen address (e.g., 0.0.0.0:8080)"
  | .fixture => "JSON fixture to seed the in-memory metrics store"

/-- The long form of an option, and the form of its value. -/
def Flag.longForm (flag : Flag) : Styled :=
  [⟨.literal, "--" ++ flag.name⟩, ⟨.none, " <" ++ flag.name.toUpper ++ ">"⟩]

def Flag.form (flag : Flag) : Styled :=
  [⟨.literal, "-" ++ flag.letter.toString⟩, ⟨.none, ", "⟩] ++ flag.longForm

def requestForm (letter name : String) : Styled :=
  [⟨.literal, "-" ++ letter⟩, ⟨.none, ", "⟩, ⟨.literal, "--" ++ name⟩]

/-- Lines with a summary beside each name, the summaries below each other. -/
def table (rows : List (Styled × String)) : List Styled :=
  let width := (rows.map fun (name, _) => name.width).foldr max 0
  rows.map fun (name, summary) =>
    Styled.plain "  " ++ name ++
      Styled.plain (String.ofList (List.replicate (width - name.width) ' ') ++ "  " ++ summary)

def optionLines (more : List (Styled × String)) : List Styled :=
  Styled.ofText .title "Options:" ::
    table ((Flag.all.map fun flag => (flag.form, flag.summary)) ++
      (requestForm "h" "help", "Print help") :: more)

/-- The line that shows how words are used that are typed as they stand. -/
def usageLine (typed rest : String) : Styled :=
  [⟨.title, "Usage:"⟩, ⟨.none, " "⟩, ⟨.literal, typed⟩, ⟨.none, rest⟩]

def Topic.usage : Topic → Styled
  | .program => usageLine programName " [OPTIONS] [COMMAND]"
  | .action chosen => usageLine (programName ++ " " ++ chosen.name) " [OPTIONS]"
  | .help => usageLine (programName ++ " help") " [COMMAND]..."

def Topic.lines (topic : Topic) : List Styled :=
  match topic with
  | .program =>
    [Styled.plain programSummary, [], topic.usage, [], Styled.ofText .title "Commands:"] ++
      table ((Action.all.map fun action => (Styled.ofText .literal action.name, action.summary)) ++
        [(Styled.ofText .literal "help", helpSummary)]) ++
      [] :: optionLines [(requestForm "V" "version", "Print version")]
  | .action chosen => [Styled.plain chosen.summary, [], topic.usage, []] ++ optionLines []
  | .help =>
    [Styled.plain helpSummary, [], topic.usage, [], Styled.ofText .title "Arguments:"] ++
      table [(Styled.plain "[COMMAND]...", "Print help for the subcommand(s)")]

/-- Words about something mistaken, which stands between quotes. -/
def aboutMistake (before mistaken after : String) : Styled :=
  [⟨.none, before ++ "'"⟩, ⟨.mistake, mistaken⟩, ⟨.none, "'" ++ after⟩]

/-- The long form of an option, as plain text. -/
def Flag.plainForm (flag : Flag) : String :=
  Styled.render false flag.longForm

def Misuse.message : Misuse → Styled
  | .unknownArgument argument => aboutMistake "unexpected argument " argument " found"
  | .unknownCommand name => aboutMistake "unrecognized subcommand " name ""
  | .valueMissing flag | .valueEmpty flag =>
    aboutMistake "a value is required for " flag.plainForm " but none was supplied"
  | .valueUnwanted name value =>
    aboutMistake "unexpected value " value " for '" ++
      [⟨.literal, "--" ++ name⟩, ⟨.none, "' found; no more were expected"⟩]
  | .givenTwice flag =>
    aboutMistake "the argument " flag.plainForm " cannot be used multiple times"

def Misuse.lines (misuse : Misuse) : List Styled :=
  [[⟨.alert, "error:"⟩, ⟨.none, " "⟩] ++ misuse.message, [], Topic.usage .program, [],
    [⟨.none, "For more information, try '"⟩, ⟨.literal, "--help"⟩, ⟨.none, "'."⟩]]

end SeriesQuery.Command
