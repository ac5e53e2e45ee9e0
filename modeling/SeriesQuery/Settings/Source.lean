import SeriesQuery.Files
import SeriesQuery.Settings.Document

set_option autoImplicit false

/-!
# Where settings come from

Settings are read from exactly one source: the file that the command line names, else the file that
the environment names, else the standard file if it is there, else nothing, which leaves the
standard settings. A named file that cannot be read is an error. Whatever the source, the
environment then overrides single values.
-/

namespace SeriesQuery.Settings

def fileVariable : String := "METRICS_QUERY_CONFIG"

/-- All variables that have a say in the settings. -/
def variableNames : List String :=
  [fileVariable, hostVariable, portVariable, delayVariable, logVariable]

/-- The settings file that is looked for where none is named. -/
def standardFile : String := "metrics-query.toml"

inductive Source where
  /-- A file that the command line or the environment names. -/
  | named (path : String)
  | standard
  | none
  deriving DecidableEq, Repr

/-- The source of settings: the first one that is there. -/
def Source.choose (flag : Option String) (environment : List (String × String)) (files : Files) :
    Source :=
  match flag, valueOf? environment fileVariable with
  | some path, _ => .named path
  | .none, some path => .named path
  | .none, .none => if files.isThere standardFile then .standard else .none

inductive LoadFault where
  | unreadable (path : String) (cause : ReadFault)
  | malformed (path : String)
  deriving DecidableEq, Repr

/-- The words in which it is told why settings cannot be loaded. -/
def LoadFault.message : LoadFault → String
  | .unreadable path cause => "Failed to read config file " ++ path ++ ": " ++ cause.message
  | .malformed path => "Failed to parse config file " ++ path ++ ": TOML parse error"

def ofFile (files : Files) (path : String) : Except LoadFault Settings :=
  match files path with
  | .error cause => .error (.unreadable path cause)
  | .ok text =>
    match readToml? text with
    | some settings => .ok settings
    | none => .error (.malformed path)

/-- The note on the source of settings that were loaded. -/
def Source.note : Source → String
  | .named path => "[config] Loaded configuration from: " ++ path
  | .standard => "[config] Loaded configuration from " ++ standardFile
  | .none => "[config] Using default configuration"

/-- The settings of a source, before the environment overrides any. -/
def Source.settings (files : Files) : Source → Except LoadFault Settings
  | .named path => ofFile files path
  | .standard => ofFile files standardFile
  | .none => .ok Settings.standard

/-- The settings in effect, and the note on their source. -/
def load (flag : Option String) (environment : List (String × String)) (files : Files) :
    Except LoadFault (Settings × String) := do
  let source := Source.choose flag environment files
  let settings ← source.settings files
  return (settings.override environment, source.note)

end SeriesQuery.Settings
