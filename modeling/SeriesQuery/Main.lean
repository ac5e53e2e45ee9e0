import SeriesQuery.Command.Run

set_option autoImplicit false

/-!
# The program

Reads the environment and the files that may be needed, runs the command, and tells how it ended.
-/

namespace SeriesQuery

def readFile (path : String) : IO (Except ReadFault String) := do
  try
    return .ok (← IO.FS.readFile path)
  catch
    | .noFileOrDirectory .. => return .error .notFound
    | .inappropriateType _ 20 _ => return .error .notDirectory
    | .inappropriateType .. => return .error .isDirectory
    | .invalidArgument _ 36 _ => return .error .nameTooLong
    | fault => return .error (.other (toString fault))

/-- Reads files. What was not read counts as not there. -/
def readFiles (paths : List String) : IO Files := do
  let texts ← paths.mapM fun path => return (path, ← readFile path)
  return fun path => (texts.lookup path).getD (.error .notFound)

/-- The variables that are set among the given ones. -/
def readEnvironment (names : List String) : IO (List (String × String)) :=
  names.filterMapM fun name => do return (← IO.getEnv name).map fun value => (name, value)

def Command.Report.tell (report : Command.Report) : IO Unit := do
  report.output.forM fun line => IO.println line
  report.notes.forM fun line => IO.eprintln line
  if report.ready.isSome then IO.eprintln "Ready to listen"

end SeriesQuery

open SeriesQuery in
def main (arguments : List String) : IO UInt32 := do
  let environment ← readEnvironment Command.variableNames
  let files ← readFiles <|
    match Command.read arguments with
    | .ok invocation => Command.paths invocation environment
    | .error _ => []
  let report := Command.run arguments environment files
  report.tell
  return report.status.toUInt32
