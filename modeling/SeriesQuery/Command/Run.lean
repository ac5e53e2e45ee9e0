import SeriesQuery.Command.Help
import SeriesQuery.Command.Summary
import SeriesQuery.Http.Endpoint
import SeriesQuery.Http.Service
import SeriesQuery.Settings.Source
import SeriesQuery.Text.Quoted

set_option autoImplicit false

/-!
# Running the program

Both commands load the settings and check them. Checking ends with a summary. Starting goes on: it
fills the store, starts the service over it, reads the endpoint to listen on, and lists the origins that
responses are shared with, in this order; what is ready then only has to be served.
-/

namespace SeriesQuery.Command

open SeriesQuery.Http SeriesQuery.Table SeriesQuery.Text

inductive Failure where
  | unloaded (fault : Settings.LoadFault)
  | invalid (fault : Settings.Fault)
  /-- The store cannot be filled or the service cannot be started. -/
  | unready (error : Error)
  /-- The endpoint to listen on is not written as an address and a port. -/
  | badEndpoint (text : String)
  /-- All origins are listed as if they were one. The program takes this for a fault of its own. -/
  | everyOriginListed

/-- The line that tells why a command fails. The words are quoted, which keeps them on one line. -/
def Failure.line : Failure → String
  | .unloaded fault => "Error: " ++ Quoted.quote fault.message
  | .invalid fault => "Error: " ++ Quoted.quote fault.message
  | .unready error => "Error: not ready: " ++ Quoted.quote error.message
  | .badEndpoint text => "Error: invalid socket address: " ++ Quoted.quote text
  | .everyOriginListed => "Wildcard origin (*) cannot be listed"

/-- The exit status of a command that fails: 1, or 101 where it breaks off by a fault of its own. -/
def Failure.status : Failure → UInt8
  | .unloaded _ | .invalid _ | .unready _ | .badEndpoint _ => 1
  | .everyOriginListed => 101

/-- A service that only has to be served. -/
structure Ready where
  service : Service
  store : Store
  endpoint : Endpoint

/-- The store that a fixture file fills; an empty one if there is none. -/
def fillStore (files : Files) : Option String → Except Error Store
  | some path => Store.load files path
  | none => .ok .empty

/-- Gets the service ready that settings ask for. An endpoint given by an option wins over the one
of the settings. -/
def prepare (settings : Settings) (files : Files) (listen fixture : Option String) :
    Except Failure Ready := do
  let store ← (fillStore files fixture).mapError Failure.unready
  let service ← (Service.start settings (.ok ())).mapError Failure.unready
  let text := listen.getD settings.listenAddress
  match Endpoint.ofText? text with
  | some endpoint =>
    if canList service.origins then return ⟨service, store, endpoint⟩ else throw .everyOriginListed
  | none => throw (.badEndpoint text)

structure Report where
  /-- The exit status: 0 for success, 2 for wrong arguments, else that of the failure. -/
  status : UInt8
  output : List String
  notes : List String
  ready : Option Ready

namespace Report

/-- The end of a run that only tells something. -/
def telling (output : List String) : Report := ⟨0, output, [], none⟩

/-- The end of a run that is stopped by its arguments. Help and misuse are told with emphasis if it
is to be visible. -/
def ofStop (visible : Bool) : Stop → Report
  | .help topic => telling (topic.lines.map (Styled.render visible))
  | .version => telling [programName ++ " " ++ Http.version]
  | .misuse misuse => ⟨2, [], misuse.lines.map (Styled.render visible), none⟩

/-- The end of a run that fails, after some notes. -/
def failing (notes : List String) (failure : Failure) : Report :=
  ⟨failure.status, [], notes ++ [failure.line], none⟩

end Report

/-- The end of a command, once the settings are loaded and found valid. -/
def conclude (files : Files) (invocation : Invocation) (settings : Settings) (note : String) :
    Report :=
  match invocation.action with
  | .checkSettings => ⟨0, summary settings, [note], none⟩
  | .start =>
    match prepare settings files invocation.listen invocation.fixture with
    | .ok ready => ⟨0, [], [note], some ready⟩
    | .error failure => .failing [note] failure

/-- Runs a command. The note on the source of the settings is told as soon as they are loaded. -/
def perform (invocation : Invocation) (environment : List (String × String)) (files : Files) :
    Report :=
  match Settings.load invocation.settings environment files with
  | .error fault => .failing [] (.unloaded fault)
  | .ok (settings, note) =>
    match settings.fault? with
    | some fault => .failing [note] (.invalid fault)
    | none => conclude files invocation settings note

def paths (invocation : Invocation) (environment : List (String × String)) : List String :=
  invocation.settings.toList ++
    (Settings.valueOf? environment Settings.fileVariable).toList ++
    Settings.standardFile :: invocation.fixture.toList

/-- All variables that have a say in a run. -/
def variableNames : List String :=
  Settings.variableNames ++ [emphasisVariable, noEmphasisVariable]

def run (arguments : List String) (environment : List (String × String)) (files : Files) : Report :=
  match read arguments with
  | .ok invocation => perform invocation environment files
  | .error stop => .ofStop (wantsEmphasis environment) stop

end SeriesQuery.Command
