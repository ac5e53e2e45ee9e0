import SeriesQuery.Query.Refusal
import SeriesQuery.Query.Vocabulary
import SeriesQuery.Text.Dotted

set_option autoImplicit false

/-!
# What a path selects

A path of segments selects a context, a metric and a tag, each a dotted prefix. `select` walks the
segments once.
-/

namespace SeriesQuery.Query

open SeriesQuery.Text

structure Selection where
  /-- Prefix of the context; absent selects every context. -/
  context : Option String
  /-- Prefix of the metric name; empty selects every metric. -/
  metric : String
  /-- Prefix of the tag; absent selects untagged rows. -/
  tag : Option String
  deriving DecidableEq, Repr

/-- The context of a program inside an application. -/
def programContext (app : String) (kind : ProgramKind) (program : String) : String :=
  Dotted.join (Dotted.join app kind.code) program

/-! ## Reading segments -/

def takeName (role : Role) : List String → Except Refusal (String × List String)
  | [] => .error (.missing role)
  | name :: rest => .ok (name, rest)

def readToken {Word : Type} (ofToken? : String → Option Word) (role : Role) (token : String) :
    Except Refusal Word :=
  match ofToken? token with
  | some word => .ok word
  | none => .error (.unknown role token)

def takeToken {Word : Type} (ofToken? : String → Option Word) (role : Role)
    (path : List String) : Except Refusal (Word × List String) := do
  let (token, rest) ← takeName role path
  let word ← readToken ofToken? role token
  return (word, rest)

def finish : List String → Except Refusal Unit
  | [] => .ok ()
  | extra :: _ => .error (.unexpected extra)

/-- Takes a program type and a program of the application `app`. -/
def takeProgram (app : String) (path : List String) :
    Except Refusal (ProgramKind × String × List String) := do
  let (kind, rest) ← takeToken ProgramKind.ofToken? .programType path
  let (program, rest) ← takeName .programId rest
  return (kind, programContext app kind program, rest)

/-- Takes an application, a program type and a program, with which the path ends. -/
def onlyProgram (path : List String) : Except Refusal String := do
  let (app, rest) ← takeName .applicationId path
  let (_, context, rest) ← takeProgram app rest
  finish rest
  return context

/-! ## The kinds of context -/

def selectCollect (metric : String) (path : List String) : Except Refusal Selection := do
  let (branch, rest) ← takeToken CollectBranch.ofToken? .collectType path
  match branch with
  | .apps =>
    let (app, rest) ← takeName .applicationId rest
    finish rest
    return ⟨some app, metric, none⟩
  | .streams =>
    let (stream, rest) ← takeName .streamId rest
    match rest with
    | [] => return ⟨none, metric, some stream⟩
    | _ :: _ =>
      let context ← onlyProgram rest
      return ⟨some context, metric, some stream⟩

/-- What follows the program in a process or query path. In a batch job it is a phase and perhaps a
task. Elsewhere a single segment goes on with the metric name; of more than one, the first is a
component of the program and the others go on with the metric name. -/
def selectComponent (kind : ProgramKind) (context metric : String) (path : List String) :
    Except Refusal Selection := do
  match kind, path with
  | _, [] => return ⟨some context, metric, none⟩
  | .batch, token :: rest =>
    let phase ← readToken BatchPhase.ofToken? .batchSubtype token
    let context := Dotted.join context phase.code
    match rest with
    | [] => return ⟨some context, metric, none⟩
    | task :: rest =>
      finish rest
      return ⟨some (Dotted.join context task), metric, none⟩
  | _, [suffix] => return ⟨some context, Dotted.join metric suffix, none⟩
  | _, component :: suffixes =>
    return ⟨some (Dotted.join context component), suffixes.foldl Dotted.join metric, none⟩

/-- A process or query path after its metric name. -/
def selectProcess (metric : String) (path : List String) : Except Refusal Selection := do
  let (app, rest) ← takeName .applicationId path
  match rest with
  | [] => return ⟨some app, metric, none⟩
  | _ :: _ =>
    let (kind, context, rest) ← takeProgram app rest
    selectComponent kind context metric rest

/-- The part of a program that a store path may name after it, as the end of the context, and the
rest of the path: a flow has components, a batch job phases, a procedure nothing. -/
def takePart (kind : ProgramKind) (context : String) (path : List String) :
    String × List String :=
  match kind, path with
  | .flows, part :: rest =>
    if StoreBranch.ofToken? part = some .datasets then (context, path)
    else (Dotted.join context part, rest)
  | .batch, token :: rest =>
    match BatchPhase.ofToken? token with
    | some phase => (Dotted.join context phase.code, rest)
    | none => (context, path)
  | _, _ => (context, path)

/-- The end of a store path: nothing, or `datasets` and a dataset. -/
def selectDataset (context metric : String) (path : List String) : Except Refusal Selection := do
  match path with
  | [] => return ⟨some context, metric, none⟩
  | _ :: _ =>
    let (marker, rest) ← takeToken StoreBranch.ofToken? .datasetMarker path
    match marker with
    | .apps => .error .datasetsExpected
    | .datasets =>
      let (dataset, rest) ← takeName .datasetId rest
      finish rest
      return ⟨some context, metric, some dataset⟩

def selectStore (metric : String) (path : List String) : Except Refusal Selection := do
  let (branch, rest) ← takeToken StoreBranch.ofToken? .storeType path
  match branch with
  | .apps =>
    let (app, rest) ← takeName .applicationId rest
    match rest with
    | [] => return ⟨some app, metric, none⟩
    | _ :: _ =>
      let (kind, context, rest) ← takeProgram app rest
      let (context, rest) := takePart kind context rest
      selectDataset context metric rest
  | .datasets =>
    let (dataset, rest) ← takeName .datasetId rest
    match rest with
    | [] => return ⟨none, metric, some dataset⟩
    | _ :: _ =>
      let context ← onlyProgram rest
      return ⟨some context, metric, some dataset⟩

/-- Whether a store path leaves out its metric name: it goes on with `apps` or `datasets` and then
with something else. -/
def omitsMetric : List String → Bool
  | branch :: next :: _ =>
    (StoreBranch.ofToken? branch).isSome && (StoreBranch.ofToken? next).isNone
  | _ => false

/-- What a path selects. A path may end after its metric name. -/
def select (path : List String) : Except Refusal Selection := do
  let (kind, rest) ← takeToken ContextKind.ofToken? .contextType path
  let (metric, rest) ←
    if kind = .store ∧ omitsMetric rest then pure ("", rest) else takeName .metricName rest
  match rest with
  | [] => return ⟨none, metric, none⟩
  | _ :: _ =>
    match kind with
    | .collect => selectCollect metric rest
    | .process => selectProcess metric rest
    | .query => selectProcess metric rest
    | .store => selectStore metric rest

end SeriesQuery.Query
