import SeriesQuery.Batch.Envelope
import SeriesQuery.Engine
import SeriesQuery.Query.Reader

set_option autoImplicit false

/-!
# Running a batch

The items of a batch run side by side in a window: at most as many as the parallelism allows are
under way, and outcomes are settled in the order of the items, whichever ends first. `Run.step`
advances one item of the window by one step, so any order of steps is a run. `Run.drive` takes a
certain order: the first item that can move goes on, and a construction that takes time ends only
when nothing else can move. When a failing item ends the batch, the items after it that have not
moved are never run.
-/

namespace SeriesQuery.Batch

open SeriesQuery.Query SeriesQuery.Table

/-- What a failing item does to its batch. -/
inductive Policy where
  /-- Its envelope holds its error, and all other items are answered. -/
  | isolate
  /-- The first failing item, in the order of the items, fails the batch. -/
  | abort
  deriving DecidableEq, Repr

def Policy.name : Policy → String
  | .isolate => "isolate"
  | .abort => "abort"

inductive Stage where
  | queued
  /-- The item is a time-series request whose call for the table is under way. -/
  | fetching (query : Descriptor) (progress : Progress)
  | done (outcome : Except Error Answer)

structure Item where
  uri : String
  stage : Stage

structure Surroundings where
  backend : Backend
  reader : Reader
  now : Int64
  policy : Policy

/-- One step of an item. A URI is read when the item first moves; a request for a total is then
answered at once, and a time-series request goes through the steps of its call for the table. -/
def Stage.advance (around : Surroundings) (uri : String) (engine : Engine) : Stage → Stage × Engine
  | .queued =>
    match around.reader.read around.now uri with
    | .error refusal => (.done (.error (.ofRefusal uri refusal)), engine)
    | .ok query =>
      match query.kind with
      | .aggregate =>
        let (outcome, engine) := engine.answerTotal around.backend query
        (.done outcome, engine)
      | .timeSeries => (.fetching query .arrived, engine)
  | .fetching query (.finished table) =>
    let (outcome, engine) := engine.answerSeries around.backend query table
    (.done outcome, engine)
  | .fetching query progress =>
    match engine.tables.advance engine.resolution progress with
    | (.finished table, tables) =>
      let (outcome, engine) := { engine with tables }.answerSeries around.backend query table
      (.done outcome, engine)
    | (progress, tables) => (.fetching query progress, { engine with tables })
  | .done outcome => (.done outcome, engine)

/-- Whether an item can move before a construction in flight ends. -/
def Stage.canMove (tables : Tables) (resolution : UInt32) : Stage → Bool
  | .queued => true
  | .fetching _ .arrived => true
  | .fetching _ .located => true
  | .fetching _ .waiting => !(tables.slot resolution).building
  | .fetching _ (.building _) => !tables.slow
  | .fetching _ (.finished _) => true
  | .done _ => false

/-- Whether an item waits for the end of the construction that it started. -/
def Stage.isBuilding : Stage → Bool
  | .fetching _ (.building _) => true
  | _ => false

structure Run where
  /-- The items whose outcomes are settled, the latest first. -/
  settled : List (String × Except Error Answer)
  /-- The items under way, in order. -/
  window : List Item
  /-- The items that have not entered the window, in order. -/
  pending : List String
  engine : Engine

namespace Run

/-- Whether a failing item has ended the batch. -/
def isAborted (policy : Policy) (settled : List (String × Except Error Answer)) : Bool :=
  match policy, settled with
  | .abort, (_, .error _) :: _ => true
  | _, _ => false

/-- Settles the items that are over at the front of a window. It answers with the settled items and
the rest of the window. -/
def settle (policy : Policy) (settled : List (String × Except Error Answer)) :
    List Item → List (String × Except Error Answer) × List Item
  | [] => (settled, [])
  | item :: rest =>
    match isAborted policy settled, item.stage with
    | false, .done outcome => settle policy ((item.uri, outcome) :: settled) rest
    | _, _ => (settled, item :: rest)

/-- Lets items enter the window until it holds `width` of them. -/
def refill (width : Nat) (run : Run) : Run :=
  let free := width - run.window.length
  { run with
    window := run.window ++ (run.pending.take free).map fun uri => ⟨uri, .queued⟩
    pending := run.pending.drop free }

def start (width : Nat) (engine : Engine) (uris : List String) : Run :=
  refill width ⟨[], [], uris, engine⟩

/-- One step of the item at a place in the window. In a batch that is over, or at a place that is
empty, nothing changes. -/
def step (around : Surroundings) (width : Nat) (run : Run) (place : Nat) : Run :=
  match isAborted around.policy run.settled, run.window[place]? with
  | false, some item =>
    let (stage, engine) := item.stage.advance around item.uri run.engine
    let (settled, window) :=
      settle around.policy run.settled (run.window.set place { item with stage })
    refill width ⟨settled, window, run.pending, engine⟩
  | _, _ => run

/-- The place of the item that moves next: the first that can, else the one whose construction is in
flight. -/
def next? (policy : Policy) (run : Run) : Option Nat :=
  if isAborted policy run.settled then none
  else
    let canMove := fun item : Item => item.stage.canMove run.engine.tables run.engine.resolution
    match run.window.findIdx? canMove with
    | some place => some place
    | none => run.window.findIdx? fun item => item.stage.isBuilding

/-- Steps until nothing can move, at most `limit` of them. -/
def drive (around : Surroundings) (width : Nat) : Nat → Run → Run
  | 0, run => run
  | limit + 1, run =>
    match run.next? around.policy with
    | none => run
    | some place => drive around width limit (run.step around width place)

/-- The greatest number of steps of one item: it is read, and its call arrives, is located, waits
and builds. -/
def stepsOfItem : Nat := 5

/-- The outcomes of a batch as far as they are settled, in order, and the engine after it. -/
def outcomes (around : Surroundings) (width : Nat) (engine : Engine) (uris : List String) :
    List (String × Except Error Answer) × Engine :=
  let run := drive around width (stepsOfItem * uris.length) (start width engine uris)
  (run.settled.reverse, run.engine)

end Run

end SeriesQuery.Batch
