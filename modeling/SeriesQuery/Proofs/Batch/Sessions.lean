import SeriesQuery.Proofs.Batch.Executions

set_option autoImplicit false

/-!
# Sessions

All that is done with one engine and the store behind it, one after the other: single queries, batches,
envelopes, calls for tables and what makes them fail, and new values. After each of these the published
counters are told by the queries that were executed, the batches that were handled and the tables that
are loaded.
-/

namespace SeriesQuery.Batch

open SeriesQuery.Query SeriesQuery.Store SeriesQuery.Table SeriesQuery.Text

/-- An engine, the store behind it, and what has been done with them. -/
structure Session where
  engine : Engine
  store : Store
  /-- The queries that were executed. -/
  executions : List Execution
  /-- The batches that were handled. -/
  batches : List (List String)

namespace Session

/-- What can be done next. During a batch the calls of others may move, and constructions may be made
to fail and healed. A batch or a call that has not come to its end is given up. -/
inductive Move where
  | query (handler : Handler) (now : Int64) (uri : String)
  | execute (query : Descriptor)
  | batch (handler : Handler) (now : Int64) (uris : List String) (turns : List Turn)
  | request (handler : Handler) (now : Int64) (contentType : Option String) (body : List UInt8)
      (turns : List Turn)
  | calls (events : List Event)
  | record (key : RowKey) (time value : Int64)
  | increment (key : RowKey) (value : Int64)

/-- Before anything is done. -/
def fresh (resolution : UInt32) (slow : Bool) (store : Store) : Session :=
  ⟨⟨resolution, .empty slow, .zero, []⟩, store, [], []⟩

section

-- How the tables of a store answer.
variable (tables : Store → Backend)

/-- A batch after some turns. -/
def shared (session : Session) (handler : Handler) (now : Int64) (uris : List String)
    (turns : List Turn) : Shared :=
  (handler.shared session.engine [] uris).takeAll
    (handler.surroundings (tables session.store) now) handler.parallelism turns

/-- A batch that ends, or is given up, after some turns. -/
def handle (session : Session) (handler : Handler) (now : Int64) (uris : List String)
    (turns : List Turn) : Session :=
  let run := (session.shared tables handler now uris turns).run
  { session with
    engine := { run.engine with tables := run.engine.tables.release }
    executions := session.executions ++
      run.executions (handler.surroundings (tables session.store) now)
    batches := session.batches ++ [uris] }

def step (session : Session) : Move → Session
  | .query handler now uri =>
    let around := handler.surroundings (tables session.store) now
    let (outcome, engine) := handler.query (tables session.store) now session.engine uri
    { session with
      engine
      executions := session.executions ++ ((Stage.done outcome).execution? around uri).toList }
  | .execute query =>
    let (outcome, engine) := session.engine.execute (tables session.store) query
    { session with engine, executions := session.executions ++ [(query.kind, outcome.isOk)] }
  | .batch handler now uris turns => session.handle tables handler now uris turns
  | .request handler now contentType body turns =>
    match handler.decodeEnvelope contentType body with
    | .error _ => session
    | .ok uris => session.handle tables handler now uris turns
  | .calls events =>
    let traffic := (Traffic.mk session.engine.tables []).run events
    { session with engine := { session.engine with tables := traffic.tables.release } }
  | .record key time value => { session with store := session.store.record key time value }
  | .increment key value => { session with store := session.store.increment key value }

def run (session : Session) (moves : List Move) : Session :=
  moves.foldl (step tables) session

/-- What holds after each move. -/
structure Kept (session : Session) : Prop where
  counters : session.engine.counters = .tally session.executions session.batches
  booked : session.engine.tables.Booked fun _ => 0

theorem kept_fresh (resolution : UInt32) (slow : Bool) (store : Store) :
    (fresh resolution slow store).Kept :=
  ⟨rfl, Tables.booked_empty slow⟩

variable {session : Session}

theorem Kept.counted (kept : session.Kept) (handler : Handler) (now : Int64) (uris : List String)
    (turns : List Turn) :
    (session.shared tables handler now uris turns).Counted
      (handler.surroundings (tables session.store) now) uris session.executions
      (session.batches ++ [uris]) :=
  (handler.counted_shared kept.counters kept.booked _ now uris).takeAll turns

theorem Kept.handle (kept : session.Kept) (handler : Handler) (now : Int64) (uris : List String)
    (turns : List Turn) : (session.handle tables handler now uris turns).Kept :=
  have counted := kept.counted tables handler now uris turns
  ⟨counted.counters, counted.booked.release⟩

theorem Kept.execute (kept : session.Kept) (query : Descriptor) :
    (session.step tables (.execute query)).Kept where
  counters := by
    rw [step, Counters.tally_concat, ← kept.counters]
    exact Engine.execute_counters session.engine (tables session.store) query
  booked := by
    have booked := kept.booked
    simp only [step, Engine.execute]
    cases query.kind with
    | aggregate =>
        dsimp only
        rw [Engine.answerTotal_eq]
        exact booked
    | timeSeries =>
        dsimp only
        rw [Engine.answerSeries_eq]
        exact booked.get session.engine.resolution

theorem Kept.query (kept : session.Kept) (handler : Handler) (now : Int64) (uri : String) :
    (session.step tables (.query handler now uri)).Kept := by
  cases read : handler.reader.read now uri with
  | error refusal =>
      have refused : (handler.surroundings (tables session.store) now).reader.read now uri =
        .error refusal := read
      have same : session.step tables (.query handler now uri) = session := by
        simp only [Session.step, Handler.query, read]
        rw [Stage.execution?_refused refused, Option.toList_none, List.append_nil]
      rwa [same]
  | ok query =>
      have readable : (handler.surroundings (tables session.store) now).reader.read now uri =
        .ok query := read
      have same : session.step tables (.query handler now uri) =
          session.step tables (.execute query) := by
        simp only [Session.step, Handler.query, read]
        rw [Stage.execution?_done readable, Option.toList_some]
      rw [same]
      exact kept.execute tables query

theorem Kept.step (kept : session.Kept) (move : Move) : (session.step tables move).Kept := by
  cases move with
  | query handler now uri => exact kept.query tables handler now uri
  | execute query => exact kept.execute tables query
  | batch handler now uris turns => exact kept.handle tables handler now uris turns
  | request handler now contentType body turns =>
      rw [Session.step]
      cases handler.decodeEnvelope contentType body with
      | error error => exact kept
      | ok uris => exact kept.handle tables handler now uris turns
  | calls events =>
      have idle : (Traffic.mk session.engine.tables []).tables.Booked
          (flights (Traffic.mk session.engine.tables []).calls) := kept.booked
      exact ⟨kept.counters, (Traffic.booked_run idle events).release⟩
  | record key time value | increment key value => exact ⟨kept.counters, kept.booked⟩

theorem Kept.run (kept : session.Kept) (moves : List Move) : (session.run tables moves).Kept := by
  induction moves generalizing session with
  | nil => exact kept
  | cons move moves ih => exact ih (kept.step tables move)

end

/-! ## Conservation -/

/-- How many executed queries had an outcome, as it is published for both kinds. -/
def outcomes (session : Session) (succeeded : Bool) : Nat :=
  session.engine.sample (Counters.queriesName .timeSeries succeeded) +
    session.engine.sample (Counters.queriesName .aggregate succeeded)

/-- What the published counters of a session tell of what has been done in it. -/
structure Conserved (tables : Store → Backend) (session : Session) : Prop where
  queries : ∀ kind succeeded, session.engine.sample (Counters.queriesName kind succeeded) =
    session.executions.count (kind, succeeded)
  loaded : session.engine.sample (Counters.loadsName true) = session.engine.tables.loadedCount
  failed : session.engine.sample (Counters.loadsName false) = session.engine.tables.failures
  handled : session.engine.sample (Counters.sizesName "_count") = session.batches.length
  uris : session.engine.sample (Counters.sizesName "_sum") = session.batches.flatten.length
  within : ∀ bound ∈ BatchSizes.bounds,
    session.engine.sample (Counters.bucketName (Numeral.natText bound)) =
      session.batches.countP (·.length ≤ bound)
  unbounded : session.engine.sample (Counters.bucketName "+Inf") = session.batches.length
  /-- A batch in which errors stay with their items has an envelope of an answer for each query that it
  adds to those answered, and an envelope of an error for each that it adds to those failed and for each
  URI that cannot be read. -/
  envelopes : ∀ (handler : Handler) (now : Int64) (uris : List String) (turns : List Turn),
    handler.policy = .isolate → (session.shared tables handler now uris turns).run.IsOver .isolate →
      ∃ envelopes : List Envelope,
        Handler.envelopes handler.policy
            (session.shared tables handler now uris turns).run.settled.reverse = .ok envelopes ∧
          (session.handle tables handler now uris turns).outcomes true =
            session.outcomes true + envelopes.countP (!·.isError) ∧
          (session.handle tables handler now uris turns).outcomes false +
              uris.countP (fun uri => !(handler.reader.read now uri).isOk) =
            session.outcomes false + envelopes.countP (·.isError)
  /-- A handler ends every batch by one of the orders of steps that it can take. -/
  ends : ∀ (handler : Handler) (now : Int64) (uris : List String), 1 ≤ handler.parallelism →
    ∃ turns : List Turn, let run := (session.shared tables handler now uris turns).run
      run.IsOver handler.policy ∧
        handler.handle (tables session.store) now session.engine uris =
          (Handler.envelopes handler.policy run.settled.reverse, run.engine)

variable {tables : Store → Backend} {session : Session}

theorem Kept.outcomes (kept : session.Kept) (succeeded : Bool) :
    session.outcomes succeeded = session.executions.countP (·.2 == succeeded) := by
  rw [Session.outcomes, Engine.sample_queries kept.counters, Engine.sample_queries kept.counters,
    count_kinds]

theorem Kept.envelopes (kept : session.Kept) {handler : Handler} (now : Int64) (uris : List String)
    (turns : List Turn) (isolate : handler.policy = .isolate)
    (ended : (session.shared tables handler now uris turns).run.IsOver .isolate) :
    ∃ envelopes : List Envelope,
      Handler.envelopes handler.policy
          (session.shared tables handler now uris turns).run.settled.reverse = .ok envelopes ∧
        (session.handle tables handler now uris turns).outcomes true =
          session.outcomes true + envelopes.countP (!·.isError) ∧
        (session.handle tables handler now uris turns).outcomes false +
            uris.countP (fun uri => !(handler.reader.read now uri).isOk) =
          session.outcomes false + envelopes.countP (·.isError) := by
  have counted := kept.counted tables handler now uris turns
  have after := kept.handle tables handler now uris turns
  obtain ⟨answered, failed⟩ := counted.countP_settled ended
  have grown (succeeded : Bool) :
      (session.handle tables handler now uris turns).outcomes succeeded = session.outcomes succeeded +
        ((session.shared tables handler now uris turns).run.executions
          (handler.surroundings (tables session.store) now)).countP (·.2 == succeeded) := by
    rw [after.outcomes, kept.outcomes, ← List.countP_append]
    rfl
  refine ⟨_, by rw [isolate]; rfl, ?_, ?_⟩
  · rw [grown, ← answered, List.countP_map]
    simp only [Function.comp_def, Envelope.isError_ofOutcome, Bool.not_not]
  · rw [grown, List.countP_map]
    simp only [Function.comp_def, Envelope.isError_ofOutcome]
    rw [failed, ← Nat.add_assoc]
    rfl

/-- Whatever is done in a session, and in whichever order the steps of its batches and of the calls on
its tables are taken, the published counters are told by it. -/
theorem conserved_fresh (tables : Store → Backend) (resolution : UInt32) (slow : Bool)
    (store : Store) (moves : List Move) :
    ((fresh resolution slow store).run tables moves).Conserved tables := by
  have kept := (kept_fresh resolution slow store).run tables moves
  have counters := kept.counters
  obtain ⟨loaded, failed⟩ := Engine.sample_loads counters
  obtain ⟨handled, uris, unbounded⟩ := Engine.sample_sizes counters
  refine ⟨Engine.sample_queries counters, loaded.trans kept.booked.ok,
    failed.trans kept.booked.failed, handled, uris, fun _ => Engine.sample_bucket counters, unbounded,
    fun _ now uris turns => kept.envelopes now uris turns, ?_⟩
  intro handler now uris parallel
  have idle : flights [] ((fresh resolution slow store).run tables moves).engine.resolution = 0 := rfl
  obtain ⟨places, ended, same⟩ :=
    Handler.exists_places kept.booked.consistent parallel idle _ now uris
  exact ⟨_, ended, same⟩

end Session

end SeriesQuery.Batch
