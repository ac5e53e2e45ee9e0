import SeriesQuery.Batch.Run

set_option autoImplicit false

/-!
# The batch handler

A handler reads URIs and runs them on an engine: one on its own, or those of a batch under a failure
policy. A batch whose envelope is refused runs no item and is not counted.
-/

namespace SeriesQuery.Batch

open SeriesQuery.Query SeriesQuery.Table

structure Handler where
  reader : Reader
  policy : Policy
  /-- How many items of a batch are under way at most. -/
  parallelism : Nat
  maxItems : Nat
  deriving DecidableEq, Repr

namespace Handler

def standardParallelism : Nat := 4

def standardMaxItems : Nat := 1000

def standard : Handler :=
  ⟨.standard, .isolate, standardParallelism, standardMaxItems⟩

/-- A handler with another parallelism, which is at least one. -/
def withParallelism (handler : Handler) (parallelism : Nat) : Handler :=
  { handler with parallelism := max parallelism 1 }

/-- What the items of a batch run against. -/
def surroundings (handler : Handler) (backend : Backend) (now : Int64) : Surroundings :=
  ⟨backend, handler.reader, now, handler.policy⟩

def query (handler : Handler) (backend : Backend) (now : Int64) (engine : Engine) (uri : String) :
    Except Error Answer × Engine :=
  match handler.reader.read now uri with
  | .error refusal => (.error (.ofRefusal uri refusal), engine)
  | .ok request => engine.execute backend request

def envelopes (policy : Policy) (outcomes : List (String × Except Error Answer)) :
    Except Error (List Envelope) :=
  match policy with
  | .isolate => .ok (outcomes.map fun (uri, outcome) => Envelope.ofOutcome uri outcome)
  | .abort => outcomes.mapM fun (uri, outcome) => outcome.map fun answer => ⟨uri, some answer, none⟩

def handle (handler : Handler) (backend : Backend) (now : Int64) (engine : Engine)
    (uris : List String) : Except Error (List Envelope) × Engine :=
  let engine := { engine with counters := engine.counters.countBatch uris.length }
  let (outcomes, engine) :=
    Run.outcomes (handler.surroundings backend now) handler.parallelism engine uris
  (envelopes handler.policy outcomes, engine)

def decodeEnvelope (handler : Handler) (contentType : Option String) (body : List UInt8) :
    Except Error (List String) :=
  decode handler.maxItems contentType body

def handleRequest (handler : Handler) (backend : Backend) (now : Int64) (engine : Engine)
    (contentType : Option String) (body : List UInt8) : Except Error (List Envelope) × Engine :=
  match handler.decodeEnvelope contentType body with
  | .error error => (.error error, engine)
  | .ok uris => handler.handle backend now engine uris

end Handler

end SeriesQuery.Batch
