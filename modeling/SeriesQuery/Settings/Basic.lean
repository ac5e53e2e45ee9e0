import SeriesQuery.Batch.Handler

set_option autoImplicit false

/-!
# Settings

What can be set about the service, with the values that hold unless something else is set, and the
rules that settings must keep before the service starts.
-/

namespace SeriesQuery

open SeriesQuery.Batch SeriesQuery.Query SeriesQuery.Text

structure ServerSettings where
  host : String
  port : UInt16
  origins : List String
  deriving DecidableEq, Repr

structure QuerySettings where
  secondDelay : Int64
  resolution : UInt32
  maxCount : Nat
  deriving DecidableEq, Repr

structure BatchSettings where
  policy : Policy
  parallelism : Nat
  maxItems : Nat
  deriving DecidableEq, Repr

structure MonitoringSettings where
  metricsEnabled : Bool
  logLevel : String
  deriving DecidableEq, Repr

structure Settings where
  server : ServerSettings
  query : QuerySettings
  batch : BatchSettings
  monitoring : MonitoringSettings
  deriving DecidableEq, Repr

namespace Settings

def standard : Settings where
  server := ⟨"0.0.0.0", 8080, []⟩
  query := ⟨Reader.standardDelay, Engine.standardResolution, Reader.standardMaxCount⟩
  batch := ⟨.isolate, Handler.standardParallelism, Handler.standardMaxItems⟩
  monitoring := ⟨true, "info"⟩

/-- Where the service listens, as `host:port`. -/
def listenAddress (settings : Settings) : String :=
  settings.server.host ++ ":" ++ Numeral.natText settings.server.port.toNat

inductive Fault where
  | portZero
  | negativeDelay
  | resolution (given : UInt32)
  | maxCountZero
  | parallelismZero
  | maxItemsZero
  deriving DecidableEq, Repr

def Fault.message : Fault → String
  | .portZero => "Server port cannot be 0"
  | .negativeDelay => "Query second delay cannot be negative"
  | .resolution given =>
    "Query resolution must be " ++ Numeral.natText Engine.standardResolution.toNat ++
      " (one-second buckets), got " ++ Numeral.natText given.toNat
  | .maxCountZero => "Query max count must be > 0"
  | .parallelismZero => "Batch parallelism must be > 0"
  | .maxItemsZero => "Batch max items must be > 0"

def fault? (settings : Settings) : Option Fault :=
  if settings.server.port = 0 then some .portZero
  else if settings.query.secondDelay < 0 then some .negativeDelay
  else if settings.query.resolution ≠ Engine.standardResolution then
    some (.resolution settings.query.resolution)
  else if settings.query.maxCount = 0 then some .maxCountZero
  else if settings.batch.parallelism = 0 then some .parallelismZero
  else if settings.batch.maxItems = 0 then some .maxItemsZero
  else none

def handler (settings : Settings) : Handler :=
  Handler.withParallelism
    { reader := ⟨settings.query.secondDelay, settings.query.maxCount⟩
      policy := settings.batch.policy
      parallelism := Handler.standardParallelism
      maxItems := settings.batch.maxItems }
    settings.batch.parallelism

/-! ## Environment -/

def valueOf? (environment : List (String × String)) (name : String) : Option String :=
  environment.lookup name

def hostVariable : String := "METRICS_QUERY_HOST"

def portVariable : String := "METRICS_QUERY_PORT"

def delayVariable : String := "METRICS_QUERY_SECOND_DELAY"

def logVariable : String := "RUST_LOG"

/-- The port that a variable sets; none if it is not a number of 16 bits. -/
def readPort (value : String) : Option UInt16 :=
  (Numeral.natural? UInt16.size value.toList).map UInt16.ofNat

/-- The delay that a variable sets; none if it is not a signed number of 64 bits. -/
def readDelay (value : String) : Option Int64 :=
  Numeral.int64? value.toList

/-- Settings with the values that the environment sets in place of their own. A port or a delay that
cannot be read is passed over. -/
def override (settings : Settings) (environment : List (String × String)) : Settings where
  server := { settings.server with
    host := (valueOf? environment hostVariable).getD settings.server.host
    port := ((valueOf? environment portVariable).bind readPort).getD settings.server.port }
  query := { settings.query with
    secondDelay :=
      ((valueOf? environment delayVariable).bind readDelay).getD settings.query.secondDelay }
  batch := settings.batch
  monitoring := { settings.monitoring with
    logLevel := (valueOf? environment logVariable).getD settings.monitoring.logLevel }

end Settings

end SeriesQuery
