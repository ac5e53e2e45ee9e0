import SeriesQuery.Settings.Basic
import SeriesQuery.Settings.Format
import SeriesQuery.Toml.Reader

set_option autoImplicit false

/-!
# Settings documents

Settings as a record of four records, in any format. Every record and every member may be left out
and then has its standard value; unknown members are passed over.
-/

namespace SeriesQuery.Settings

open SeriesQuery.Batch SeriesQuery.Text

section Members

variable {Value : Type} (format : Format Value)

/-- A natural number below `bound`. -/
def natural? (bound : Nat) (value : Value) : Option Nat :=
  ((format.int? value).filter fun number => decide (0 ≤ number ∧ number < (bound : Int))).map
    Int.toNat

def signed? (value : Value) : Option Int64 :=
  ((format.int? value).filter Numeral.inInt64).map Int64.ofInt

def texts? (value : Value) : Option (List String) := do
  (← format.items? value).mapM format.text?

def policy? (value : Value) : Option Policy := do
  let word ← format.word? value
  [Policy.isolate, Policy.abort].find? fun policy => policy.name == word

def server? (value : Value) : Option ServerSettings := do
  match ← format.members? ["host", "port", "cors_allowed_origins"] value with
  | [host, port, origins] =>
    return {
      host := ← Json.orDefault standard.server.host format.text? host
      port := ← Json.orDefault standard.server.port
        (fun value => (natural? format UInt16.size value).map UInt16.ofNat) port
      origins := ← Json.orDefault standard.server.origins (texts? format) origins }
  | _ => none

def query? (value : Value) : Option QuerySettings := do
  match ← format.members? ["second_delay", "resolution", "max_count"] value with
  | [delay, resolution, maxCount] =>
    return {
      secondDelay := ← Json.orDefault standard.query.secondDelay (signed? format) delay
      resolution := ← Json.orDefault standard.query.resolution
        (fun value => (natural? format UInt32.size value).map UInt32.ofNat) resolution
      maxCount := ← Json.orDefault standard.query.maxCount (natural? format UInt64.size) maxCount }
  | _ => none

def batch? (value : Value) : Option BatchSettings := do
  match ← format.members? ["failure_policy", "parallelism", "max_items"] value with
  | [policy, parallelism, maxItems] =>
    return {
      policy := ← Json.orDefault standard.batch.policy (policy? format) policy
      parallelism := ←
        Json.orDefault standard.batch.parallelism (natural? format UInt64.size) parallelism
      maxItems := ← Json.orDefault standard.batch.maxItems (natural? format UInt64.size) maxItems }
  | _ => none

def monitoring? (value : Value) : Option MonitoringSettings := do
  match ← format.members? ["metrics_enabled", "log_level"] value with
  | [enabled, level] =>
    return {
      metricsEnabled := ← Json.orDefault standard.monitoring.metricsEnabled format.bool? enabled
      logLevel := ← Json.orDefault standard.monitoring.logLevel format.text? level }
  | _ => none

def ofRecord? (value : Value) : Option Settings := do
  match ← format.members? ["server", "query", "batch", "monitoring"] value with
  | [server, query, batch, monitoring] =>
    return {
      server := ← Json.orDefault standard.server (server? format) server
      query := ← Json.orDefault standard.query (query? format) query
      batch := ← Json.orDefault standard.batch (batch? format) batch
      monitoring := ← Json.orDefault standard.monitoring (monitoring? format) monitoring }
  | _ => none

end Members

def readToml? (text : String) : Option Settings := do
  ofRecord? Format.toml (← Toml.read? text.toList)

def ofJson? (json : Json) : Option Settings :=
  ofRecord? Format.json json

end SeriesQuery.Settings
