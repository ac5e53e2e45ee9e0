import SeriesQuery.Settings.Basic

set_option autoImplicit false

/-!
# The summary of settings

The lines that show settings which were found to be valid.
-/

namespace SeriesQuery.Command

open SeriesQuery.Batch SeriesQuery.Text

def policyTitle : Policy → String
  | .isolate => "Isolate"
  | .abort => "AbortBatch"

def truthText (value : Bool) : String :=
  if value then "true" else "false"

def summary (settings : Settings) : List String := [
  "Configuration is valid!",
  "",
  "Server Settings:",
  "  Listen address: " ++ settings.listenAddress,
  "",
  "Query Settings:",
  "  Second delay: " ++ Numeral.int64Text settings.query.secondDelay ++ "s",
  "  Resolution: " ++ Numeral.natText settings.query.resolution.toNat ++ "s",
  "  Max count: " ++ Numeral.natText settings.query.maxCount,
  "",
  "Batch Settings:",
  "  Failure policy: " ++ policyTitle settings.batch.policy,
  "  Parallelism: " ++ Numeral.natText settings.batch.parallelism,
  "  Max items: " ++ Numeral.natText settings.batch.maxItems,
  "",
  "Monitoring:",
  "  Prometheus enabled: " ++ truthText settings.monitoring.metricsEnabled,
  "  Log level: " ++ settings.monitoring.logLevel]

end SeriesQuery.Command
