import PowerTelemetry.Decimal.Style
/-!
# Cloud errors

What can go wrong between this service and the cloud.
-/

namespace PowerTelemetry.Cloud

/-- Why a call of the cloud failed. -/
inductive Error where
  /-- No answer came, or one that could not be read. -/
  | transport
  /-- A set-point beyond what devices take; nothing was sent. -/
  | setpointOutOfRange (watts : Binary64)
  /-- The cloud refused. -/
  | refused (code message : String)
  /-- The cloud refused a set-point. -/
  | setpointRefused (code message : String)
  /-- The answer holds nothing. -/
  | noData
  /-- Any other report. -/
  | reported (text : String)
  deriving DecidableEq, Repr

/-- The text of an error. -/
def Error.message : Error → String
  | transport => "HTTP error"
  | setpointOutOfRange watts =>
    "Cloud API error: set-point " ++ Decimal.Style.plain.text watts ++ " W outside 0..=6000 W"
  | refused code message => "Cloud API error: code " ++ code ++ ": " ++ message
  | setpointRefused code message =>
    "Cloud API error: set-point rejected with code " ++ code ++ ": " ++ message
  | noData => "Cloud API error: response carries no data"
  | reported text => "Cloud API error: " ++ text

end PowerTelemetry.Cloud
