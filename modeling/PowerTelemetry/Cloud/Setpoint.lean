import PowerTelemetry.Cloud.Error
import PowerTelemetry.Json
/-!
# Set-points

The power that an inverter is told to feed in permanently.  It lies within
`0` and `6000` watts; devices take it in tenths of a watt.
-/

namespace PowerTelemetry.Cloud

/-- `MAX_SETPOINT_WATTS`: the highest set-point. -/
def maxSetpoint : Binary64 :=
  Binary64.ofNat 6000

/-- `validate_setpoint`: a set-point that devices take, or why they do not. -/
def checkSetpoint (watts : Binary64) : Except Error Binary64 :=
  if watts.isFinite && (Binary64.ofNat 0).le watts && watts.le maxSetpoint then .ok watts
  else .error (.setpointOutOfRange watts)

/-- Tenths of a watt, rounded. -/
def deciwatts (watts : Binary64) : Int64 :=
  (watts.mul (Binary64.ofNat 10)).roundToInt64

/-- An integer in JSON. -/
def jsonInteger (i : Int64) : Json :=
  if i.toInt < 0 then .number (.negative i) else .number (.natural (UInt64.ofNat i.toInt.toNat))

/-- The body that tells a device its set-point, as `EcoflowClient::set_power_setpoint`
sends it. -/
def setpointBody (serialNumber : String) (watts : Binary64) : Json :=
  .object
    [("cmdCode", .string "WN511_SET_PERMANENT_WATTS_PACK"),
     ("params", .object [("permanentWatts", jsonInteger (deciwatts watts))]),
     ("sn", .string serialNumber)]

end PowerTelemetry.Cloud
