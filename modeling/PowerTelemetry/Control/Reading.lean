import PowerTelemetry.Decimal.Style
import PowerTelemetry.Instant
import PowerTelemetry.Json
/-!
# Readings

A `Reading` is one row of the control window: what inverter, battery and house
meter said at one instant.  Whole numbers are 64-bit ones.  `header` and `line`
print readings as a table.
-/

namespace PowerTelemetry.Control

/-- `ControlSample`: what the devices said at one instant. -/
structure Reading where
  timestamp : Instant
  solarGeneration : Int
  batteryInput : Binary64
  batteryOutput : Binary64
  /-- Power that the house takes from the inverter. -/
  houseInput : Int
  gridWatts : Binary64
  /-- The set-point in force. -/
  requested : Int
  batteryFillRequest : Int
  /-- Power that the house takes from the grid. -/
  currentPower : Int
  /-- Power that goes out to the grid. -/
  outgoingPower : Int
  batteryFill : Int
  deriving DecidableEq, Repr, Inhabited

namespace Reading

/-- A text with blanks in front up to a width. -/
def alignRight (width : Nat) (text : String) : String :=
  String.ofList (List.replicate (width - text.length) ' ') ++ text

/-- The cells of a table row: one of fifteen characters, the others of ten. -/
def row : List String → String
  | [] => ""
  | first :: rest =>
    alignRight 15 first ++ String.join (rest.map fun cell => " " ++ alignRight 10 cell)

/-- `ControlSample::header`: the head of the table. -/
def header : String :=
  row ["timestamp", "solargen", "batinput", "batout", "housein", "gridwatts", "requested",
    "batreqfill", "powercurr", "powerout", "batfill"]

/-- A whole number as a cell. -/
def wholeCell (i : Int) : String :=
  String.ofList (Json.intText i)

/-- `ControlSample::line`: a reading as a row of the table. -/
def line (r : Reading) : String :=
  let decimal := Decimal.Style.plain.text
  row [r.timestamp.brief, wholeCell r.solarGeneration, decimal r.batteryInput,
    decimal r.batteryOutput, wholeCell r.houseInput, decimal r.gridWatts, wholeCell r.requested,
    wholeCell r.batteryFillRequest, wholeCell r.currentPower, wholeCell r.outgoingPower,
    wholeCell r.batteryFill]

end Reading

end PowerTelemetry.Control
