import PowerTelemetry.Text.Lowercase
/-!
# Destinations

Which table the samples of a device go to.  Every stream of a device has a
table of its own, unless all samples share one.  The names of tables are
lower-case.
-/

namespace PowerTelemetry

/-- `DestinationNaming`: how tables are named. -/
structure Naming where
  /-- Goes in front of the tables of decoded records, if it is not empty. -/
  lead : String
  /-- The one table for all samples, if there is one. -/
  shared : Option String
  deriving DecidableEq, Repr, Inhabited

namespace Naming

/-- `DestinationNaming::route`: the table for a stream of a given name. -/
def route (n : Naming) (name : String) : String :=
  Text.lowercase (n.shared.getD name)

/-- `DestinationNaming::mqtt`: the table of the JSON messages of a device. -/
def push (n : Naming) (serialNumber : String) : String :=
  n.route (serialNumber ++ "_mqtt")

/-- `DestinationNaming::quota`: the table of the snapshots that a device was polled
for. -/
def quota (n : Naming) (serialNumber : String) : String :=
  n.route ("device_" ++ serialNumber ++ "_quota")

/-- `DestinationNaming::record`: the table of one kind of decoded records of a
device. -/
def record (n : Naming) (serialNumber kind : String) : String :=
  let name := serialNumber ++ "_" ++ kind
  n.route (if n.lead.isEmpty then name else n.lead ++ "_" ++ name)

end Naming

end PowerTelemetry
