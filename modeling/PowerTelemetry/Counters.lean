import PowerTelemetry.Dict
/-!
# Counters

How many messages each device sent, and how many rows went into each
destination or failed to.  `report` shows all of them.

The service keeps a count in 64 bits.  It goes up by one for a message or a row,
so that no run gets it to `2^64`, and a natural number stands for it.
-/

namespace PowerTelemetry

/-- `DeviceCounters`: the messages of a device, by the way they came. -/
structure DeviceCount where
  polled : Nat
  pushed : Nat
  deriving DecidableEq, Repr, Inhabited

/-- `DestinationCounters`: the rows of a destination. -/
structure DestinationCount where
  inserted : Nat
  failed : Nat
  deriving DecidableEq, Repr, Inhabited

/-- `Stats`: the counts of all devices and destinations. -/
structure Counters where
  devices : Dict DeviceCount
  destinations : Dict DestinationCount
  deriving Inhabited

namespace Counters

/-- Nothing was counted. -/
def empty : Counters :=
  ⟨Dict.empty, Dict.empty⟩

/-- `Stats::device`: the counts of a device. -/
def device (c : Counters) (serialNumber : String) : DeviceCount :=
  (c.devices.get? serialNumber).getD ⟨0, 0⟩

/-- `Stats::destination`: the counts of a destination. -/
def destination (c : Counters) (name : String) : DestinationCount :=
  (c.destinations.get? name).getD ⟨0, 0⟩

/-- `Stats::http_received`: one more message that a device was polled for. -/
def countPolled (c : Counters) (serialNumber : String) : Counters :=
  let n := c.device serialNumber
  { c with devices := c.devices.insert serialNumber { n with polled := n.polled + 1 } }

/-- `Stats::mqtt_received`: one more message that a device pushed. -/
def countPushed (c : Counters) (serialNumber : String) : Counters :=
  let n := c.device serialNumber
  { c with devices := c.devices.insert serialNumber { n with pushed := n.pushed + 1 } }

/-- `Stats::inserted`: more rows in a destination. -/
def countInserted (c : Counters) (name : String) (rows : Nat) : Counters :=
  let n := c.destination name
  { c with destinations := c.destinations.insert name { n with inserted := n.inserted + rows } }

/-- `Stats::failed`: one more row that a destination did not take. -/
def countFailed (c : Counters) (name : String) : Counters :=
  let n := c.destination name
  { c with destinations := c.destinations.insert name { n with failed := n.failed + 1 } }

theorem destination_countInserted (c : Counters) (name : String) (rows : Nat) (other : String) :
    (c.countInserted name rows).destination other
      = if name = other then
          ⟨(c.destination other).inserted + rows, (c.destination other).failed⟩
        else c.destination other := by
  simp only [destination, countInserted, Dict.get?_insert]
  split
  · rename_i h
    subst h
    rfl
  · rfl

theorem destination_countFailed (c : Counters) (name other : String) :
    (c.countFailed name).destination other
      = if name = other then
          ⟨(c.destination other).inserted, (c.destination other).failed + 1⟩
        else c.destination other := by
  simp only [destination, countFailed, Dict.get?_insert]
  split
  · rename_i h
    subst h
    rfl
  · rfl

/-! ## Report -/

/-- A count with at least three digits. -/
def threeDigits (n : Nat) : String :=
  let digits := Nat.toDigits 10 n
  String.ofList (List.replicate (3 - digits.length) '0' ++ digits)

/-- The line of a device. -/
def deviceLine (serialNumber : String) (n : DeviceCount) : String :=
  "  " ++ serialNumber ++ " got http=" ++ threeDigits n.polled
    ++ " mqtt=" ++ threeDigits n.pushed ++ " messages\n"

/-- The line of a destination; failures show only where there are any. -/
def destinationLine (name : String) (n : DestinationCount) : String :=
  "  " ++ name ++ " inserted " ++ threeDigits n.inserted ++ " records"
    ++ (if n.failed = 0 then "" else ", " ++ threeDigits n.failed ++ " failed") ++ "\n"

/-- `Stats::report`: all counts, devices first. -/
def report (c : Counters) : String :=
  "Statistics:\n"
    ++ String.join (c.devices.entries.map fun e => deviceLine e.1 e.2)
    ++ String.join (c.destinations.entries.map fun e => destinationLine e.1 e.2)

end Counters

end PowerTelemetry
