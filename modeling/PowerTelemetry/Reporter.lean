import PowerTelemetry.Counters
import PowerTelemetry.Schedule
/-!
# The reporter

Every period the reporter logs the counters, and at the end that it stopped.
-/

namespace PowerTelemetry.Reporter

/-- A report without the line break at its end. -/
def entry (c : Counters) : String :=
  String.ofList (c.report.toList.reverse.dropWhile (· = '\n')).reverse

/-- `run_reporter`: what is logged until a stop, of counters that change with time;
nothing without a period. -/
def log? (counters : Nat → Counters) (period stop : Nat) : Option (List String) :=
  (Schedule.delayed? period stop).map fun times =>
    times.map (fun t => entry (counters t)) ++ ["statistics stopped"]

end PowerTelemetry.Reporter
