/-!
# Schedules

What happens at fixed times from a start on, until a stop.  Times are in
milliseconds after the start.
-/

namespace PowerTelemetry.Schedule

/-- The multiples of a period before a stop, from zero on. -/
def ticks (period stop : Nat) : List Nat :=
  (List.range ((stop + period - 1) / period)).map (· * period)

/-- The times of something done at once and then every period; nothing without
a period. -/
def immediate? (period stop : Nat) : Option (List Nat) :=
  if period = 0 then none else some (ticks period stop)

/-- The times of something done every period, first after one; nothing without
a period. -/
def delayed? (period stop : Nat) : Option (List Nat) :=
  (immediate? period stop).map (·.drop 1)

end PowerTelemetry.Schedule
