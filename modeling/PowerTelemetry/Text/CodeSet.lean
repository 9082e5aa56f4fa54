/-!
# Sets of characters

A `CodeSet` is a set of characters given by ranges of code points, both ends
included.
-/

namespace PowerTelemetry.Text

/-- Ranges of code points, both ends included. -/
abbrev CodeSet := List (Nat × Nat)

/-- The character lies in one of the ranges. -/
def CodeSet.contains (s : CodeSet) (c : Char) : Bool :=
  s.any fun r => decide (r.1 ≤ c.toNat ∧ c.toNat ≤ r.2)

end PowerTelemetry.Text
