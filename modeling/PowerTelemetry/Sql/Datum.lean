import PowerTelemetry.Column
import PowerTelemetry.Text.Quoted
/-!
# Values of a database row

A `Datum` is one value that is bound to a statement.  `ofCell` makes it
from what a sample has for a column, `described` shows it in error texts.
-/

namespace PowerTelemetry.Sql

/-- `SqlValue`: a value bound to a statement; all but an instant may be null. -/
inductive Datum where
  | instant (t : Instant)
  | text (s : Option String)
  | float (x : Option Binary64)
  | integer (i : Option Int64)
  deriving DecidableEq, Repr, Inhabited

namespace Datum

/-- `to_sql`: the value for a column of a kind, from a sample taken at an instant. -/
def ofCell (capturedAt : Instant) (cell : Column.Cell) : Datum :=
  if cell.kind = .timestamp then .instant (cell.value.asInstant?.getD capturedAt)
  else match cell.value with
    | .text s => .text (some s)
    | .integer i => .integer (some i)
    | .decimal x =>
      match x.int64? with
      | some i => .integer (some i)
      | none => .float (some x)
    | .timestamp t => .instant t
    | .nested j => .text (some j.compact)

/-- An optional text inside a description. -/
def describedOption : Option String → String
  | some s => "Some(" ++ s ++ ")"
  | none => "None"

/-- A value, shown with its kind. -/
def described : Datum → String
  | .instant t => "Ts(" ++ t.detailed ++ ")"
  | .text s => "Text(" ++ describedOption (s.map Text.quoted) ++ ")"
  | .float x => "F64(" ++ describedOption (x.map Decimal.Style.detailed.text) ++ ")"
  | .integer i => "I64(" ++ describedOption (i.map fun i => toString i.toInt) ++ ")"

end Datum

/-- The field names of a sample's row, ascending; the first part of `row`. -/
def fields (cells : Dict Column.Cell) : List String :=
  cells.names

/-- The values of a sample's row, in the order of its fields; the second part of
`row`. -/
def row (capturedAt : Instant) (cells : Dict Column.Cell) : List Datum :=
  cells.values.map (Datum.ofCell capturedAt)

end PowerTelemetry.Sql
