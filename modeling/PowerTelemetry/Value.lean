import PowerTelemetry.Instant
import PowerTelemetry.Json
/-!
# Attribute values

A device reports attributes.  A `Value` is what an attribute can hold once it
is inside: a text, a whole number of 64 bits, a decimal, an instant, or a JSON
array or object kept as it is.

* `ofBinary64` and `ofJson` bring numbers and JSON in.  A double that denotes a
  whole number becomes one, so `4` and `4.0` are the same value.  Booleans and
  nulls have no value, nor have infinities.
* `asInstant?` reads a value as a point in time.
-/

namespace PowerTelemetry

/-- What an attribute holds. -/
inductive Value where
  | text (s : String)
  | integer (i : Int64)
  | decimal (x : Binary64)
  | timestamp (t : Instant)
  | nested (j : Json)
  deriving Repr, Inhabited

/-- The kinds of JSON that no value holds. -/
inductive Unstorable where
  | null
  | bool
  deriving DecidableEq, Repr

/-- Why an attribute has no value. -/
inductive InferError where
  | unsupported (name : String) (kind : Unstorable)
  | nonFinite (name : String) (x : Binary64)
  deriving DecidableEq, Repr

/-- The name of a kind of JSON. -/
def Unstorable.name : Unstorable → String
  | null => "null"
  | bool => "bool"

/-- The text of an `InferError`. -/
def InferError.message : InferError → String
  | unsupported name kind =>
    "attribute " ++ name ++ ": unsupported value kind " ++ kind.name
  | nonFinite name x =>
    "attribute " ++ name ++ ": non-finite number " ++ Decimal.Style.plain.text x

namespace Value

/-- `Value::from_f64`: the value of a double, a whole number where it denotes one. -/
def ofBinary64 (name : String) (x : Binary64) : Except InferError Value :=
  if !x.isFinite then .error (.nonFinite name x)
  else match x.int64? with
    | some i => .ok (.integer i)
    | none => .ok (.decimal x)

/-- The value of a JSON number, a case of `Value::from_json`. -/
def ofNumber (name : String) : JsonNumber → Except InferError Value
  | .natural n =>
    if n.toNat < Nat.pow 2 63 then .ok (.integer (Int64.ofNat n.toNat))
    else ofBinary64 name (Binary64.ofNat n.toNat)
  | .negative i => .ok (.integer i)
  | .float x => ofBinary64 name x

/-- `Value::from_json`: the value of JSON. -/
def ofJson (name : String) : Json → Except InferError Value
  | .string s => .ok (.text s)
  | .number n => ofNumber name n
  | .array items => .ok (.nested (.array items))
  | .object members => .ok (.nested (.object members))
  | .bool _ => .error (.unsupported name .bool)
  | .null => .error (.unsupported name .null)

/-- `Value::as_timestamp`: the point in time that a value denotes, which is an
instant, whole seconds, or a text in the internet date and time format. -/
def asInstant? : Value → Option Instant
  | .timestamp t => some t
  | .integer i => Instant.ofUnixSeconds? i.toInt
  | .text s => Instant.ofRfc3339? s
  | .decimal _ => none
  | .nested _ => none

end Value

end PowerTelemetry
