import PowerTelemetry.Dict
import PowerTelemetry.Text.Lowercase
import PowerTelemetry.Value
/-!
# Columns

An attribute becomes a column of a table.  `normalizeName` gives its name:
lower-case, with underscores for points, and marked with `eco_`.  The two
attributes that every sample has, `timestamp` and `serial_number`, keep their
bare names, and a name that is marked already stays as it is.  `kindOf` gives
its kind from the value at hand.

`inferAll` does this for all attributes of a sample.  Two attributes can
share a column; the first one that has a kind, in the order of attribute names,
keeps it.
-/

namespace PowerTelemetry

/-- What a column holds. -/
inductive ColumnKind where
  | text (length : UInt32)
  | integer
  | decimal
  | timestamp
  deriving DecidableEq, Repr, Inhabited

/-- `ColumnKind::fmt`: the text of a kind. -/
def ColumnKind.name : ColumnKind → String
  | text length => "text(" ++ toString length.toNat ++ ")"
  | integer => "integer"
  | decimal => "decimal"
  | timestamp => "timestamp"

/-- `ColumnSpec`: a column of a table. -/
structure Column where
  name : String
  kind : ColumnKind
  deriving DecidableEq, Repr, Inhabited

namespace Column

/-! ## Names -/

/-- `TIMESTAMP_ATTR`: the attribute that holds when a sample was taken. -/
def timestampName : String := "timestamp"

/-- `SERIAL_NUMBER_ATTR`: the attribute that holds which device a sample is from. -/
def serialNumberName : String := "serial_number"

/-- `COLUMN_PREFIX`: the mark in front of the columns of other attributes. -/
def mark : String := "eco_"

/-- The lower-case name with underscores for points, the first half of
`normalize_name`. -/
def plainName (path : String) : String :=
  String.ofList ((Text.lowercase path).toList.map fun c => if c = '.' then '_' else c)

/-- One of the two bare names. -/
def isReserved (name : String) : Bool :=
  name == timestampName || name == serialNumberName

/-- A name with the mark in front. -/
def isMarked (name : String) : Bool :=
  mark.toList.isPrefixOf name.toList

/-- `normalize_name`: the column of an attribute. -/
def normalizeName (path : String) : String :=
  let name := plainName path
  if isReserved name || isMarked name then name else mark ++ name

/-! ## Kinds -/

/-- `TEXT_LENGTH`: the length of text columns. -/
def textLength : UInt32 := 255

/-- `NESTED_LENGTH`: the least length of columns of nested values. -/
def leastNestedLength : UInt32 := 1024

/-- `nested_length`: the length of the column for a nested value of a given text.  It
has room for the text and as much again as the least length, once it is longer than
that. -/
def nestedLength (text : String) : UInt32 :=
  let length := UInt32.ofNat text.length
  if leastNestedLength < length then leastNestedLength + length else leastNestedLength

/-- The kind of column that a value needs, as `infer_column` has it but for the
timestamp. -/
def kindOf (path : String) : Value → Except InferError ColumnKind
  | .text _ => .ok (.text textLength)
  | .timestamp _ => .ok .timestamp
  | .integer _ => .ok .integer
  | .decimal x =>
    if !x.isFinite then .error (.nonFinite path x)
    else if x.isIntegral then .ok .integer
    else .ok .decimal
  | .nested j => .ok (.text (nestedLength j.compact))

/-- `infer_column`: the column of an attribute with a value.  The timestamp column
holds instants whatever the value is. -/
def infer (path : String) (value : Value) : Except InferError Column :=
  let name := normalizeName path
  if name = timestampName then .ok ⟨name, .timestamp⟩
  else (kindOf path value).map fun kind => ⟨name, kind⟩

/-! ## All attributes of a sample -/

/-- What a sample has for a column: the kind that it needs and the value. -/
structure Cell where
  kind : ColumnKind
  value : Value
  deriving Repr, Inhabited

/-- The columns so far with the one of one more attribute, if that has a column of its
own; a round of the loop in `infer_columns`. -/
def addInferred (columns : Dict Cell) (reported : String × Value) : Dict Cell :=
  match infer reported.1 reported.2 with
  | .ok column =>
    if columns.contains column.name then columns
    else columns.insert column.name ⟨column.kind, reported.2⟩
  | .error _ => columns

/-- `infer_columns`: the columns of all attributes, by column name. -/
def inferAll (attributes : Dict Value) : Dict Cell :=
  attributes.entries.foldl addInferred Dict.empty

/-- The columns of a sample, by name. -/
def ofCells (cells : Dict Cell) : List Column :=
  cells.entries.map fun e => ⟨e.1, e.2.kind⟩

end Column

end PowerTelemetry
