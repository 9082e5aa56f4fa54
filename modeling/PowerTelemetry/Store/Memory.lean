import PowerTelemetry.Store.Work
/-!
# A store in memory

`Memory` keeps tables as lists of rows.  It holds back failures to come, one
queue for each kind of call, and counts the calls.

* A `Table` has columns in the order they were added, and rows that map fields
  to values.
* `insert` checks all rows before it adds any.
* `backend` is this store as one that `Work` runs on.
-/

namespace PowerTelemetry.Store

open PowerTelemetry.Sql (Datum)

/-- A row: the values of its fields. -/
abbrev Row := Dict Datum

/-- `MemoryTable`: a table. -/
structure Table where
  columns : List Column
  rows : List Row
  deriving DecidableEq, Inhabited

/-- How often each call was made.  Of `connects`, only those that gave a handle
count. -/
structure Calls where
  creates : Nat
  adapts : Nat
  inserts : Nat
  connects : Nat
  closes : Nat
  deriving DecidableEq, Repr, Inhabited

/-- `MemoryState`: a store in memory. -/
structure Memory where
  tables : Dict Table
  calls : Calls
  /-- Failures of the connects to come. -/
  connectFailures : List StoreError
  /-- Failures of the changes of columns to come. -/
  schemaFailures : List StoreError
  /-- Failures of the inserts to come. -/
  insertFailures : List StoreError
  deriving Inhabited

/-! ## Tables -/

namespace Table

/-- `MemoryTable::column`: the column of a name. -/
def column? (t : Table) (name : String) : Option Column :=
  t.columns.find? (·.name == name)

/-- The table with one more column, if it has none of that name. -/
def addColumn (t : Table) (c : Column) : Table :=
  if (t.column? c.name).isSome then t else ⟨t.columns ++ [c], t.rows⟩

/-- The table with more columns. -/
def addColumns (t : Table) (columns : List Column) : Table :=
  columns.foldl addColumn t

end Table

/-- `accepts`: a column of a kind can hold a value.  Nulls go anywhere, whole numbers
among decimals too. -/
def accepts : ColumnKind → Datum → Bool
  | _, .text none => true
  | _, .float none => true
  | _, .integer none => true
  | .text length, .text (some s) => decide (s.length ≤ length.toNat)
  | .integer, .integer (some _) => true
  | .decimal, .float (some _) => true
  | .decimal, .integer (some _) => true
  | .timestamp, .instant _ => true
  | _, _ => false

/-! ## Refusals -/

/-- Why a call is refused that names no table. -/
def noTable : String := "no such table"

/-- Why rows are refused that have more or fewer values than fields. -/
def lengthMismatch : String := "field/value count mismatch"

/-- Why a row is refused that has a field without a column. -/
def noColumn (field : String) : String :=
  "column " ++ field ++ " does not exist"

/-- Why a row is refused that has a value of the wrong kind. -/
def rejection (field : String) (kind : ColumnKind) (value : Datum) : String :=
  "column " ++ field ++ " of kind " ++ kind.name ++ " rejects " ++ value.described

/-! ## Rows -/

/-- A row from fields and their values, checked against the columns. -/
def Table.stage (t : Table) : List (String × Datum) → Row → Except String Row
  | [], row => .ok row
  | (field, value) :: rest, row =>
    match t.column? field with
    | none => .error (noColumn field)
    | some c =>
      if accepts c.kind value then t.stage rest (row.insert field value)
      else .error (rejection field c.kind value)

/-- A row, checked for its length and against the columns. -/
def Table.checkRow (t : Table) (fields : List String) (values : List Datum) : Except String Row :=
  if values.length ≠ fields.length then .error lengthMismatch
  else t.stage (fields.zip values) Dict.empty

/-- All rows, checked one after another. -/
def Table.checkRows (t : Table) (fields : List String) :
    List (List Datum) → Except String (List Row)
  | [] => .ok []
  | values :: rest =>
    match t.checkRow fields values with
    | .error reason => .error reason
    | .ok row =>
      match t.checkRows fields rest with
      | .error reason => .error reason
      | .ok rows => .ok (row :: rows)

/-! ## Calls -/

namespace Memory

/-- The store without tables. -/
def empty : Memory :=
  ⟨Dict.empty, ⟨0, 0, 0, 0, 0⟩, [], [], []⟩

/-- `MemoryConnector::preexisting_table`: a table put there by somebody else, in the
place of one of the same name. -/
def putTable (m : Memory) (table : String) (columns : List Column) : Memory :=
  { m with tables := m.tables.insert table ⟨columns, []⟩ }

/-- `MemoryConnector::fail_next_insert`: a failure for one of the inserts to come. -/
def failInsert (m : Memory) (error : StoreError) : Memory :=
  { m with insertFailures := m.insertFailures ++ [error] }

/-- `MemoryConnector::fail_next_schema_change`: a failure for one of the changes of
columns to come. -/
def failSchemaChange (m : Memory) (error : StoreError) : Memory :=
  { m with schemaFailures := m.schemaFailures ++ [error] }

/-- A failure for one of the connects to come. -/
def failConnect (m : Memory) (error : StoreError) : Memory :=
  { m with connectFailures := m.connectFailures ++ [error] }

/-- `MemoryConnector::connect`: a new handle, numbered by the handles before it. -/
def connect (m : Memory) : Except StoreError Handle × Memory :=
  match m.connectFailures with
  | error :: rest => (.error error, { m with connectFailures := rest })
  | [] => (.ok ⟨m.calls.connects⟩, { m with calls.connects := m.calls.connects + 1 })

/-- `MemoryStorage::close`: the end of a handle. -/
def close (m : Memory) : Memory :=
  { m with calls.closes := m.calls.closes + 1 }

/-- A table's columns after a call that a failure did not stop. -/
def createNow (m : Memory) (table : String) (columns : List Column) :
    Except StoreError Unit × Memory :=
  if m.tables.contains table then (.error (.alreadyExists table), m)
  else (.ok (), m.putTable table columns)

/-- `MemoryStorage::create_table`: a new table. -/
def create (m : Memory) (table : String) (columns : List Column) :
    Except StoreError Unit × Memory :=
  let m := { m with calls.creates := m.calls.creates + 1 }
  match m.schemaFailures with
  | error :: rest => (.error error, { m with schemaFailures := rest })
  | [] => m.createNow table columns

/-- Columns added to a table, by a call that a failure did not stop. -/
def adaptNow (m : Memory) (table : String) (columns : List Column) :
    Except StoreError Unit × Memory :=
  match m.tables.get? table with
  | none => (.error (.schema table noTable), m)
  | some t => (.ok (), { m with tables := m.tables.insert table (t.addColumns columns) })

/-- `MemoryStorage::adapt_table`: columns added to a table. -/
def adapt (m : Memory) (table : String) (columns : List Column) :
    Except StoreError Unit × Memory :=
  let m := { m with calls.adapts := m.calls.adapts + 1 }
  match m.schemaFailures with
  | error :: rest => (.error error, { m with schemaFailures := rest })
  | [] => m.adaptNow table columns

/-- Rows added to a table, by a call that a failure did not stop. -/
def insertNow (m : Memory) (table : String) (fields : List String) (rows : List (List Datum)) :
    Except StoreError Unit × Memory :=
  match m.tables.get? table with
  | none => (.error (.insert table noTable), m)
  | some t =>
    match t.checkRows fields rows with
    | .error reason => (.error (.insert table reason), m)
    | .ok staged =>
      (.ok (), { m with tables := m.tables.insert table ⟨t.columns, t.rows ++ staged⟩ })

/-- `MemoryStorage::insert`: rows added to a table. -/
def insert (m : Memory) (table : String) (fields : List String) (rows : List (List Datum)) :
    Except StoreError Unit × Memory :=
  let m := { m with calls.inserts := m.calls.inserts + 1 }
  match m.insertFailures with
  | error :: rest => (.error error, { m with insertFailures := rest })
  | [] => m.insertNow table fields rows

/-- `MemoryStorage::table_columns`: the names of the columns of a table; none if there
is no table. -/
def columnNames (m : Memory) (table : String) : List String :=
  match m.tables.get? table with
  | some t => t.columns.map (·.name)
  | none => []

/-- A call that changes a table. -/
def change (m : Memory) : Change → Except StoreError Unit × Memory
  | .create table columns => m.create table columns
  | .adapt table columns => m.adapt table columns
  | .insert table fields rows => m.insert table fields rows

/-- This store, called through handles. -/
def backend : Backend Memory where
  connect := connect
  close := fun _ m => m.close
  change := fun _ c m => m.change c
  columns := fun _ table m => (.ok (m.columnNames table), m)

end Memory

end PowerTelemetry.Store
