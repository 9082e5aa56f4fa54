import PowerTelemetry.Sql.Statement
import PowerTelemetry.Store.Work
/-!
# A store on a database server

A `Server` performs statements.  `Server.backend` makes a store of it: each call
is the statement that does what the call asks for, or none if there is nothing
to do, and what the server reports is the error of the call.
-/

namespace PowerTelemetry.Store

open PowerTelemetry.Sql (Datum Statement)

/-- What a server finds: values under names, in their order. -/
abbrev Record := List (String × Datum)

/-- A database server with states of type `σ`. -/
structure Server (σ : Type) where
  connect : σ → Except DatabaseError Handle × σ
  close : Handle → σ → σ
  perform : Handle → Statement → σ → Except DatabaseError (List Record) × σ

/-! ## Changes -/

namespace Change

/-- The statement of a change; none where there is nothing to add. -/
def statement? : Change → Option Statement
  | create table columns => some (.create table columns)
  | adapt table columns => if columns.isEmpty then none else some (.adapt table columns)
  | insert table fields rows => if rows.isEmpty then none else some (.insert table fields rows)

/-- The error of a change whose statement ends with a report. -/
def failure : Change → DatabaseError → StoreError
  | create table _ => .ofSchemaChange table
  | adapt table _ => .ofSchemaChange table
  | insert table _ _ => .ofInsert table

end Change

/-! ## Records -/

namespace Record

/-- A value that is not of the kind that is asked for. -/
def mismatch (name : String) : DatabaseError :=
  .columnDecode (Text.quoted name) "mismatched types"

/-- The value under a name. -/
def value (r : Record) (name : String) : Except DatabaseError Datum :=
  match r.lookup name with
  | some d => .ok d
  | none => .error (.columnNotFound name)

/-- A whole number under a name; null counts as zero. -/
def wholeNumber (r : Record) (name : String) : Except DatabaseError Int64 := do
  match ← r.value name with
  | .integer i => return i.getD 0
  | .float none | .text none => return 0
  | _ => throw (mismatch name)

/-- A number under a name; null counts as zero. -/
def number (r : Record) (name : String) : Except DatabaseError Binary64 := do
  match ← r.value name with
  | .float x => return x.getD (Binary64.ofNat 0)
  | .integer none | .text none => return Binary64.ofNat 0
  | _ => throw (mismatch name)

/-- An instant under a name. -/
def instant (r : Record) (name : String) : Except DatabaseError Instant := do
  match ← r.value name with
  | .instant t => return t
  | _ => throw (mismatch name)

/-- A text in the first place. -/
def firstText : Record → Except DatabaseError String
  | (_, .text (some s)) :: _ => .ok s
  | (name, _) :: _ => .error (mismatch name)
  | [] => .error (.columnOutOfBounds 0 0)

end Record

/-! ## Calls -/

namespace Server

variable {σ : Type}

/-- `PgConnector::connect`: a new handle. -/
def connected (server : Server σ) (s : σ) : Except StoreError Handle × σ :=
  let (answer, s) := server.connect s
  (answer.mapError StoreError.classify, s)

/-- A call that changes a table: `PgStorage::create_table`, `adapt_table` and
`insert`, each with its own statement and its own errors. -/
def change (server : Server σ) (handle : Handle) (c : Change) (s : σ) :
    Except StoreError Unit × σ :=
  match c.statement? with
  | none => (.ok (), s)
  | some statement =>
    let (answer, s) := server.perform handle statement s
    ((answer.map fun _ => ()).mapError c.failure, s)

/-- `PgStorage::table_columns`: the names of the columns of a table, in their
order. -/
def columns (server : Server σ) (handle : Handle) (table : String) (s : σ) :
    Except StoreError (List String) × σ :=
  let (answer, s) := server.perform handle (.columns table) s
  ((answer.bind (·.mapM Record.firstText)).mapError StoreError.classify, s)

/-- The server as a store. -/
def backend (server : Server σ) : Backend σ where
  connect := server.connected
  close := server.close
  change := server.change
  columns := server.columns

end Server

end PowerTelemetry.Store
