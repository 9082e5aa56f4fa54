import PowerTelemetry.Search
import PowerTelemetry.Text.Lowercase
/-!
# Store errors

What can go wrong in a store.  `DatabaseError` is what a database and the
connections to it report, `StoreError` is what an operation of a store reports.

`isConnectionClosed` tells whether the connection is gone, so that a new one is
needed.  Some reports say so only in their text: `mentionsClosing` looks for it.

`classify` and its kin turn the report of a statement into the error of the
operation: a table that was there already and a connection that is gone keep
their meaning whatever the operation.
-/

namespace PowerTelemetry

/-- A report of a database or of the connections to it. -/
inductive DatabaseError where
  | configuration (text : String)
  | poolClosed
  | poolTimedOut
  | workerCrashed
  | rowNotFound
  | io (text : String)
  | encryption (text : String)
  | protocol (text : String)
  | typeNotFound (name : String)
  | columnOutOfBounds (index length : Nat)
  | columnNotFound (name : String)
  | columnDecode (column reason : String)
  | decode (reason : String)
  | driver (text : String)
  | migration (text : String)
  /-- What the server says of a statement, under one of its codes. -/
  | statement (code : Option String) (text : String)
  deriving DecidableEq, Repr

/-- `StorageError`: an error of an operation of a store. -/
inductive StoreError where
  | alreadyExists (table : String)
  | connectionClosed (reason : String)
  | schema (table reason : String)
  | insert (table reason : String)
  | database (error : DatabaseError)
  deriving DecidableEq, Repr

namespace DatabaseError

/-- The text of a report. -/
def message : DatabaseError → String
  | configuration text => "error with configuration: " ++ text
  | poolClosed => "attempted to acquire a connection on a closed pool"
  | poolTimedOut => "pool timed out while waiting for an open connection"
  | workerCrashed => "attempted to communicate with a crashed background worker"
  | rowNotFound => "no rows returned by a query that expected to return at least one row"
  | io text => "error communicating with database: " ++ text
  | encryption text => "error occurred while attempting to establish a TLS connection: " ++ text
  | protocol text => "encountered unexpected or invalid data: " ++ text
  | typeNotFound name => "type named " ++ name ++ " not found"
  | columnOutOfBounds index length =>
    "column index out of bounds: the len is " ++ toString length ++ ", but the index is "
      ++ toString index
  | columnNotFound name => "no column found for name: " ++ name
  | columnDecode column reason =>
    "error occurred while decoding column " ++ column ++ ": " ++ reason
  | decode reason => "error occurred while decoding: " ++ reason
  | driver text => "error in Any driver mapping: " ++ text
  | migration text => text
  | statement _ text => "error returned from database: " ++ text

/-- The code under which the server reports, if it gives one. -/
def code? : DatabaseError → Option String
  | statement code _ => code
  | _ => none

/-- The text says, in letters of any case, that a connection was closed. -/
def mentionsClosing (text : String) : Bool :=
  let lowered := (Text.lowercase text).toList
  Search.occurs "conn closed".toList lowered || Search.occurs "connection closed".toList lowered

/-- `is_closed_sqlx`: the report of a connection that is gone. -/
def isConnectionClosed : DatabaseError → Bool
  | poolClosed => true
  | workerCrashed => true
  | io _ => true
  | other => mentionsClosing other.message

end DatabaseError

namespace StoreError

/-- The text of an error. -/
def message : StoreError → String
  | alreadyExists table => "table " ++ table ++ " already exists"
  | connectionClosed reason => "connection closed: " ++ reason
  | schema table reason => "schema change on " ++ table ++ " failed: " ++ reason
  | insert table reason => "insert into " ++ table ++ " failed: " ++ reason
  | database error => "DB error: " ++ error.message

/-- `StorageError::is_connection_closed`: the connection is gone. -/
def isConnectionClosed : StoreError → Bool
  | connectionClosed _ => true
  | database error => error.isConnectionClosed
  | _ => false

/-- `DUPLICATE_TABLE`: the database's code for a table that is there already. -/
def duplicateTable : String := "42P07"

/-- `classify`: the error that a report is, which is a table that is there already, a
connection that is gone, or the report itself. -/
def classify (error : DatabaseError) : StoreError :=
  match error with
  | .statement (some code) text =>
    if code = duplicateTable then alreadyExists text else closedOr error
  | _ => closedOr error
where
  /-- A connection that is gone, or the report itself. -/
  closedOr (error : DatabaseError) : StoreError :=
    if error.isConnectionClosed then connectionClosed (database error).message
    else database error

/-- `schema_error`: the error of a change to a table. -/
def ofSchemaChange (table : String) (error : DatabaseError) : StoreError :=
  match classify error with
  | database error => schema table error.message
  | other => other

/-- The error of an insert into a table, as `PgStorage::insert` makes it. -/
def ofInsert (table : String) (error : DatabaseError) : StoreError :=
  match classify error with
  | database error => insert table error.message
  | other => other

end StoreError

end PowerTelemetry
