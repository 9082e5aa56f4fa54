import PowerTelemetry.Store.Work
/-!
# Known columns

A `Reconciler` remembers the columns of the tables it has seen, so that a table
is created once and grows by the columns it lacks.

`ensure` makes sure that a table has columns.  A table that is not known is
created; if it turns out to be there already, its columns are read.  Of a known
table, the missing columns are added.  What is remembered changes only after a
call of the store that succeeded.
-/

namespace PowerTelemetry

open Store (Work Handle)

/-- `SchemaReconciler`: the known tables and the names of their columns. -/
structure Reconciler where
  known : Dict (Dict Unit)
  deriving Inhabited

namespace Reconciler

/-- `SchemaReconciler::new`, and what `reset` leaves: nothing is known. -/
def empty : Reconciler :=
  ⟨Dict.empty⟩

/-- A set of names with more names. -/
def withNames (names : Dict Unit) (more : List String) : Dict Unit :=
  more.foldl (fun d name => d.insert name ()) names

/-- `SchemaReconciler::is_known`: the table is known. -/
def isKnown (r : Reconciler) (table : String) : Bool :=
  r.known.contains table

/-- `SchemaReconciler::known_columns`: the names of the known columns of a table,
ascending. -/
def knownColumns? (r : Reconciler) (table : String) : Option (List String) :=
  (r.known.get? table).map Dict.names

/-- The known columns of a table. -/
def columnsOf (r : Reconciler) (table : String) : Dict Unit :=
  (r.known.get? table).getD Dict.empty

/-- The table is known to have just these columns. -/
def learn (r : Reconciler) (table : String) (names : List String) : Reconciler :=
  ⟨r.known.insert table (withNames Dict.empty names)⟩

/-- The table is known to have these columns too. -/
def learnMore (r : Reconciler) (table : String) (names : List String) : Reconciler :=
  ⟨r.known.insert table (withNames (r.columnsOf table) names)⟩

/-- The columns that a table is not known to have. -/
def missing (r : Reconciler) (table : String) (columns : List Column) : List Column :=
  columns.filter fun c => !(r.columnsOf table).contains c.name

/-- The missing columns added to a known table, with which
`SchemaReconciler::ensure_columns` ends. -/
def grow (r : Reconciler) (handle : Handle) (table : String) (columns : List Column) :
    Work (Except StoreError (List Column) × Reconciler) := do
  let missing := r.missing table columns
  if missing.isEmpty then return (.ok [], r)
  match ← Work.changed handle (.adapt table missing) with
  | .ok () => return (.ok missing, r.learnMore table (missing.map (·.name)))
  | .error error => return (.error error, r)

/-- The columns of a table that is there already, and then the missing ones added, as
`SchemaReconciler::ensure_columns` does for such a table. -/
def adopt (r : Reconciler) (handle : Handle) (table : String) (columns : List Column) :
    Work (Except StoreError (List Column) × Reconciler) := do
  match ← Work.columnNames handle table with
  | .ok names => (r.learn table names).grow handle table columns
  | .error error => return (.error error, r)

/-- `SchemaReconciler::ensure_columns`: the columns of a table that were created or
added so that it has these, and what is known then. -/
def ensure (r : Reconciler) (handle : Handle) (table : String) (columns : List Column) :
    Work (Except StoreError (List Column) × Reconciler) := do
  if r.isKnown table then r.grow handle table columns
  else
    match ← Work.changed handle (.create table columns) with
    | .ok () => return (.ok columns, r.learn table (columns.map (·.name)))
    | .error (.alreadyExists _) => r.adopt handle table columns
    | .error error => return (.error error, r)

end Reconciler

end PowerTelemetry
