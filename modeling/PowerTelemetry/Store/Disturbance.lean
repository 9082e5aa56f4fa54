import PowerTelemetry.Store.Memory
/-!
# What others do to a store

A store in memory is shared.  Between any two calls of a computation somebody
else may put a table there, or arrange that a call to come will fail.  A
`Disturbance` is one such act; `disturb` gives the store after it, or nothing
if it cannot happen: a table is never put in the place of another one.
-/

namespace PowerTelemetry.Store

/-- An act of somebody else. -/
inductive Disturbance where
  | failConnect (error : StoreError)
  | failSchemaChange (error : StoreError)
  | failInsert (error : StoreError)
  /-- A table under a name that no table has. -/
  | newTable (table : String) (columns : List Column)
  deriving DecidableEq, Repr

/-- The failure that a disturbance arranges, if it arranges one. -/
def Disturbance.failure? : Disturbance → Option StoreError
  | failConnect error => some error
  | failSchemaChange error => some error
  | failInsert error => some error
  | newTable _ _ => none

namespace Memory

/-- The store after a disturbance. -/
def disturb (m : Memory) : Disturbance → Option Memory
  | .failConnect error => some (m.failConnect error)
  | .failSchemaChange error => some (m.failSchemaChange error)
  | .failInsert error => some (m.failInsert error)
  | .newTable table columns =>
    if m.tables.contains table then none else some (m.putTable table columns)

/-- The store without failures to come. -/
def calm (m : Memory) : Memory :=
  { m with connectFailures := [], schemaFailures := [], insertFailures := [] }

/-- The failures to come. -/
def pending (m : Memory) : List StoreError :=
  m.connectFailures ++ m.schemaFailures ++ m.insertFailures

end Memory

end PowerTelemetry.Store
