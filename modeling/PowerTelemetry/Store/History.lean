import PowerTelemetry.Store.Memory
/-!
# Histories of a store

Whatever is done to a store in memory is an `Act`: a call, or what a test
arranges.  Unlike a `Disturbance` an act can always happen, so a table may also be
put in the place of another one.  `acts` is the store after a history of acts.
-/

namespace PowerTelemetry.Store

/-- Something that is done to a store in memory. -/
inductive Act where
  /-- A call for a new handle. -/
  | connect
  /-- The end of a handle. -/
  | close
  /-- A call that changes a table. -/
  | change (change : Change)
  /-- A call for the names of the columns of a table. -/
  | read (table : String)
  | failConnect (error : StoreError)
  | failSchemaChange (error : StoreError)
  | failInsert (error : StoreError)
  /-- A table without rows, in the place of one of the same name. -/
  | putTable (table : String) (columns : List Column)
  deriving DecidableEq, Repr

namespace Memory

/-- The store after an act. -/
def act (m : Memory) : Act → Memory
  | .connect => m.connect.2
  | .close => m.close
  | .change c => (m.change c).2
  | .read _ => m
  | .failConnect error => m.failConnect error
  | .failSchemaChange error => m.failSchemaChange error
  | .failInsert error => m.failInsert error
  | .putTable table columns => m.putTable table columns

/-- The store after acts, one after another. -/
def acts (m : Memory) (history : List Act) : Memory :=
  history.foldl act m

end Memory

end PowerTelemetry.Store
