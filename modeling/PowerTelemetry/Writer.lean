import PowerTelemetry.Counters
import PowerTelemetry.Reconciler
import PowerTelemetry.Sample
/-!
# The writer

A `Writer` stores samples, each as one row of its destination.  It holds the
handle to the store, if there is one, what it knows of the tables, and the
counters.

`store` connects if need be, gives the destination the columns of the sample,
and inserts the row.  A sample that fails is counted and dropped.  If the
failure says that the connection is gone, the writer gives up its handle and
what it knows, and connects again.  `run` stores one request after another and
closes the handle at the end.
-/

namespace PowerTelemetry

open Store (Work Handle)

/-- A sample on its way to a destination. -/
structure StoreRequest where
  destination : String
  sample : Sample
  deriving Inhabited

/-- `StorageWriter`: the state of the writer between two requests. -/
structure Writer where
  handle : Option Handle
  known : Reconciler
  counters : Counters
  deriving Inhabited

namespace Writer

/-- `StorageWriter::new`: a writer without a handle. -/
def start (counters : Counters) : Writer :=
  ⟨none, Reconciler.empty, counters⟩

/-- The insert of a sample's row, whose fields and values are those of `row`. -/
def insertion (destination : String) (sample : Sample) (cells : Dict Column.Cell) : Store.Change :=
  .insert destination (Sql.fields cells) [Sql.row sample.capturedAt cells]

/-- The columns of a sample ensured and its row inserted, through a handle;
`StorageWriter::try_store` from there on. -/
def storeThrough (w : Writer) (handle : Handle) (destination : String) (sample : Sample) :
    Work (Except StoreError Unit × Writer) := do
  let cells := Column.inferAll sample.attributes
  let (ensured, known) ← w.known.ensure handle destination (Column.ofCells cells)
  let w := { w with known := known }
  match ensured with
  | .error error => return (.error error, w)
  | .ok _ => return (← Work.changed handle (insertion destination sample cells), w)

/-- `StorageWriter::try_store`: one attempt to store a sample, with a new handle if
there is none. -/
def attempt (w : Writer) (destination : String) (sample : Sample) :
    Work (Except StoreError Unit × Writer) :=
  match w.handle with
  | some handle => w.storeThrough handle destination sample
  | none => do
    match ← Work.connected with
    | .ok handle =>
      storeThrough ⟨some handle, w.known, w.counters⟩ handle destination sample
    | .error error => return (.error error, w)

/-- The handle closed, if there is one. -/
def closeHandle (w : Writer) : Work Unit :=
  match w.handle with
  | some handle => Work.closed handle
  | none => return ()

/-- `StorageWriter::reconnect`: a new handle in the place of the old one, with nothing
known; no handle if connecting fails. -/
def reconnect (w : Writer) : Work Writer := do
  w.closeHandle
  match ← Work.connected with
  | .ok handle => return ⟨some handle, Reconciler.empty, w.counters⟩
  | .error _ => return ⟨none, Reconciler.empty, w.counters⟩

/-- The writer after the result of an attempt is counted. -/
def counted (w : Writer) (destination : String) : Except StoreError Unit → Writer
  | .ok () => { w with counters := w.counters.countInserted destination 1 }
  | .error _ => { w with counters := w.counters.countFailed destination }

/-- The result says that the connection is gone. -/
def losesConnection : Except StoreError Unit → Bool
  | .ok () => false
  | .error error => error.isConnectionClosed

/-- The result of an attempt counted, and the connection replaced if it is lost; what
`StorageWriter::store` does with a result. -/
def conclude (w : Writer) (destination : String) (result : Except StoreError Unit) :
    Work Writer :=
  let w := w.counted destination result
  if losesConnection result then w.reconnect else return w

/-- `StorageWriter::store`: a sample stored in a destination and counted. -/
def store (w : Writer) (destination : String) (sample : Sample) :
    Work (Except StoreError Unit × Writer) := do
  let (result, w) ← w.attempt destination sample
  return (result, ← w.conclude destination result)

/-- Requests stored one after another, the loop of `StorageWriter::run`. -/
def storeAll (w : Writer) : List StoreRequest → Work Writer
  | [] => return w
  | request :: rest => do
    let (_, w) ← w.store request.destination request.sample
    w.storeAll rest

/-- `StorageWriter::run`: requests stored one after another, then the handle
closed. -/
def run (w : Writer) (requests : List StoreRequest) : Work Writer := do
  let w ← w.storeAll requests
  w.closeHandle
  return { w with handle := none }

end Writer

end PowerTelemetry
