import PowerTelemetry.Store.Memory
import PowerTelemetry.Writer
/-!
# A writer at work

A `Writer` stores a request in several calls of the store, and others may call
the store in between.  A `Worker` is a writer together with the `Task` that it
is at.

* `take` gives an idle worker a request.
* `proceed` lets a busy worker do the next thing: make a call, count the result
  of a store that has returned, or become idle.

The counters change before a lost connection is replaced, so a request is
counted although its worker is still busy reconnecting.  `Turn` lists what
`proceed` can do.  `remaining` is the work that is left, and
`run_remaining_proceed` says that proceeding step by step ends where doing this
work in one go ends.
-/

namespace PowerTelemetry

open Store (Work Memory)

/-- What a writer is at. -/
inductive Task where
  | idle
  /-- It stores a request.  The work ends with the result and the writer then. -/
  | storing (request : StoreRequest) (work : Work (Except StoreError Unit × Writer))
  /-- It replaces a lost connection. -/
  | reconnecting (work : Work Writer)

/-- A writer and what it is at. -/
structure Worker where
  /-- The writer before its task. -/
  writer : Writer
  task : Task

namespace Worker

/-- A writer that is at nothing. -/
def idle (writer : Writer) : Worker :=
  ⟨writer, .idle⟩

/-- The request that is being stored, up to the moment it is counted. -/
def request? (w : Worker) : Option StoreRequest :=
  match w.task with
  | .storing request _ => some request
  | _ => none

/-- The result of a store that has returned and is not yet counted. -/
def result? (w : Worker) : Option (StoreRequest × Except StoreError Unit) :=
  match w.task with
  | .storing request work => work.result?.map fun r => (request, r.1)
  | _ => none

/-- What the writer knows of the tables.  While it stores a request, this is what
it would be left with if the store were gone from now on, since it learns from
calls that succeed only. -/
def known (w : Worker) : Reconciler :=
  match w.task with
  | .storing _ work => (work.run Store.Backend.gone ()).1.2.known
  | _ => w.writer.known

/-- A result is that of the request that is being stored. -/
theorem request?_of_result? {w : Worker} {request : StoreRequest}
    {result : Except StoreError Unit} (h : w.result? = some (request, result)) :
    w.request? = some request := by
  obtain ⟨writer, task⟩ := w
  cases task with
  | storing stored work =>
    obtain ⟨r, _, hr⟩ := Option.map_eq_some_iff.mp h
    rw [request?, (Prod.mk.inj hr).1]
  | _ => cases h

/-- An idle worker with a request. -/
def take (w : Worker) (request : StoreRequest) : Option Worker :=
  match w.task with
  | .idle =>
    some ⟨w.writer, .storing request (w.writer.attempt request.destination request.sample)⟩
  | _ => none

/-- A worker that has counted a result. -/
def conclude (writer : Writer) (request : StoreRequest) (result : Except StoreError Unit) :
    Worker :=
  let writer := writer.counted request.destination result
  ⟨writer, if Writer.losesConnection result then .reconnecting writer.reconnect else .idle⟩

@[simp] theorem request?_conclude (writer : Writer) (request : StoreRequest)
    (result : Except StoreError Unit) : (conclude writer request result).request? = none := by
  cases hl : Writer.losesConnection result <;> simp [conclude, request?, hl]

@[simp] theorem result?_conclude (writer : Writer) (request : StoreRequest)
    (result : Except StoreError Unit) : (conclude writer request result).result? = none := by
  cases hl : Writer.losesConnection result <;> simp [conclude, result?, hl]

/-- A busy worker after the next thing it does, and the store then. -/
def proceed (w : Worker) (m : Memory) : Option (Worker × Memory) :=
  match w.task with
  | .idle => none
  | .storing request work =>
    match work.result? with
    | some (result, writer) => some (conclude writer request result, m)
    | none =>
      let (work, m) := work.step Memory.backend m
      some (⟨w.writer, .storing request work⟩, m)
  | .reconnecting work =>
    match work.result? with
    | some writer => some (idle writer, m)
    | none =>
      let (work, m) := work.step Memory.backend m
      some (⟨w.writer, .reconnecting work⟩, m)

/-! ## What can happen -/

/-- A worker that takes a request was idle. -/
theorem eq_of_take {w v : Worker} {request : StoreRequest} (h : w.take request = some v) :
    w = idle w.writer ∧
      v = ⟨w.writer,
        .storing request (w.writer.attempt request.destination request.sample)⟩ := by
  obtain ⟨writer, task⟩ := w
  cases task with
  | idle => exact ⟨rfl, (Option.some.inj h).symm⟩
  | _ => cases h

/-- What a busy worker does next, by its task: the worker and the store
afterwards. -/
inductive Turn (writer : Writer) (m : Memory) : Task → Worker → Memory → Prop where
  /-- The result of a store is counted. -/
  | counted (request : StoreRequest) (result : Except StoreError Unit) (left : Writer) :
      Turn writer m (.storing request (.done (result, left))) (conclude left request result) m
  /-- A store makes a call. -/
  | storing (request : StoreRequest) (work : Work (Except StoreError Unit × Writer))
      (busy : work.result? = none) :
      Turn writer m (.storing request work)
        ⟨writer, .storing request (work.step Memory.backend m).1⟩
        (work.step Memory.backend m).2
  /-- The connection is replaced. -/
  | replaced (left : Writer) : Turn writer m (.reconnecting (.done left)) (idle left) m
  /-- The replacement of the connection makes a call. -/
  | reconnecting (work : Work Writer) (busy : work.result? = none) :
      Turn writer m (.reconnecting work)
        ⟨writer, .reconnecting (work.step Memory.backend m).1⟩
        (work.step Memory.backend m).2

/-- Every turn is one of these. -/
theorem turn_of_proceed {w v : Worker} {m n : Memory} (h : w.proceed m = some (v, n)) :
    Turn w.writer m w.task v n := by
  obtain ⟨writer, task⟩ := w
  cases task with
  | idle => cases h
  | storing request work =>
    cases hr : work.result? with
    | some r =>
      obtain rfl := Work.eq_done_of_result? hr
      obtain ⟨rfl, rfl⟩ := by simpa [proceed, hr] using h
      exact .counted request r.1 r.2
    | none =>
      obtain ⟨rfl, rfl⟩ := by simpa [proceed, hr] using h
      exact .storing request work hr
  | reconnecting work =>
    cases hr : work.result? with
    | some left =>
      obtain rfl := Work.eq_done_of_result? hr
      obtain ⟨rfl, rfl⟩ := by simpa [proceed, hr] using h
      exact .replaced left
    | none =>
      obtain ⟨rfl, rfl⟩ := by simpa [proceed, hr] using h
      exact .reconnecting work hr

/-! ## The work that is left -/

/-- The work of a worker up to its next idle moment. -/
def remaining (w : Worker) : Work Writer :=
  match w.task with
  | .idle => return w.writer
  | .storing request work => do
    let (result, writer) ← work
    writer.conclude request.destination result
  | .reconnecting work => work

/-- A worker that has counted a result has the rest of the store left. -/
theorem remaining_conclude (writer : Writer) (request : StoreRequest)
    (result : Except StoreError Unit) :
    (conclude writer request result).remaining = writer.conclude request.destination result := by
  cases hl : Writer.losesConnection result <;> simp [conclude, remaining, Writer.conclude, hl]

/-- The next thing that a worker does is the beginning of the work that is
left. -/
theorem run_remaining_proceed {w v : Worker} {m n : Memory} (h : w.proceed m = some (v, n)) :
    v.remaining.run Memory.backend n = w.remaining.run Memory.backend m := by
  obtain ⟨writer, task⟩ := w
  cases turn_of_proceed h with
  | counted request result left =>
    rw [remaining_conclude]
    rfl
  | storing request work busy => simp only [remaining, Work.run_bind, Work.run_step]
  | replaced left => rfl
  | reconnecting work busy => simp only [remaining, Work.run_step]

/-- A worker that has taken a request is left with the store of it. -/
theorem run_remaining_take {w v : Worker} {request : StoreRequest} (h : w.take request = some v)
    (m : Memory) :
    v.remaining.run Memory.backend m =
      (((w.writer.store request.destination request.sample).run Memory.backend m).1.2,
        ((w.writer.store request.destination request.sample).run Memory.backend m).2) := by
  obtain ⟨_, rfl⟩ := eq_of_take h
  simp only [remaining, Writer.store, Work.run_bind, Work.run_pure]

end Worker

end PowerTelemetry
