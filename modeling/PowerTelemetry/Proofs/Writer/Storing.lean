import PowerTelemetry.Proofs.Store.Row
import PowerTelemetry.Proofs.Writer.Knowledge
import PowerTelemetry.Writer
/-!
# A store call by call

`Writer.attempt` is a tree of calls.  `Writer.Storing` describes it: which call
may come next, and what each answer leads to.  `storing_attempt` is the only
place where the definitions of the writer and of what it knows are opened; all
else about a store in progress is an induction-free look at the next call.

`Storing request stage w work` reads: `work` stores `request`, and the writer at
this moment is `w`.  The stage tells the one moment at which the columns of the
table are read, right after the store has answered that the table is there, and
the moment after the last call, from all others.
-/

namespace PowerTelemetry

open Store (Work Memory Handle Change)

namespace StoreRequest

/-- What the sample of a request has for each column. -/
def cells (r : StoreRequest) : Dict Column.Cell :=
  Column.inferAll r.sample.attributes

/-- The columns of the sample of a request. -/
def columns (r : StoreRequest) : List Column :=
  Column.ofCells r.cells

/-- The insert of a request. -/
def insertion (r : StoreRequest) : Change :=
  Writer.insertion r.destination r.sample r.cells

/-- The row of a request. -/
def row (r : StoreRequest) : Store.Row :=
  Sql.record r.sample.capturedAt r.cells

end StoreRequest

namespace Writer

/-- The writer with other knowledge of the tables. -/
def withKnown (w : Writer) (known : Reconciler) : Writer :=
  { w with known := known }

/-- The writer with a handle. -/
def withHandle (w : Writer) (handle : Handle) : Writer :=
  { w with handle := some handle }

/-- How far a store is. -/
inductive Stage where
  /-- There are calls to make. -/
  | calling
  /-- The table was found to be there, and its columns are not yet read. -/
  | adopting
  /-- The store has returned. -/
  | over
  deriving DecidableEq

/-- Work that stores a request, and the writer at this moment. -/
inductive Storing (request : StoreRequest) :
    Stage → Writer → Work (Except StoreError Unit × Writer) → Prop where
  /-- The writer has no handle yet. -/
  | connecting {w next}
      (opened : ∀ handle, Storing request .calling (w.withHandle handle) (next (.ok handle)))
      (failed : ∀ error, next (.error error) = .done (.error error, w)) :
      Storing request .calling w (.connect next)
  /-- The table is not known and is created. -/
  | creating {w handle next}
      (created : Storing request .calling
        (w.withKnown (w.known.learn request.destination (request.columns.map (·.name))))
        (next (.ok ())))
      (present : ∀ table, Storing request .adopting w (next (.error (.alreadyExists table))))
      (failed : ∀ error, (∀ table, error ≠ .alreadyExists table) →
        next (.error error) = .done (.error error, w)) :
      Storing request .calling w
        (.change handle (.create request.destination request.columns) next)
  /-- The table is there, and its columns are read. -/
  | reading {w handle next}
      (read : ∀ names, Storing request .calling
        (w.withKnown (w.known.learn request.destination names)) (next (.ok names)))
      (failed : ∀ error, next (.error error) = .done (.error error, w)) :
      Storing request .adopting w (.columns handle request.destination next)
  /-- The missing columns of a known table are added. -/
  | adapting {w handle next}
      (known : w.known.isKnown request.destination)
      (adapted : Storing request .calling
        (w.withKnown (w.known.learnMore request.destination
          ((w.known.missing request.destination request.columns).map (·.name))))
        (next (.ok ())))
      (failed : ∀ error, next (.error error) = .done (.error error, w)) :
      Storing request .calling w
        (.change handle
          (.adapt request.destination (w.known.missing request.destination request.columns)) next)
  /-- The row is inserted into a known table that has all columns. -/
  | inserting {w handle next}
      (known : w.known.isKnown request.destination)
      (complete : w.known.missing request.destination request.columns = [])
      (answered : ∀ answer, next answer = .done (answer, w)) :
      Storing request .calling w (.change handle request.insertion next)
  /-- The store has returned. -/
  | returned {w} (result : Except StoreError Unit) :
      Storing request .over w (.done (result, w))

/-! ## Every store is described -/

variable {request : StoreRequest} {w : Writer} {handle : Handle}

/-- What is left of a store once the columns are ensured. -/
structure Finishes (request : StoreRequest) (w : Writer) (handle : Handle)
    (next : Except StoreError (List Column) × Reconciler →
      Work (Except StoreError Unit × Writer)) : Prop where
  inserts : ∀ added known, next (.ok added, known)
    = .change handle request.insertion fun answer => .done (answer, w.withKnown known)
  fails : ∀ error known, next (.error error, known) = .done (.error error, w.withKnown known)

/-- A row goes into a table that is known to have its columns. -/
theorem Finishes.storing_insert {next} (h : Finishes request w handle next)
    (added : List Column) {known : Reconciler} (hk : known.isKnown request.destination)
    (hc : known.missing request.destination request.columns = []) :
    Storing request .calling (w.withKnown known) (next (.ok added, known)) := by
  rw [h.inserts]
  exact .inserting hk hc fun _ => rfl

/-- Missing columns are added, and then the row is inserted. -/
theorem Finishes.storing_grow {next} (h : Finishes request w handle next) {known : Reconciler}
    (hk : known.isKnown request.destination) :
    Storing request .calling (w.withKnown known)
      ((known.grow handle request.destination request.columns).bind next) := by
  rw [Reconciler.grow]
  split
  · rename_i hempty
    exact h.storing_insert [] hk (List.isEmpty_iff.mp hempty)
  · refine .adapting hk ?_ fun error => h.fails error known
    exact h.storing_insert _ (Reconciler.isKnown_learnMore _ _ _)
      (Reconciler.missing_learnMore _ _ _)

/-- The columns of a table that is there are read, and then it grows. -/
theorem Finishes.storing_adopt {next} (h : Finishes request w handle next) :
    Storing request .adopting w
      ((w.known.adopt handle request.destination request.columns).bind next) :=
  .reading (fun _ => h.storing_grow (Reconciler.isKnown_learn _ _ _))
    fun error => h.fails error w.known

/-- The columns are ensured, and then the row is inserted. -/
theorem Finishes.storing_ensure {next} (h : Finishes request w handle next) :
    Storing request .calling w
      ((w.known.ensure handle request.destination request.columns).bind next) := by
  rw [Reconciler.ensure]
  split
  · rename_i hk
    exact h.storing_grow hk
  · refine .creating ?_ (fun _ => h.storing_adopt) ?_
    · exact h.storing_insert _ (Reconciler.isKnown_learn _ _ _) (Reconciler.missing_learn _ _ _)
    · intro error hnot
      cases error with
      | alreadyExists table => exact absurd rfl (hnot table)
      | _ => exact h.fails _ w.known

/-- A store through a handle is described. -/
theorem storing_storeThrough (request : StoreRequest) (w : Writer) (handle : Handle) :
    Storing request .calling w (w.storeThrough handle request.destination request.sample) :=
  Finishes.storing_ensure ⟨fun _ _ => rfl, fun _ _ => rfl⟩

/-- Every store is described. -/
theorem storing_attempt (request : StoreRequest) (w : Writer) :
    Storing request .calling w (w.attempt request.destination request.sample) := by
  rw [attempt]
  split
  · exact storing_storeThrough request w _
  · exact .connecting (fun handle => storing_storeThrough request (w.withHandle handle) handle)
      fun _ => rfl

/-! ## The next call -/

/-- A step of a store is a step of a store, and counts nothing. -/
theorem Storing.step {stage : Stage} {work : Work (Except StoreError Unit × Writer)}
    (h : Storing request stage w work) (m : Memory) :
    ∃ stage' w', Storing request stage' w' (work.step Memory.backend m).1 ∧
      w'.counters = w.counters := by
  cases h with
  | connecting opened failed =>
    simp only [Work.step]
    cases (Memory.backend.connect m).1 with
    | ok handle => exact ⟨.calling, w.withHandle handle, opened handle, rfl⟩
    | error error => exact ⟨.over, w, failed error ▸ .returned _, rfl⟩
  | creating created present failed =>
    simp only [Work.step]
    cases (Memory.backend.change _ _ m).1 with
    | ok _ => exact ⟨.calling, _, created, rfl⟩
    | error error =>
      by_cases hexists : ∃ table, error = .alreadyExists table
      · obtain ⟨table, rfl⟩ := hexists
        exact ⟨.adopting, w, present table, rfl⟩
      · rw [failed error fun table h => hexists ⟨table, h⟩]
        exact ⟨.over, w, .returned _, rfl⟩
  | reading read failed =>
    exact ⟨.calling, _, read _, rfl⟩
  | adapting known adapted failed =>
    simp only [Work.step]
    cases (Memory.backend.change _ _ m).1 with
    | ok _ => exact ⟨.calling, _, adapted, rfl⟩
    | error error => exact ⟨.over, w, failed error ▸ .returned _, rfl⟩
  | inserting known complete answered =>
    rw [Work.step, answered]
    exact ⟨.over, w, .returned _, rfl⟩
  | returned result => exact ⟨.over, w, .returned result, rfl⟩

/-- A store without a result is not over. -/
theorem Storing.ne_over {stage : Stage} {work : Work (Except StoreError Unit × Writer)}
    (h : Storing request stage w work) (hnone : work.result? = none) : stage ≠ .over := by
  rintro rfl
  cases h
  cases hnone

/-- A store that finds the tables gone is left with what the writer knows at this
moment. -/
theorem Storing.run_gone {stage : Stage} {work : Work (Except StoreError Unit × Writer)}
    (h : Storing request stage w work) : (work.run Store.Backend.gone ()).1.2 = w := by
  cases h with
  | connecting opened failed => simp [Work.run, Store.Backend.gone, failed]
  | creating created present failed => simp [Work.run, Store.Backend.gone, failed]
  | reading read failed => simp [Work.run, Store.Backend.gone, failed]
  | adapting known adapted failed => simp [Work.run, Store.Backend.gone, failed]
  | inserting known complete answered => simp [Work.run, Store.Backend.gone, answered]
  | returned result => rfl

/-! ## Reconnecting -/

/-- Work that replaces the connection of a writer. -/
inductive Reconnecting (w : Writer) : Work Writer → Prop where
  /-- The old handle is closed. -/
  | closing {handle next} (closed : Reconnecting w (next ())) :
      Reconnecting w (.close handle next)
  /-- A new handle is asked for. -/
  | connecting {next}
      (answered : ∀ answer, ∃ handle, next answer = .done ⟨handle, Reconciler.empty, w.counters⟩) :
      Reconnecting w (.connect next)
  /-- The connection is replaced or given up, and nothing is known. -/
  | replaced (handle : Option Handle) :
      Reconnecting w (.done ⟨handle, Reconciler.empty, w.counters⟩)

/-- Every replacement is described. -/
theorem reconnecting_reconnect (w : Writer) : Reconnecting w w.reconnect := by
  rw [reconnect, closeHandle]
  cases w.handle with
  | some handle =>
    refine .closing (.connecting fun answer => ?_)
    cases answer with
    | ok handle => exact ⟨some handle, rfl⟩
    | error error => exact ⟨none, rfl⟩
  | none =>
    refine .connecting fun answer => ?_
    cases answer with
    | ok handle => exact ⟨some handle, rfl⟩
    | error error => exact ⟨none, rfl⟩

theorem Reconnecting.eq_of_done {v : Writer} (h : Reconnecting w (.done v)) :
    ∃ handle, v = ⟨handle, Reconciler.empty, w.counters⟩ := by
  generalize hwork : Work.done v = work at h
  cases h with
  | replaced handle => exact ⟨handle, Work.done.inj hwork⟩
  | _ => cases hwork

/-- A step of a replacement is a step of a replacement. -/
theorem Reconnecting.step {work : Work Writer} (h : Reconnecting w work) (m : Memory) :
    Reconnecting w (work.step Memory.backend m).1 := by
  cases h with
  | closing closed => exact closed
  | connecting answered =>
    obtain ⟨handle, hdone⟩ := answered (Memory.backend.connect m).1
    rw [Work.step, hdone]
    exact .replaced handle
  | replaced handle => exact .replaced handle

/-- Replacing a connection leaves the tables alone. -/
theorem Reconnecting.tables_step {work : Work Writer} (h : Reconnecting w work) (m : Memory) :
    (work.step Memory.backend m).2.tables = m.tables := by
  cases h with
  | closing closed => exact Memory.tables_close m
  | connecting answered => exact Memory.tables_connect m
  | replaced handle => rfl

end Writer

end PowerTelemetry
