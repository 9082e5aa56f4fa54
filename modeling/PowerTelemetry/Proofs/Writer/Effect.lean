import PowerTelemetry.Proofs.Fleet.Soundness
import PowerTelemetry.Proofs.Writer.Delivery
/-!
# The effect of a store

What is left of a store that no failure disturbs.  The table of the destination
gets the columns that it lacks, behind those that it has.  If each value is taken
by its column, the row follows behind the rows; otherwise the error names the
first column that does not take its value, and there is no row.  No other table
changes.

* `refused?` is the first value that a table does not take, `answer` the result
  and `effect` the table afterwards.
* `insert_provided` is the step that inserts the row, `store_of_calm` the whole
  store of a writer that knows nothing false.
* `store_effect` says it of every moment at which a writer is idle, whatever has
  happened before.
-/

namespace PowerTelemetry

open Store (Work Memory Handle Scene Table accepts rejection)

namespace StoreRequest

/-- The value of a cell of a request. -/
def datum (r : StoreRequest) (cell : Column.Cell) : Sql.Datum :=
  Sql.Datum.ofCell r.sample.capturedAt cell

/-- The first cell, by name, whose value is not taken: by the column that a table
has under this name, or by the one that it would get. -/
def refused? (r : StoreRequest) (t : Table) : Option (String × Column.Cell) :=
  r.cells.entries.find? fun e => !accepts (t.kindOr e.1 e.2.kind) (r.datum e.2)

/-- The result of storing a request in a table. -/
def answer (r : StoreRequest) (t : Table) : Except StoreError Unit :=
  match r.refused? t with
  | none => .ok ()
  | some e =>
    .error (.insert r.destination (rejection e.1 (t.kindOr e.1 e.2.kind) (r.datum e.2)))

/-- A table after a request was stored in it, or not. -/
def effect (r : StoreRequest) (t : Table) : Table :=
  ⟨t.columns ++ t.lacking r.columns,
    t.rows ++ if (r.refused? t).isNone then [r.row] else []⟩

/-- A request is stored if each value is taken. -/
theorem refused?_eq_none_iff (r : StoreRequest) (t : Table) :
    r.refused? t = none ↔
      ∀ e ∈ r.cells.entries, accepts (t.kindOr e.1 e.2.kind) (r.datum e.2) := by
  simp [refused?, List.find?_eq_none]

theorem answer_eq_ok_iff (r : StoreRequest) (t : Table) :
    r.answer t = .ok () ↔
      ∀ e ∈ r.cells.entries, accepts (t.kindOr e.1 e.2.kind) (r.datum e.2) := by
  rw [← refused?_eq_none_iff, answer]
  cases r.refused? t with
  | none => simp
  | some e => simp

/-- The check of the row against a table that was given the columns. -/
theorem checkRows_addColumns (r : StoreRequest) (t : Table) :
    (t.addColumns r.columns).checkRows (Sql.fields r.cells)
        [Sql.row r.sample.capturedAt r.cells]
      = match r.refused? t with
        | some e => .error (rejection e.1 (t.kindOr e.1 e.2.kind) (r.datum e.2))
        | none => .ok [r.row] := by
  refine Table.checkRows_record _ (fun e => t.kindOr e.1 e.2.kind) r.sample.capturedAt ?_
  intro e he
  have hcolumn : (⟨e.1, e.2.kind⟩ : Column) ∈ r.columns :=
    List.mem_map.mpr ⟨e, he, rfl⟩
  exact t.column?_addColumns r.nodup_columns hcolumn

end StoreRequest

namespace Writer

variable {m : Memory} {w : Writer}

/-! ## One store -/

/-- The insert into a table that has grown by the columns of the request, if no
failure is to come. -/
theorem insertion_of_grown (hplain : m.insertFailures = []) (request : StoreRequest) {t : Table}
    (ht : m.tables.get? request.destination = some (t.addColumns request.columns)) :
    (m.change request.insertion).1 = request.answer t ∧
      (m.change request.insertion).2.tables
        = m.tables.insert request.destination (request.effect t) := by
  have hcheck := request.checkRows_addColumns t
  have hgrown := Table.addColumns_eq t request.nodup_columns
  show (m.insert request.destination (Sql.fields request.cells)
      [Sql.row request.sample.capturedAt request.cells]).1 = _ ∧
    (m.insert request.destination (Sql.fields request.cells)
      [Sql.row request.sample.capturedAt request.cells]).2.tables = _
  rw [Memory.insert, hplain]
  simp only [Memory.insertNow, ht, hcheck, StoreRequest.answer, StoreRequest.effect]
  cases request.refused? t with
  | none => simp [hgrown]
  | some e =>
    have hsame : m.tables.insert request.destination
        ⟨t.columns ++ t.lacking request.columns, t.rows⟩ = m.tables :=
      Dict.insert_of_get? (hgrown ▸ ht)
    simp [hsame]

/-- The insert into a table that was provided, if no failure is to come. -/
theorem insert_provided (hm : m.insertFailures = []) (request : StoreRequest) :
    let provided := m.provide request.destination request.columns
    (provided.change request.insertion).1 = request.answer (m.table request.destination) ∧
      (provided.change request.insertion).2.tables
        = m.tables.insert request.destination
            (request.effect (m.table request.destination)) := by
  intro provided
  have hplain : provided.insertFailures = [] := hm
  obtain ⟨hanswer, htables⟩ := insertion_of_grown hplain request
    (Memory.get?_provide m request.destination request.columns)
  refine ⟨hanswer, htables.trans ?_⟩
  exact Dict.insert_insert_self _ _ _ _

/-- Concluding leaves the tables alone. -/
theorem tables_conclude (w : Writer) (destination : String) (result : Except StoreError Unit)
    (m : Memory) : ((w.conclude destination result).run Memory.backend m).2.tables = m.tables := by
  have hreconnect : ∀ v : Writer, (v.reconnect.run Memory.backend m).2.tables = m.tables := by
    intro v
    have hclosed : (v.closeHandle.run Memory.backend m).2.tables = m.tables := by
      rw [closeHandle]
      cases v.handle <;> rfl
    have hconnected := Memory.tables_connect (v.closeHandle.run Memory.backend m).2
    rw [reconnect]
    simp only [Work.run_bind, Work.run_connected]
    change (Memory.backend.connect (v.closeHandle.run Memory.backend m).2).2.tables = _
      at hconnected
    cases (Memory.backend.connect (v.closeHandle.run Memory.backend m).2).1 with
    | ok handle => exact hconnected.trans hclosed
    | error error => exact hconnected.trans hclosed
  rw [conclude]
  cases losesConnection result with
  | true => exact hreconnect _
  | false => rfl

/-- A store has the result of its attempt, and leaves the tables as this does. -/
theorem run_store (w : Writer) (request : StoreRequest) (m : Memory) :
    let attempted := (w.attempt request.destination request.sample).run Memory.backend m
    let stored := (w.store request.destination request.sample).run Memory.backend m
    stored.1.1 = attempted.1.1 ∧ stored.2.tables = attempted.2.tables := by
  simp only [store, Work.run_bind, Work.run_pure, true_and]
  exact tables_conclude _ _ _ _

/-- An attempt is a store through a handle, if no failure is to come. -/
theorem attempt_of_storeThrough {P : (Except StoreError Unit × Writer) × Memory → Prop}
    (request : StoreRequest) (hm : m.pending = [])
    (h : ∀ (v : Writer) (handle : Handle) (n : Memory), v.known = w.known →
      n.tables = m.tables → n.schemaFailures = [] → n.insertFailures = [] →
      P ((v.storeThrough handle request.destination request.sample).run Memory.backend n)) :
    P ((w.attempt request.destination request.sample).run Memory.backend m) := by
  simp only [Memory.pending, List.append_eq_nil_iff] at hm
  obtain ⟨⟨hconnect, hschema⟩, hinsert⟩ := hm
  rw [attempt]
  cases w.handle with
  | some handle => exact h w handle m rfl rfl hschema hinsert
  | none =>
    have hopened : Memory.backend.connect m = (.ok ⟨m.calls.connects⟩,
        { m with calls.connects := m.calls.connects + 1 }) := by
      show m.connect = _
      simp only [Memory.connect, hconnect]
    rw [Work.run_bind, Work.run_connected, hopened]
    exact h ⟨some ⟨m.calls.connects⟩, w.known, w.counters⟩ _ _ rfl rfl hschema hinsert

/-- A store has the result of a store through a handle, and leaves the tables as
this does, if no failure is to come. -/
theorem store_of_storeThrough {result : Except StoreError Unit} {tables : Dict Table}
    (request : StoreRequest) (hm : m.pending = [])
    (h : ∀ (v : Writer) (handle : Handle) (n : Memory), v.known = w.known →
      n.tables = m.tables → n.schemaFailures = [] → n.insertFailures = [] →
      let r := (v.storeThrough handle request.destination request.sample).run Memory.backend n
      r.1.1 = result ∧ r.2.tables = tables) :
    let r := (w.store request.destination request.sample).run Memory.backend m
    r.1.1 = result ∧ r.2.tables = tables := by
  obtain ⟨hresult, htables⟩ := run_store w request m
  intro r
  rw [hresult, htables]
  exact attempt_of_storeThrough (P := fun a => a.1.1 = result ∧ a.2.tables = tables)
    request hm h

/-- A store by a writer that knows nothing false, if no failure is to come. -/
theorem store_of_calm (hw : w.known.Truthful m) (hm : m.pending = []) (request : StoreRequest) :
    let r := (w.store request.destination request.sample).run Memory.backend m
    r.1.1 = request.answer (m.table request.destination) ∧
      r.2.tables = m.tables.insert request.destination
        (request.effect (m.table request.destination)) := by
  refine store_of_storeThrough request hm ?_
  intro v handle n hknown hn hschema hinsert
  have htruthful : v.known.Truthful n := hknown ▸ hw.mono (Memory.Grows.of_tables_eq hn)
  have hdelivers := delivers_of_calm request handle hschema htruthful
  obtain ⟨hanswer, hprovided⟩ := insert_provided hinsert request
  have htable : n.table request.destination = m.table request.destination := by
    rw [Memory.table, Memory.table, hn]
  rw [← htable, ← hn]
  exact ⟨hdelivers.result.trans hanswer, (Scene.tables_congr hdelivers.scene).trans hprovided⟩

end Writer

/-! ## Every moment -/

namespace Fleet

variable {ι : Type} [DecidableEq ι]

/-- An idle writer knows nothing false after a run in which no arranged failure
claims that a table exists. -/
theorem truthful_of_run {counters : ι → Counters} {store : Memory} {events : List (Event ι)}
    {f : Fleet ι} (hrun : (start counters store).run events = some f)
    (hplain : ∀ table, StoreError.alreadyExists table ∉ store.pending ++ failures events)
    {i : ι} {writer : Writer} (hidle : f.worker i = Worker.idle writer) :
    writer.known.Truthful f.store := by
  have h : f.Sound (store.pending ++ failures events) :=
    (sound_start counters (List.subset_append_left _ _)).run hplain
      (List.subset_append_right _ _) hrun
  have hi := h.worker i
  rwa [hidle] at hi

/-- The effect of a store by an idle writer at a moment at which no failure is to
come, after any run in which no arranged failure claims that a table exists.  The
table of the destination keeps its columns and rows and gets the columns that it
lacks, in the order of their names; its row follows if each column takes its
value.  The result tells whether it did, and the other tables stay as they
are. -/
theorem store_effect (counters : ι → Counters) (store : Memory) (events : List (Event ι))
    (f : Fleet ι) (hrun : (start counters store).run events = some f)
    (hplain : ∀ table, StoreError.alreadyExists table ∉ store.pending ++ failures events)
    (i : ι) (writer : Writer) (hidle : f.worker i = Worker.idle writer)
    (hcalm : f.store.pending = []) (request : StoreRequest) :
    let t := f.store.table request.destination
    let r := (writer.store request.destination request.sample).run Memory.backend f.store
    r.1.1 = request.answer t ∧
      (r.1.1 = .ok () ↔
        ∀ e ∈ request.cells.entries, accepts (t.kindOr e.1 e.2.kind) (request.datum e.2)) ∧
      r.2.tables.get? request.destination
        = some ⟨t.columns ++ t.lacking request.columns,
            t.rows ++ if r.1.1.isOk then [request.row] else []⟩ ∧
      ∀ other, other ≠ request.destination →
        r.2.tables.get? other = f.store.tables.get? other := by
  have hw := truthful_of_run hrun hplain hidle
  obtain ⟨hanswer, htables⟩ := Writer.store_of_calm hw hcalm request
  intro t r
  have hrow : r.1.1.isOk = (request.refused? t).isNone := by
    rw [hanswer, StoreRequest.answer]
    cases request.refused? t <;> rfl
  refine ⟨hanswer, ?_, ?_, fun other hother => ?_⟩
  · rw [hanswer]
    exact request.answer_eq_ok_iff t
  · rw [htables, Dict.get?_insert_self, hrow]
    rfl
  · rw [htables, Dict.get?_insert_of_ne _ _ (Ne.symm hother)]

/-- What a device reported to a table. -/
private def phaseRequest (reported : List (String × Value)) : StoreRequest :=
  ⟨"phase", ⟨"HW51", ⟨0, 0⟩, Dict.ofList reported⟩⟩

/-- Somebody creates the table, and a row is stored in it. -/
private def phaseEvents : List (Event Unit) :=
  [.disturb (.newTable "phase" [⟨"eco_watts", .integer⟩]),
    .take () (phaseRequest [("watts", .integer 5)]),
    .work (), .work (), .work (), .work (), .work ()]

/-- The moment after that. -/
private def phaseFleet : Fleet Unit :=
  ((start (fun _ : Unit => Counters.empty) Memory.empty).run phaseEvents).get (by decide)

theorem store_effect_phaseEvents :
    (start (fun _ : Unit => Counters.empty) Memory.empty).run phaseEvents = some phaseFleet ∧
      phaseFleet.worker () = Worker.idle (phaseFleet.worker ()).writer ∧
      phaseFleet.store.pending = [] ∧
      let r := ((phaseFleet.worker ()).writer.store "phase"
        (phaseRequest [("watts", .text "n/a"), ("volts", .integer 230)]).sample).run
          Memory.backend phaseFleet.store
      r.1.1.isOk = false ∧
        r.2.tables.get? "phase"
          = some ⟨[⟨"eco_watts", .integer⟩, ⟨"eco_volts", .integer⟩],
              [(phaseRequest [("watts", .integer 5)]).row]⟩ := by
  have hrun : (start (fun _ : Unit => Counters.empty) Memory.empty).run phaseEvents
      = some phaseFleet := (Option.some_get _).symm
  have hplain : ∀ table,
      StoreError.alreadyExists table ∉ Memory.empty.pending ++ failures phaseEvents := by
    simp [Memory.pending, Memory.empty, failures, phaseEvents, Event.failure?,
      Store.Disturbance.failure?]
  have hidle : phaseFleet.worker () = Worker.idle (phaseFleet.worker ()).writer := rfl
  obtain ⟨hanswer, _, htable, _⟩ := store_effect (fun _ => Counters.empty) Memory.empty
    phaseEvents phaseFleet hrun hplain () (phaseFleet.worker ()).writer hidle rfl
    (phaseRequest [("watts", .text "n/a"), ("volts", .integer 230)])
  have hrefused : ((phaseRequest [("watts", .text "n/a"), ("volts", .integer 230)]).answer
      (phaseFleet.store.table "phase")).isOk = false := by
    decide +kernel
  refine ⟨hrun, hidle, rfl, ?_, htable.trans ?_⟩
  · exact (congrArg Except.isOk hanswer).trans hrefused
  · rw [hanswer]
    decide +kernel

end Fleet

end PowerTelemetry
