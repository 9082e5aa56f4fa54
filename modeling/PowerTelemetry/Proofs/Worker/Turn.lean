import PowerTelemetry.Proofs.Writer.Storing
import PowerTelemetry.Worker
/-!
# The turns of a worker

A worker at work takes turns with everybody else who uses the store.  This
module says what one turn does to the counters and to the rows of all tables.

* `accepted` and `refused` pick the results of one destination.
* `Worker.Proper` says that the task of a worker is a store or a replaced
  connection of its own writer.
* `proper_of_proceed` is the result: a turn keeps the worker proper, and it
  either counts a result or makes a call; then the rows that it adds are the rows
  of the result that this call has brought about.
-/

namespace PowerTelemetry

open Store (Work Memory)

/-! ## Results -/

/-- The requests for a destination whose store succeeded. -/
def accepted (destination : String)
    (results : List (StoreRequest × Except StoreError Unit)) : List StoreRequest :=
  (results.filter fun r => r.1.destination == destination && r.2.isOk).map (·.1)

/-- The requests for a destination whose store failed. -/
def refused (destination : String)
    (results : List (StoreRequest × Except StoreError Unit)) : List StoreRequest :=
  (results.filter fun r => r.1.destination == destination && !r.2.isOk).map (·.1)

theorem accepted_append (destination : String)
    (results more : List (StoreRequest × Except StoreError Unit)) :
    accepted destination (results ++ more)
      = accepted destination results ++ accepted destination more := by
  simp [accepted]

theorem refused_append (destination : String)
    (results more : List (StoreRequest × Except StoreError Unit)) :
    refused destination (results ++ more)
      = refused destination results ++ refused destination more := by
  simp [refused]

/-- Every request for a destination is accepted or refused. -/
theorem length_accepted_add_length_refused (destination : String)
    (results : List (StoreRequest × Except StoreError Unit)) :
    (accepted destination results).length + (refused destination results).length
      = ((results.map (·.1)).filter (·.destination == destination)).length := by
  induction results with
  | nil => rfl
  | cons r rest ih =>
    simp only [accepted, refused, List.length_map] at ih ⊢
    by_cases hd : r.1.destination = destination
    · cases hr : r.2.isOk <;> simp [hd, hr] <;> omega
    · simp [hd]
      omega

/-- A counted result is one more insert or one more failure of its
destination. -/
theorem Writer.destination_counted (w : Writer) (request : StoreRequest)
    (result : Except StoreError Unit) (destination : String) :
    (w.counted request.destination result).counters.destination destination
      = ⟨(w.counters.destination destination).inserted
            + (accepted destination [(request, result)]).length,
          (w.counters.destination destination).failed
            + (refused destination [(request, result)]).length⟩ := by
  cases result with
  | ok _ =>
    rw [counted, Counters.destination_countInserted]
    by_cases hd : request.destination = destination <;>
      simp [accepted, refused, Except.isOk, Except.toBool, hd]
  | error error =>
    rw [counted, Counters.destination_countFailed]
    by_cases hd : request.destination = destination <;>
      simp [accepted, refused, Except.isOk, Except.toBool, hd]

/-! ## The rows that a call adds -/

namespace Writer

/-- The insert of a request adds its row if it succeeds, and nothing else. -/
theorem rows_insertion (request : StoreRequest) (m : Memory) (table : String) :
    (m.change request.insertion).2.rows table
      = m.rows table
        ++ (accepted table [(request, (m.change request.insertion).1)]).map (·.row) := by
  change (m.insert _ _ _).2.rows table
    = m.rows table ++ (accepted table [(request, (m.insert _ _ _).1)]).map (·.row)
  rcases Memory.insert_cases m request.destination (Sql.fields request.cells)
      [Sql.row request.sample.capturedAt request.cells] with
    ⟨error, _, he, h⟩ | ⟨_, he, h⟩ | ⟨t, reason, _, _, he, h⟩ | ⟨t, staged, ht, hs, he, h⟩
  · rw [Memory.rows_of_tables_eq h, he]
    simp [accepted, Except.isOk, Except.toBool]
  · rw [Memory.rows_of_tables_eq h, he]
    simp [accepted, Except.isOk, Except.toBool]
  · rw [Memory.rows_of_tables_eq h, he]
    simp [accepted, Except.isOk, Except.toBool]
  · rw [Memory.rows_of_insert h, he, Store.Table.checkRows_record_ok hs]
    by_cases hd : request.destination = table
    · subst hd
      rw [Memory.rows_of_get? ht]
      simp [accepted, Except.isOk, Except.toBool, StoreRequest.row]
    · simp [accepted, hd]

/-- Work that has not brought about a success. -/
def Unsuccessful (work : Work (Except StoreError Unit × Writer)) : Prop :=
  ∀ w, work ≠ .done (.ok (), w)

theorem unsuccessful_error (error : StoreError) (w : Writer) :
    Unsuccessful (.done (.error error, w)) := by
  simp [Unsuccessful]

/-- A store is successful at its end only. -/
theorem Storing.unsuccessful {request : StoreRequest} {stage : Stage} {w : Writer}
    {work : Work (Except StoreError Unit × Writer)} (h : Storing request stage w work)
    (hstage : stage ≠ .over) : Unsuccessful work := by
  cases h with
  | returned result => exact absurd rfl hstage
  | _ => simp [Unsuccessful]

/-- A store has no result as long as there are calls to make. -/
theorem Storing.result?_eq_none {request : StoreRequest} {stage : Stage} {w : Writer}
    {work : Work (Except StoreError Unit × Writer)} (h : Storing request stage w work)
    (hstage : stage ≠ .over) : work.result? = none := by
  cases h with
  | returned result => exact absurd rfl hstage
  | _ => rfl

theorem Unsuccessful.accepted_eq_nil {work : Work (Except StoreError Unit × Writer)}
    (h : Unsuccessful work) (request : StoreRequest) (table : String) :
    accepted table (work.result?.map fun r => (request, r.1)).toList = [] := by
  cases hr : work.result? with
  | none => rfl
  | some r =>
    obtain ⟨result, w⟩ := r
    cases result with
    | ok _ => exact absurd (Work.eq_done_of_result? hr) (h w)
    | error error => simp [accepted, Except.isOk, Except.toBool]

/-- A call of a store adds the row of its request if it ends the store with
success, and nothing else. -/
theorem Storing.rows_step {request : StoreRequest} {stage : Stage} {w : Writer}
    {work : Work (Except StoreError Unit × Writer)} (h : Storing request stage w work)
    (hstage : stage ≠ .over) (m : Memory) (table : String) :
    (work.step Memory.backend m).2.rows table
      = m.rows table
        ++ (accepted table
            ((work.step Memory.backend m).1.result?.map fun r => (request, r.1)).toList).map
          (·.row) := by
  -- Every call but the last leaves the rows alone and does not end the store with success.
  have quiet : (work.step Memory.backend m).2.rows table = m.rows table →
      Unsuccessful (work.step Memory.backend m).1 →
      (work.step Memory.backend m).2.rows table
        = m.rows table
          ++ (accepted table
              ((work.step Memory.backend m).1.result?.map fun r => (request, r.1)).toList).map
            (·.row) := by
    intro hrows hresult
    rw [hrows, hresult.accepted_eq_nil, List.map_nil, List.append_nil]
  cases h with
  | connecting opened failed =>
    refine quiet (Memory.rows_of_tables_eq (Memory.tables_connect m) table) ?_
    simp only [Work.step]
    cases (Memory.backend.connect m).1 with
    | ok handle => exact (opened handle).unsuccessful (by simp)
    | error error => exact failed error ▸ unsuccessful_error error _
  | creating created present failed =>
    refine quiet (Memory.rows_create m _ _ table) ?_
    simp only [Work.step]
    cases (Memory.backend.change _ _ m).1 with
    | ok _ => exact created.unsuccessful (by simp)
    | error error =>
      by_cases hexists : ∃ name, error = .alreadyExists name
      · obtain ⟨name, rfl⟩ := hexists
        exact (present name).unsuccessful (by simp)
      · rw [failed error fun name h => hexists ⟨name, h⟩]
        exact unsuccessful_error error _
  | reading read failed =>
    exact quiet rfl ((read _).unsuccessful (by simp))
  | adapting known adapted failed =>
    refine quiet (Memory.rows_adapt m _ _ table) ?_
    simp only [Work.step]
    cases (Memory.backend.change _ _ m).1 with
    | ok _ => exact adapted.unsuccessful (by simp)
    | error error => exact failed error ▸ unsuccessful_error error _
  | inserting known complete answered =>
    rw [Work.step, answered]
    exact rows_insertion request m table
  | returned result => exact absurd rfl hstage

end Writer

/-! ## Turns -/

namespace Worker

/-- The task of a worker is a store or a replaced connection of its writer. -/
def Proper (w : Worker) : Prop :=
  match w.task with
  | .idle => True
  | .storing request work =>
    ∃ stage writer, Writer.Storing request stage writer work ∧
      writer.counters = w.writer.counters
  | .reconnecting work => Writer.Reconnecting w.writer work

theorem proper_idle (writer : Writer) : (idle writer).Proper :=
  trivial

theorem proper_conclude (writer : Writer) (request : StoreRequest)
    (result : Except StoreError Unit) : (conclude writer request result).Proper := by
  rw [conclude]
  split
  · exact Writer.reconnecting_reconnect _
  · trivial

/-- A worker that takes a request begins to store it. -/
theorem proper_of_take {w v : Worker} {request : StoreRequest} (h : w.take request = some v) :
    v.Proper ∧ w.request? = none ∧ w.result? = none ∧
      v.request? = some request ∧ v.result? = none ∧ v.writer = w.writer := by
  obtain ⟨hidle, rfl⟩ := eq_of_take h
  have hstoring := Writer.storing_attempt request w.writer
  refine ⟨⟨.calling, w.writer, hstoring, rfl⟩, ?_, ?_, rfl, ?_, rfl⟩
  · rw [hidle]
    rfl
  · rw [hidle]
    rfl
  · simp only [result?, hstoring.result?_eq_none (by simp), Option.map_none]

/-- A turn counts a result, or makes a call.  A call adds the rows of the result
that it brings about. -/
theorem proper_of_proceed {w v : Worker} {m n : Memory} (hw : w.Proper)
    (h : w.proceed m = some (v, n)) :
    v.Proper ∧
      ((∃ request result, w.request? = some request ∧ w.result? = some (request, result) ∧
          v.request? = none ∧ v.result? = none ∧ n = m ∧
          ∀ destination, v.writer.counters.destination destination
            = ⟨(w.writer.counters.destination destination).inserted
                  + (accepted destination [(request, result)]).length,
                (w.writer.counters.destination destination).failed
                  + (refused destination [(request, result)]).length⟩) ∨
        (w.result? = none ∧ v.request? = w.request? ∧ v.writer.counters = w.writer.counters ∧
          ∀ table, n.rows table
            = m.rows table ++ (accepted table v.result?.toList).map (·.row))) := by
  obtain ⟨writer, task⟩ := w
  cases turn_of_proceed h with
  | counted request result left =>
    obtain ⟨stage, writer', hstoring, hcounters⟩ := hw
    obtain rfl : left = writer' := hstoring.run_gone
    refine ⟨proper_conclude _ _ _, .inl ⟨request, result, rfl, rfl,
      request?_conclude _ _ _, result?_conclude _ _ _, rfl, fun destination => ?_⟩⟩
    exact hcounters ▸ Writer.destination_counted left request result destination
  | storing request work busy =>
    obtain ⟨stage, writer', hstoring, hcounters⟩ := hw
    obtain ⟨stage', writer'', hnext, hsame⟩ := hstoring.step m
    refine ⟨⟨stage', writer'', hnext, hsame.trans hcounters⟩, .inr ⟨?_, rfl, rfl, ?_⟩⟩
    · simp only [result?, busy, Option.map_none]
    · exact hstoring.rows_step (hstoring.ne_over busy) m
  | replaced left =>
    have hnew : Writer.Reconnecting writer (.done left) := hw
    obtain ⟨handle, rfl⟩ := hnew.eq_of_done
    exact ⟨trivial, .inr ⟨rfl, rfl, rfl, by simp [idle, result?, accepted]⟩⟩
  | reconnecting work busy =>
    have hnew : Writer.Reconnecting writer work := hw
    refine ⟨hnew.step m, .inr ⟨rfl, rfl, rfl, fun table => ?_⟩⟩
    rw [Memory.rows_of_tables_eq (hnew.tables_step m)]
    simp [result?, accepted]

end Worker

end PowerTelemetry
