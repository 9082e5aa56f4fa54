import PowerTelemetry.Store.Server
/-!
# Exchanges with a server

An `Operation` is a call through a handle, and `Server.report?` is the report with
which its statement ends, if it does not succeed.  `Server.observed` is the server
as a store that writes down each exchange with these reports, which the errors of
the calls are made from.

`Work.run_observed` says that work ends alike when it is observed.
-/

namespace PowerTelemetry.Store

variable {σ : Type}

/-- A call through a handle. -/
inductive Operation where
  | change (c : Change)
  | columns (table : String)
  deriving DecidableEq, Repr

/-- The error of an operation whose statement ends with a report. -/
def Operation.failure : Operation → DatabaseError → StoreError
  | change c => c.failure
  | columns _ => .classify

/-- An exchange with a server. -/
inductive Exchange where
  /-- A connect gave a handle, or none. -/
  | connected (handle : Option Handle)
  | closed (handle : Handle)
  /-- An operation went through a handle, and its statement ended with a report or succeeded. -/
  | performed (handle : Handle) (operation : Operation) (report : Option DatabaseError)
  deriving DecidableEq, Repr

/-! ## Reports -/

/-- The error of a computation that has no result. -/
def errorOf? {ε α : Type} : Except ε α → Option ε
  | .ok _ => none
  | .error error => some error

theorem errorOf?_eq_some {ε α : Type} {x : Except ε α} {error : ε}
    (h : errorOf? x = some error) : x = .error error := by
  cases x with
  | ok a => cases h
  | error e => exact congrArg Except.error (Option.some.inj h)

namespace Server

/-- The report with which the statement of an operation ends, if it does not succeed.  Records
that cannot be read as names are reported, too. -/
def report? (server : Server σ) (handle : Handle) : Operation → σ → Option DatabaseError
  | .change c, s => c.statement?.bind fun statement => errorOf? (server.perform handle statement s).1
  | .columns table, s =>
    errorOf? ((server.perform handle (.columns table) s).1.bind (·.mapM Record.firstText))

variable {server : Server σ} {handle : Handle} {s : σ} {report : DatabaseError}

/-- A change whose statement ends with a report fails. -/
theorem change_of_report {c : Change} (h : server.report? handle (.change c) s = some report) :
    (server.backend.change handle c s).1 = .error (c.failure report) := by
  obtain ⟨statement, hstatement, hreport⟩ := Option.bind_eq_some_iff.mp h
  have hended := errorOf?_eq_some hreport
  change (server.change handle c s).1 = _
  rw [change, hstatement]
  simp only [hended]
  rfl

/-- Columns are not told if their statement ends with a report. -/
theorem columns_of_report {table : String}
    (h : server.report? handle (.columns table) s = some report) :
    (server.backend.columns handle table s).1 = .error (.classify report) := by
  have hended := errorOf?_eq_some h
  change (server.columns handle table s).1 = _
  rw [columns]
  simp only [hended]
  rfl

/-- The call of an operation fails with an error. -/
def Fails (server : Server σ) (handle : Handle) (operation : Operation) (s : σ)
    (error : StoreError) : Prop :=
  match operation with
  | .change c => (server.backend.change handle c s).1 = .error error
  | .columns table => (server.backend.columns handle table s).1 = .error error

/-- An operation whose statement ends with a report fails with the error that is made from it. -/
theorem fails_of_report {operation : Operation}
    (h : server.report? handle operation s = some report) :
    server.Fails handle operation s (operation.failure report) := by
  cases operation with
  | change c => exact change_of_report h
  | columns table => exact columns_of_report h

/-! ## Observation -/

/-- The server as a store that writes down each exchange. -/
def observed (server : Server σ) : Backend (σ × List Exchange) where
  connect s :=
    let (answer, rest) := server.backend.connect s.1
    (answer, rest, s.2 ++ [.connected answer.toOption])
  close h s := (server.backend.close h s.1, s.2 ++ [.closed h])
  change h c s :=
    let (answer, rest) := server.backend.change h c s.1
    (answer, rest, s.2 ++ [.performed h (.change c) (server.report? h (.change c) s.1)])
  columns h table s :=
    let (answer, rest) := server.backend.columns h table s.1
    (answer, rest, s.2 ++ [.performed h (.columns table) (server.report? h (.columns table) s.1)])

/-- The exchanges of work. -/
def exchanges {α : Type} (server : Server σ) (work : Work α) (s : σ) : List Exchange :=
  (work.run server.observed (s, [])).2.2

end Server

/-- Work ends alike when it is observed. -/
theorem Work.run_observed {α : Type} (server : Server σ) (work : Work α) (s : σ)
    (exchanges : List Exchange) :
    (work.run server.observed (s, exchanges)).1 = (work.run server.backend s).1 ∧
      (work.run server.observed (s, exchanges)).2.1 = (work.run server.backend s).2 := by
  induction work generalizing s exchanges with
  | done a => exact ⟨rfl, rfl⟩
  | connect next ih => exact ih _ _ _
  | close h next ih => exact ih _ _ _
  | change h c next ih => exact ih _ _ _
  | columns h table next ih => exact ih _ _ _

end PowerTelemetry.Store
