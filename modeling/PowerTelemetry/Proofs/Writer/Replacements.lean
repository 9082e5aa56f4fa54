import PowerTelemetry.Proofs.Store.Failures
import PowerTelemetry.Writer
/-!
# When a writer replaces its connection

A statement of a store may end with any report.  If this is more than that a table
is there already, the store fails with the error that the report is made into.
The writer replaces its connection if the report says that it is gone, and
otherwise keeps its handle and what it knows of all other tables.

* `givesUp_storeThrough`: the calls of a store through a handle stop at the first
  error, and nothing is learnt but of the destination.
* `attempt_of_report` and `store_of_report` take this to an attempt and to a whole
  store.
* `failures_shown` is the result: no error hides what a report says of the
  connection.
-/

namespace PowerTelemetry

open Store (Work Handle Server Exchange Operation)

/-! ## What is known of other tables -/

namespace Reconciler

/-- The same is known of all tables but one. -/
def SameBut (table : String) (before r : Reconciler) : Prop :=
  ∀ other, other ≠ table → r.known.get? other = before.known.get? other

variable {table : String} {before r : Reconciler}

theorem SameBut.refl (table : String) (r : Reconciler) : SameBut table r r :=
  fun _ _ => rfl

private theorem SameBut.insert (h : SameBut table before r) (names : Dict Unit) :
    SameBut table before ⟨r.known.insert table names⟩ := fun other hother =>
  (Dict.get?_insert_of_ne _ _ (Ne.symm hother)).trans (h other hother)

theorem SameBut.learn (h : SameBut table before r) (names : List String) :
    SameBut table before (r.learn table names) :=
  h.insert _

theorem SameBut.learnMore (h : SameBut table before r) (names : List String) :
    SameBut table before (r.learnMore table names) :=
  h.insert _

/-! ## Columns are ensured until the first error -/

/-- The result is this error. -/
def FailsWith {α β : Type} (r : Except StoreError α × β) (error : StoreError) : Prop :=
  r.1 = .error error

theorem givesUp_grow (h : SameBut table before r) (handle : Handle) (columns : List Column) :
    (r.grow handle table columns).GivesUp handle (fun a => SameBut table before a.2) FailsWith := by
  rw [grow]
  split
  · exact h
  · refine ⟨rfl, fun answer => ?_, fun error _ => ⟨_, rfl, rfl⟩⟩
    cases answer with
    | ok _ => exact h.learnMore _
    | error error => exact h

theorem givesUp_adopt (h : SameBut table before r) (handle : Handle) (columns : List Column) :
    (r.adopt handle table columns).GivesUp handle (fun a => SameBut table before a.2) FailsWith := by
  refine ⟨rfl, fun answer => ?_, fun error _ => ⟨_, rfl, rfl⟩⟩
  cases answer with
  | ok names => exact givesUp_grow (h.learn names) handle columns
  | error error => exact h

theorem givesUp_ensure (r : Reconciler) (handle : Handle) (table : String)
    (columns : List Column) :
    (r.ensure handle table columns).GivesUp handle (fun a => SameBut table r a.2) FailsWith := by
  have hsame := SameBut.refl table r
  rw [ensure]
  split
  · exact givesUp_grow hsame handle columns
  · refine ⟨rfl, fun answer => ?_, fun error hother => ?_⟩
    · rcases answer with error | _
      · cases error with
        | alreadyExists _ => exact givesUp_adopt hsame handle columns
        | _ => exact hsame
      · exact hsame.learn _
    · cases error with
      | alreadyExists other => exact absurd rfl (hother other)
      | _ => exact ⟨_, rfl, rfl⟩

end Reconciler

namespace Writer

open Reconciler (SameBut FailsWith)

/-! ## Attempts -/

/-- The writer has a handle, and knows of all tables but one what another one knew. -/
structure Holding (before : Writer) (handle : Handle) (destination : String) (w : Writer) :
    Prop where
  handle : w.handle = some handle
  known : SameBut destination before.known w.known

theorem givesUp_storeThrough {w : Writer} {handle : Handle} (hw : w.handle = some handle)
    (destination : String) (sample : Sample) :
    (w.storeThrough handle destination sample).GivesUp handle
      (fun r => w.Holding handle destination r.2) FailsWith := by
  refine (w.known.givesUp_ensure handle destination _).bind (fun a hsame => ?_)
    fun a error hfails => ?_
  · obtain ⟨error | added, known⟩ := a
    · exact ⟨hw, hsame⟩
    · exact ⟨rfl, fun answer => ⟨hw, hsame⟩, fun error _ => ⟨_, rfl, rfl⟩⟩
  · obtain ⟨answer, known⟩ := a
    obtain rfl : answer = .error error := hfails
    exact ⟨_, rfl, rfl⟩

/-- The writer has not closed its handle, and knows of all tables but one what it knew. -/
structure Kept (before : Writer) (handle : Handle) (destination : String)
    (exchanges : List Exchange) (w : Writer) : Prop where
  holding : before.Holding handle destination w
  not_closed : ∀ h, .closed h ∉ exchanges

/-- What an attempt comes to that had a handle. -/
structure Attempted (before : Writer) (handle : Handle) (destination : String)
    (exchanges : List Exchange) (r : Except StoreError Unit × Writer) : Prop where
  handle_eq : ∀ old, before.handle = some old → old = handle
  kept : before.Kept handle destination exchanges r.2
  failed : ∀ h operation report, .performed h operation (some report) ∈ exchanges →
    report.code? ≠ some StoreError.duplicateTable →
      h = handle ∧ r.1 = .error (operation.failure report)

variable {σ : Type} (server : Server σ) (s : σ) (destination : String) (sample : Sample)

/-- An attempt through a handle, after nothing or a connect. -/
theorem attempted_storeThrough {before w : Writer} {handle : Handle} {exchanges : List Exchange}
    (hold : ∀ old, before.handle = some old → old = handle) (hw : w.handle = some handle)
    (hknown : w.known = before.known)
    (hexchanges : ∀ x ∈ exchanges, ∃ handle, x = .connected handle) :
    let r := (w.storeThrough handle destination sample).run server.observed (s, exchanges)
    before.Attempted handle destination r.2.2 r.1 := by
  intro r
  obtain ⟨hholding, more, hmore, hexchanged⟩ :=
    (givesUp_storeThrough hw destination sample).run server s exchanges
  refine ⟨hold, ⟨⟨hholding.handle, hknown ▸ hholding.known⟩, fun h hclosed => ?_⟩,
    fun h operation report hperformed hcode => ?_⟩
  · rw [hmore, List.mem_append] at hclosed
    rcases hclosed with hclosed | hclosed
    · obtain ⟨_, hx⟩ := hexchanges _ hclosed
      cases hx
    · obtain ⟨_, _, hx⟩ := hexchanged.through _ hclosed
      cases hx
  · rw [hmore, List.mem_append] at hperformed
    rcases hperformed with hperformed | hperformed
    · obtain ⟨_, hx⟩ := hexchanges _ hperformed
      cases hx
    · obtain ⟨_, _, hx⟩ := hexchanged.through _ hperformed
      obtain ⟨rfl, -, -⟩ := Exchange.performed.inj hx
      exact ⟨rfl, hexchanged.failed operation report hperformed hcode⟩

/-- An attempt had a handle, or no statement was performed. -/
theorem attempt_cases (w : Writer) :
    let r := (w.attempt destination sample).run server.observed (s, [])
    (∃ handle, w.Attempted handle destination r.2.2 r.1) ∨ r.2.2 = [.connected none] := by
  rw [attempt]
  cases hw : w.handle with
  | some handle =>
    have hold (old : Handle) (h : w.handle = some old) : old = handle :=
      Option.some.inj (h.symm.trans hw)
    exact .inl ⟨handle, attempted_storeThrough server s destination sample hold hw rfl (by simp)⟩
  | none =>
    have hconnect : server.observed.connect (s, [])
        = ((server.backend.connect s).1, (server.backend.connect s).2,
            [.connected (server.backend.connect s).1.toOption]) := rfl
    simp only [Work.run_bind, Work.run_connected, hconnect]
    cases (server.backend.connect s).1 with
    | error error => exact .inr rfl
    | ok handle =>
      have hold (old : Handle) (h : w.handle = some old) : old = handle := by
        rw [hw] at h
        cases h
      refine .inl ⟨handle, attempted_storeThrough server _ destination sample hold rfl rfl ?_⟩
      simp [Except.toOption]

/-! ## Stores -/

/-- The writer gave up its handle with all that it knew, and has the one that it got instead, if it
got one. -/
structure Replaced (handle : Handle) (exchanges : List Exchange) (w : Writer) : Prop where
  exchanged : ∃ before, exchanges = before ++ [.closed handle, .connected w.handle]
  known : w.known = Reconciler.empty

theorem Kept.not_replaced {before w : Writer} {handle other : Handle} {exchanges : List Exchange}
    (h : before.Kept handle destination exchanges w) : ¬w.Replaced other exchanges := by
  rintro ⟨⟨front, rfl⟩, -⟩
  exact h.not_closed other (by simp)

variable {w : Writer} {handle : Handle} {exchanges : List Exchange}

/-- The handle is closed, if there is one, and then another one is asked for. -/
theorem run_reconnect (w : Writer) (exchanges : List Exchange) :
    let r := w.reconnect.run server.observed (s, exchanges)
    r.2.2 = exchanges ++ (w.handle.toList.map .closed ++ [.connected r.1.handle]) ∧
      r.1.known = Reconciler.empty := by
  rw [reconnect, closeHandle]
  cases w.handle with
  | none =>
    simp only [Work.run_bind, Work.run_pure, Work.run_connected, Server.observed]
    cases (server.backend.connect s).1 <;> exact ⟨rfl, rfl⟩
  | some handle =>
    simp only [Work.run_bind, Work.run_closed, Work.run_connected, Server.observed]
    cases (server.backend.connect (server.backend.close handle s)).1 <;>
      exact ⟨List.append_assoc _ _ _, rfl⟩

/-- A result that says that the connection is gone replaces it. -/
theorem conclude_of_lost (hw : w.handle = some handle) {result : Except StoreError Unit}
    (hlost : losesConnection result = true) :
    let r := (w.conclude destination result).run server.observed (s, exchanges)
    r.1.Replaced handle r.2.2 := by
  have hcounted : (w.counted destination result).handle = some handle := by
    cases result <;> exact hw
  rw [conclude, if_pos hlost]
  obtain ⟨hexchanged, hknown⟩ :=
    run_reconnect server s (w.counted destination result) exchanges
  rw [hcounted] at hexchanged
  exact ⟨⟨exchanges, hexchanged⟩, hknown⟩

/-- Any other result leaves the writer as it is. -/
theorem conclude_of_kept {before : Writer} (h : before.Kept handle destination exchanges w)
    {result : Except StoreError Unit} (hkept : losesConnection result = false) :
    let r := (w.conclude destination result).run server.observed (s, exchanges)
    before.Kept handle destination r.2.2 r.1 := by
  have hr : (w.conclude destination result).run server.observed (s, exchanges)
      = (w.counted destination result, s, exchanges) := by
    simp [conclude, hkept]
  rw [hr]
  cases result <;> exact ⟨⟨h.holding.handle, h.holding.known⟩, h.not_closed⟩

/-- Concluding performs no operation. -/
theorem performed_of_conclude {operation : Operation} {report : Option DatabaseError}
    {result : Except StoreError Unit}
    (h : .performed handle operation report
      ∈ ((w.conclude destination result).run server.observed (s, exchanges)).2.2) :
    .performed handle operation report ∈ exchanges := by
  rw [conclude] at h
  split at h
  · rw [(run_reconnect server s _ _).1] at h
    simpa using h
  · exact h

/-- A store whose statement ends with a report that is more than that a table is there already: it
fails, and the connection is replaced if the report says that it is gone. -/
theorem store_of_report {operation : Operation} {report : DatabaseError}
    (hcode : report.code? ≠ some StoreError.duplicateTable)
    (hperformed : .performed handle operation (some report)
      ∈ server.exchanges (w.store destination sample) s) :
    let exchanges := server.exchanges (w.store destination sample) s
    let r := ((w.store destination sample).run server.backend s).1
    (∀ old, w.handle = some old → old = handle) ∧ r.1 = .error (operation.failure report) ∧
      (r.2.Replaced handle exchanges ↔ report.isConnectionClosed) ∧
      (¬report.isConnectionClosed → w.Kept handle destination exchanges r.2) := by
  intro exchanges r
  obtain ⟨hr, -⟩ := Work.run_observed server (w.store destination sample) s []
  have hcases := attempt_cases server s destination sample w
  simp only [exchanges, r, Server.exchanges, ← hr] at hperformed ⊢
  simp only [store, Work.run_bind, Work.run_pure] at hperformed ⊢
  generalize (w.attempt destination sample).run server.observed (s, []) = a
    at hcases hperformed ⊢
  obtain ⟨⟨result, v⟩, s', before⟩ := a
  -- concluding performs nothing, so the statement was one of the attempt
  have hbefore := performed_of_conclude server s' destination hperformed
  rcases hcases with ⟨held, hold, hkept, hfailed⟩ | hnone
  · obtain ⟨rfl, hresult⟩ := hfailed _ _ _ hbefore hcode
    obtain rfl : result = .error (operation.failure report) := hresult
    have hloses : losesConnection (.error (operation.failure report)) = report.isConnectionClosed :=
      operation.isConnectionClosed_failure hcode
    have hopened (hopen : ¬report.isConnectionClosed = true) :=
      conclude_of_kept server s' destination hkept (hloses.trans (Bool.eq_false_iff.mpr hopen))
    refine ⟨hold, rfl, ⟨fun hreplaced => ?_, fun hclosed => ?_⟩, hopened⟩
    · exact Decidable.of_not_not fun hopen => (hopened hopen).not_replaced destination hreplaced
    · exact conclude_of_lost server s' destination hkept.holding.handle (hloses.trans hclosed)
  · obtain rfl : before = [.connected none] := hnone
    simp at hbefore

/-- No error hides what a report says of the connection.  Each operation whose statement ends with
a report fails with an error that shows it.  A store with such a statement, if the report is more
than that a table is there already, fails with this error; the writer then replaces its handle and
forgets all it knows exactly if the report says that the connection is gone, and otherwise keeps
its handle and what it knows of all other tables. -/
theorem failures_shown {σ : Type} (server : Server σ) :
    (∀ handle operation s report, server.report? handle operation s = some report →
      ∃ error, server.Fails handle operation s error ∧ error.Shows report) ∧
    ∀ (w : Writer) destination sample s handle operation report,
      .performed handle operation (some report)
        ∈ server.exchanges (w.store destination sample) s →
      report.code? ≠ some StoreError.duplicateTable →
      let exchanges := server.exchanges (w.store destination sample) s
      let r := ((w.store destination sample).run server.backend s).1
      (∀ old, w.handle = some old → old = handle) ∧
        r.1 = .error (operation.failure report) ∧ (operation.failure report).Shows report ∧
        (r.2.Replaced handle exchanges ↔ (StoreError.database report).isConnectionClosed) ∧
        (¬(StoreError.database report).isConnectionClosed →
          w.Kept handle destination exchanges r.2) := by
  refine ⟨fun handle operation s report h => ?_,
    fun w destination sample s handle operation report hperformed hcode => ?_⟩
  · exact ⟨_, Server.fails_of_report h, operation.shows_failure report⟩
  · obtain ⟨hold, hresult, hconnection⟩ :=
      store_of_report server s destination sample hcode hperformed
    exact ⟨hold, hresult, operation.shows_failure report, hconnection⟩

/-- A server with which every statement ends with one report. -/
def refusing (report : DatabaseError) : Server Unit where
  connect s := (.ok ⟨1⟩, s)
  close _ s := s
  perform _ _ s := (.error report, s)

/-- A plug that does not know its power. -/
def unsure : Sample :=
  ⟨"HW51", ⟨0, 0⟩, Dict.ofList [("power", .text "no")]⟩

/-- A writer that knows the column for it, and another table. -/
def informed : Writer :=
  ⟨some ⟨0⟩, (Reconciler.empty.learn "plug" ["eco_power"]).learn "meter" ["eco_watts"],
    Counters.empty⟩

/-- What the server says if the column has whole numbers. -/
def miscast : DatabaseError :=
  .statement (some "42804") "column \"eco_power\" is of type bigint but expression is of type text"

/-- What is reported of a connection that is gone. -/
def dropped : DatabaseError :=
  .io "connection reset by peer"

/-- The writer's first statement is the insert. -/
theorem performed_refusing : ∀ report ∈ [miscast, dropped],
    .performed ⟨0⟩ (.change (insertion "plug" unsure (Column.inferAll unsure.attributes)))
        (some report)
      ∈ (refusing report).exchanges (informed.store "plug" unsure) () := by
  decide +kernel

/-- A rejected row leaves the writer its handle and the other table, and a connection that is
gone is replaced.  The columns of a table are asked for in vain, and the error shows why. -/
theorem failures_shown_refusing :
    (∃ error, (refusing miscast).Fails ⟨0⟩ (.columns "plug") () error ∧ error.Shows miscast) ∧
      informed.Kept ⟨0⟩ "plug" ((refusing miscast).exchanges (informed.store "plug" unsure) ())
        ((informed.store "plug" unsure).run (refusing miscast).backend ()).1.2 ∧
      ((informed.store "plug" unsure).run (refusing dropped).backend ()).1.2.Replaced ⟨0⟩
        ((refusing dropped).exchanges (informed.store "plug" unsure) ()) := by
  have hopen : ¬(StoreError.database miscast).isConnectionClosed := by decide +kernel
  obtain ⟨-, -, -, -, hkept⟩ := (failures_shown (refusing miscast)).2 informed "plug" unsure ()
    _ _ _ (performed_refusing miscast (by decide)) (by decide)
  obtain ⟨-, -, -, hreplaced, -⟩ := (failures_shown (refusing dropped)).2 informed "plug" unsure ()
    _ _ _ (performed_refusing dropped (by decide)) (by decide)
  exact ⟨(failures_shown (refusing miscast)).1 ⟨0⟩ (.columns "plug") () miscast rfl, hkept hopen,
    hreplaced.mpr rfl⟩

end Writer

end PowerTelemetry
