import PowerTelemetry.Proofs.Column.Kinds
import PowerTelemetry.Proofs.Writer.Effect
/-!
# Stores into a table that is not there

Whether a store creates a table that is not there depends on what the writer
knows.  If it does not know the table, the store creates it and inserts the row
(`store_of_unknown`).  If it believes that it knows the table, the store fails,
the writer goes on believing so (`store_of_believed`), and no further store
creates the table (`storeAll_of_believed`).

A writer believes so only after an arranged failure has claimed that the table
exists: `store_of_absent` says when a store recovers and when it does not.
-/

namespace PowerTelemetry

open Store (Work Memory Handle Table)

namespace StoreRequest

/-- A table without columns takes the values of a request, if they fit. -/
theorem answer_empty {r : StoreRequest} (hvalues : ∀ a ∈ r.sample.attributes.entries, a.2.Fits) :
    r.answer Table.empty = .ok () := by
  rw [answer_eq_ok_iff]
  intro e he
  exact Column.accepts_inferAll hvalues r.sample.capturedAt he

theorem effect_empty {r : StoreRequest} (hvalues : ∀ a ∈ r.sample.attributes.entries, a.2.Fits) :
    r.effect Table.empty = ⟨r.columns, [r.row]⟩ := by
  have hnone : r.refused? Table.empty = none := by
    rw [refused?_eq_none_iff, ← answer_eq_ok_iff]
    exact answer_empty hvalues
  rw [effect, hnone]
  simp [Table.empty, Table.lacking, Table.column?]

end StoreRequest

namespace Writer

variable {m : Memory} {w : Writer} {request : StoreRequest}

/-! ## A table that is not known -/

/-- A table that is neither there nor known is created, and the row is
inserted. -/
theorem storeThrough_of_unknown (hk : w.known.isKnown request.destination = false)
    (habsent : m.tables.get? request.destination = none) (hschema : m.schemaFailures = [])
    (hinsert : m.insertFailures = []) (handle : Handle) :
    let r := (w.storeThrough handle request.destination request.sample).run Memory.backend m
    r.1.1 = request.answer Table.empty ∧
      r.2.tables = m.tables.insert request.destination (request.effect Table.empty) := by
  have hensure := Reconciler.ensure_cases handle m request.columns hk
  rw [run_storeThrough]
  generalize (w.known.ensure handle request.destination request.columns).run Memory.backend m = r
    at hensure ⊢
  obtain ⟨⟨answer, known⟩, n⟩ := r
  rcases hensure with ⟨_, hfailure, _, _⟩ | ⟨_, _, _, hthere | ⟨_, hclaimed⟩, _⟩ |
    ⟨_, hfewer, hanswer, htables⟩
  · rw [hschema] at hfailure
    cases hfailure
  · rw [Dict.contains_eq_isSome, habsent] at hthere
    cases hthere
  · rw [hschema] at hclaimed
    cases hclaimed
  · cases hanswer
    have hplain : n.insertFailures = [] := List.subset_nil.mp (hinsert ▸ hfewer.inserts)
    have hcreated : n.tables.get? request.destination
        = some (Table.empty.addColumns request.columns) := by
      rw [htables, Dict.get?_insert_self, Table.addColumns_empty request.nodup_columns]
    obtain ⟨hresult, hafter⟩ := insertion_of_grown hplain request hcreated
    refine ⟨hresult, hafter.trans ?_⟩
    rw [htables, Dict.insert_insert_self]

/-- A store into a table that is neither there nor known creates it, if no failure
is to come. -/
theorem store_of_unknown (hk : w.known.isKnown request.destination = false)
    (habsent : m.tables.get? request.destination = none) (hm : m.pending = []) :
    let r := (w.store request.destination request.sample).run Memory.backend m
    r.1.1 = request.answer Table.empty ∧
      r.2.tables = m.tables.insert request.destination (request.effect Table.empty) := by
  refine store_of_storeThrough request hm ?_
  intro v handle n hknown hn hschema hinsert
  rw [← hn]
  exact storeThrough_of_unknown (hknown ▸ hk) (hn ▸ habsent) hschema hinsert handle

/-! ## A table that is known but not there -/

/-- The errors of a store that names a table that is not there. -/
def Missing (destination : String) (error : StoreError) : Prop :=
  error = .schema destination Store.noTable ∨ error = .insert destination Store.noTable

/-- A row is not inserted into a table that is not there. -/
theorem insertion_of_absent (m : Memory)
    (habsent : m.tables.get? request.destination = none) :
    (∃ error, (m.change request.insertion).1 = .error error ∧
        (error ∈ m.insertFailures ∨ error = .insert request.destination Store.noTable)) ∧
      (m.change request.insertion).2.tables = m.tables := by
  rcases Memory.insert_cases m request.destination (Sql.fields request.cells)
      [Sql.row request.sample.capturedAt request.cells] with
    ⟨error, hfailure, hanswer, htables⟩ | ⟨_, hanswer, htables⟩ | ⟨t, _, ht, _⟩ | ⟨t, _, ht, _⟩
  · exact ⟨⟨error, hanswer, .inl hfailure⟩, htables⟩
  · exact ⟨⟨_, hanswer, .inr rfl⟩, htables⟩
  · rw [habsent] at ht
    cases ht
  · rw [habsent] at ht
    cases ht

/-- A table that is known but not there is neither extended nor created. -/
theorem storeThrough_of_believed (hk : w.known.isKnown request.destination)
    (habsent : m.tables.get? request.destination = none) (hschema : m.schemaFailures = [])
    (hinsert : m.insertFailures = []) (handle : Handle) :
    let r := (w.storeThrough handle request.destination request.sample).run Memory.backend m
    (∃ error, Missing request.destination error ∧ r.1.1 = .error error) ∧
      r.1.2.known = w.known ∧ r.2.tables = m.tables := by
  have hgrow := w.known.grow_cases handle m request.destination request.columns
  rw [run_storeThrough, Reconciler.ensure_of_known _ hk]
  generalize (w.known.grow handle request.destination request.columns).run Memory.backend m = r
    at hgrow ⊢
  obtain ⟨⟨answer, known⟩, n⟩ := r
  rcases hgrow with ⟨_, hr⟩ | ⟨_, hfailure, _, _⟩ | ⟨_, hr, htables⟩ | ⟨_, ht, _, _⟩
  · cases hr
    obtain ⟨⟨error, hanswer, hfailure | hmissing⟩, htables⟩ := insertion_of_absent m habsent
    · rw [hinsert] at hfailure
      cases hfailure
    · exact ⟨⟨error, .inr hmissing, hanswer⟩, rfl, htables⟩
  · rw [hschema] at hfailure
    cases hfailure
  · cases hr
    exact ⟨⟨_, .inl rfl, rfl⟩, rfl, htables⟩
  · rw [habsent] at ht
    cases ht

/-- A store into a table that is known but not there fails.  The table stays
unknown to the store in memory, and known to the writer. -/
theorem store_of_believed (hk : w.known.isKnown request.destination)
    (habsent : m.tables.get? request.destination = none) (hm : m.pending = []) :
    let r := (w.store request.destination request.sample).run Memory.backend m
    (∃ error, Missing request.destination error ∧ r.1.1 = .error error) ∧
      r.1.2.known = w.known ∧ r.2.tables = m.tables := by
  have hattempt := attempt_of_storeThrough (w := w) (P := fun a =>
    (∃ error, Missing request.destination error ∧ a.1.1 = .error error) ∧
      a.1.2.known = w.known ∧ a.2.tables = m.tables) request hm
    fun v handle n hknown hn hschema hinsert => by
      rw [← hknown, ← hn]
      exact storeThrough_of_believed (hknown ▸ hk) (hn ▸ habsent) hschema hinsert handle
  simp only [store, Work.run_bind, Work.run_pure]
  generalize (w.attempt request.destination request.sample).run Memory.backend m = a at hattempt ⊢
  obtain ⟨⟨result, v⟩, n⟩ := a
  obtain ⟨⟨error, hmissing, rfl⟩, hknown, htables⟩ := hattempt
  have hkeeps : losesConnection (.error error) = false := by
    rcases hmissing with rfl | rfl <;> rfl
  rw [conclude, hkeeps]
  exact ⟨⟨error, hmissing, rfl⟩, hknown, htables⟩

/-- No number of stores into a table that is known but not there changes that. -/
theorem storeAll_of_believed {destination : String} {requests : List StoreRequest}
    (hrequests : ∀ request ∈ requests, request.destination = destination)
    (hk : w.known.isKnown destination) (habsent : m.tables.get? destination = none)
    (hm : m.pending = []) :
    ((w.storeAll requests).run Memory.backend m).2.tables = m.tables := by
  induction requests generalizing w m with
  | nil => rfl
  | cons request rest ih =>
    obtain rfl : request.destination = destination := hrequests request List.mem_cons_self
    obtain ⟨_, hknown, htables⟩ := store_of_believed hk habsent hm
    have hcalm : ((w.store request.destination request.sample).run Memory.backend m).2.pending
        = [] :=
      List.subset_nil.mp (hm ▸ Memory.pending_run _ m)
    rw [storeAll, Work.run_bind, ← htables]
    exact ih (fun r hr => hrequests r (List.mem_cons_of_mem _ hr)) (hknown ▸ hk)
      (htables ▸ habsent) hcalm

end Writer

/-! ## Every moment -/

namespace Fleet

variable {ι : Type} [DecidableEq ι]

/-- A store into a table that is not there, by an idle writer at a moment at which
no failure is to come, after any run.  It creates the table and inserts the row
if the writer does not know the table.  Otherwise it fails, and no number of
further stores creates the table; and a failure was arranged that claims that some
table exists. -/
theorem store_of_absent (counters : ι → Counters) (store : Memory) (events : List (Event ι))
    (f : Fleet ι) (hrun : (start counters store).run events = some f)
    (i : ι) (writer : Writer) (hidle : f.worker i = Worker.idle writer)
    (hcalm : f.store.pending = []) (request : StoreRequest)
    (habsent : f.store.tables.get? request.destination = none)
    (hvalues : ∀ a ∈ request.sample.attributes.entries, a.2.Fits) :
    let r := (writer.store request.destination request.sample).run Memory.backend f.store
    (writer.known.isKnown request.destination = false ∧ r.1.1 = .ok () ∧
        r.2.tables.get? request.destination = some ⟨request.columns, [request.row]⟩) ∨
      (writer.known.isKnown request.destination = true ∧
        (∃ error, Writer.Missing request.destination error ∧ r.1.1 = .error error) ∧
        (∀ requests : List StoreRequest,
          (∀ q ∈ requests, q.destination = request.destination) →
          ((writer.storeAll requests).run Memory.backend f.store).2.tables = f.store.tables) ∧
        ∃ table, StoreError.alreadyExists table ∈ store.pending ++ failures events) := by
  intro r
  cases hk : writer.known.isKnown request.destination with
  | false =>
    obtain ⟨hresult, htables⟩ := Writer.store_of_unknown hk habsent hcalm
    refine .inl ⟨rfl, hresult.trans (StoreRequest.answer_empty hvalues), ?_⟩
    rw [htables, Dict.get?_insert_self, StoreRequest.effect_empty hvalues]
  | true =>
    obtain ⟨herror, _⟩ := Writer.store_of_believed hk habsent hcalm
    refine .inr ⟨rfl, herror, fun requests hrequests =>
      Writer.storeAll_of_believed hrequests hk habsent hcalm, ?_⟩
    by_contra hnone
    -- Without such a failure the writer knows nothing false, and the table is there.
    have hplain : ∀ table, StoreError.alreadyExists table ∉ store.pending ++ failures events :=
      fun table hmem => hnone ⟨table, hmem⟩
    have hw := truthful_of_run hrun hplain hidle
    obtain ⟨t, ht, _⟩ := Reconciler.Truthful.exists_table hw hk
    rw [habsent] at ht
    cases ht

/-- What a device reported to a table. -/
private def meadowRequest : StoreRequest :=
  ⟨"meadow", ⟨"HW51", ⟨0, 0⟩, Dict.ofList [("watts", .integer 5)]⟩⟩

/-- A store that is stopped by a failure of a change of columns. -/
private def stoppedEvents (failure : StoreError) (turns : Nat) : List (Event Unit) :=
  [.disturb (.failSchemaChange failure), .take () meadowRequest]
    ++ List.replicate turns (.work ())

private def stopped (failure : StoreError) (turns : Nat) : Option (Fleet Unit) :=
  (start (fun _ : Unit => Counters.empty) Memory.empty).run (stoppedEvents failure turns)

/-- A full disk stops the create. -/
private def fullDisk : Fleet Unit :=
  (stopped (.schema "meadow" "disk full") 3).get (by decide)

theorem store_of_absent_fullDisk :
    (start (fun _ : Unit => Counters.empty) Memory.empty).run
        (stoppedEvents (.schema "meadow" "disk full") 3) = some fullDisk ∧
      fullDisk.worker () = Worker.idle (fullDisk.worker ()).writer ∧
      fullDisk.store.pending = [] ∧ fullDisk.store.tables.get? "meadow" = none ∧
      (∀ a ∈ meadowRequest.sample.attributes.entries, a.2.Fits) ∧
      (((fullDisk.worker ()).writer.store "meadow" meadowRequest.sample).run Memory.backend
        fullDisk.store).1.1 = .ok () := by
  have hrun : (start (fun _ : Unit => Counters.empty) Memory.empty).run
      (stoppedEvents (.schema "meadow" "disk full") 3) = some fullDisk :=
    (Option.some_get _).symm
  have hidle : fullDisk.worker () = Worker.idle (fullDisk.worker ()).writer := rfl
  have hfits : ∀ a ∈ meadowRequest.sample.attributes.entries, a.2.Fits := by
    simp [meadowRequest, Dict.ofList, Dict.insert, Dict.put, Dict.empty, Value.Fits]
  have hunknown : (fullDisk.worker ()).writer.known.isKnown "meadow" = false := by decide
  refine ⟨hrun, hidle, rfl, rfl, hfits, ?_⟩
  rcases store_of_absent (fun _ => Counters.empty) Memory.empty _ fullDisk hrun ()
      (fullDisk.worker ()).writer hidle rfl meadowRequest rfl hfits with
    ⟨_, hok, _⟩ | ⟨hknown, _⟩
  · exact hok
  · cases hunknown.symm.trans hknown

/-- A failure claims that the table exists. -/
private def deceived : Fleet Unit :=
  (stopped (.alreadyExists "meadow") 5).get (by decide)

/-- After a failure that claims that a table exists, a sample whose values fit is
not stored although no failure is to come. -/
theorem not_recovers_deceived :
    (start (fun _ : Unit => Counters.empty) Memory.empty).run
        (stoppedEvents (.alreadyExists "meadow") 5) = some deceived ∧
      deceived.worker () = Worker.idle (deceived.worker ()).writer ∧
      deceived.store.pending = [] ∧ deceived.store.tables.get? "meadow" = none ∧
      (∀ a ∈ meadowRequest.sample.attributes.entries, a.2.Fits) ∧
      ¬((((deceived.worker ()).writer.store "meadow" meadowRequest.sample).run Memory.backend
          deceived.store).1.1 = .ok () ∧
        (((deceived.worker ()).writer.store "meadow" meadowRequest.sample).run Memory.backend
          deceived.store).2.tables.contains "meadow") := by
  have hfits : ∀ a ∈ meadowRequest.sample.attributes.entries, a.2.Fits := by
    simp [meadowRequest, Dict.ofList, Dict.insert, Dict.put, Dict.empty, Value.Fits]
  have hnone : (((deceived.worker ()).writer.store "meadow" meadowRequest.sample).run
      Memory.backend deceived.store).2.tables.contains "meadow" = false := by
    decide +kernel
  refine ⟨(Option.some_get _).symm, rfl, rfl, rfl, hfits, fun hstored => ?_⟩
  rw [hnone] at hstored
  exact absurd hstored.2 (by decide)

end Fleet

end PowerTelemetry
