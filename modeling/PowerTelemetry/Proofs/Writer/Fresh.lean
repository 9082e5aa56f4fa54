import PowerTelemetry.Proofs.Writer.Recovery
/-!
# Stores into fresh tables

A destination is fresh for a writer if there is no table and the writer knows of
none.  A store creates the table then, with the columns that were inferred from the
very values that are going to be inserted.

* `answer_empty_ok_iff` says that such a table takes the values, unless one of
  them is too long for its column.
* `Blamed` lists why a store into a fresh destination may fail, `blamed_storeThrough`
  says that there is no other reason.
* `store_of_fresh` is the result, for values and for stores.
-/

namespace PowerTelemetry

open Store (Work Memory Handle Table accepts rejection)

namespace StoreRequest

variable {r : StoreRequest}

/-- A table that is made for a request takes its values, unless one is too long. -/
theorem answer_empty_ok_iff (hsized : ∀ e ∈ r.cells.entries, e.2.Sized) :
    r.answer Table.empty = .ok () ↔ ∀ e ∈ r.cells.entries, ¬e.2.Overlong := by
  rw [answer_eq_ok_iff]
  constructor
  · intro h e he
    exact (Column.accepts_inferAll_iff he (hsized e he) r.sample.capturedAt).mp (h e he)
  · intro h e he
    exact (Column.accepts_inferAll_iff he (hsized e he) r.sample.capturedAt).mpr (h e he)

/-- The rejection names a value that is too long. -/
theorem exists_overlong_of_answer_empty (hsized : ∀ e ∈ r.cells.entries, e.2.Sized)
    {error : StoreError} (h : r.answer Table.empty = .error error) :
    ∃ e ∈ r.cells.entries, e.2.Overlong ∧
      error = .insert r.destination (rejection e.1 e.2.kind (r.datum e.2)) := by
  rw [answer] at h
  cases hrefused : r.refused? Table.empty with
  | none =>
    rw [hrefused] at h
    cases h
  | some e =>
    rw [hrefused] at h
    have he : e ∈ r.cells.entries := List.mem_of_find?_eq_some hrefused
    have hrejects := List.find?_some hrefused
    refine ⟨e, he, ?_, (Except.error.inj h).symm⟩
    by_contra hfits
    have htakes := (Column.accepts_inferAll_iff he (hsized e he) r.sample.capturedAt).mpr hfits
    simp only [Bool.not_eq_true', ← Bool.not_eq_true] at hrejects
    exact hrejects htakes

end StoreRequest

/-! ## Who is to blame -/

namespace Writer

/-- Why a store into a fresh destination may fail.  A failure was to come; or one
that said that the table is there already, and so it was not created; or a value is
too long for the column that was made for it. -/
inductive Blamed (m : Memory) (request : StoreRequest) (error : StoreError) : Prop where
  | arranged (pending : error ∈ m.pending)
  | deceived (table : String) (claimed : .alreadyExists table ∈ m.schemaFailures)
      (missing : Missing request.destination error)
  | overlong (e : String × Column.Cell) (cell : e ∈ request.cells.entries)
      (overlong : e.2.Overlong)
      (rejected : error = .insert request.destination
        (rejection e.1 e.2.kind (request.datum e.2)))

variable {w : Writer} {m n : Memory} {request : StoreRequest} {error : StoreError}

theorem Blamed.mono (h : Blamed n request error) (hfewer : m.FewerFailures n) :
    Blamed m request error := by
  cases h with
  | arranged pending => exact .arranged (hfewer.pending pending)
  | deceived table claimed missing => exact .deceived table (hfewer.schema claimed) missing
  | overlong e cell overlong rejected => exact .overlong e cell overlong rejected

theorem Blamed.of_schemaFailures (h : error ∈ m.schemaFailures) : Blamed m request error :=
  .arranged (by simp [Memory.pending, h])

theorem Blamed.of_insertFailures (h : error ∈ m.insertFailures) : Blamed m request error :=
  .arranged (by simp [Memory.pending, h])

/-- What it comes to that a fresh destination gets the columns of a request: it
fails for one of these reasons, the table is created, or nobody has created it as it
seemed to be there. -/
inductive EnsuresFresh (m : Memory) (request : StoreRequest) :
    (Except StoreError (List Column) × Reconciler) × Memory → Prop where
  | failed {error : StoreError} {known : Reconciler} {n : Memory}
      (blamed : Blamed m request error) : EnsuresFresh m request ((.error error, known), n)
  | created {added : List Column} {known : Reconciler} {n : Memory} (fewer : m.FewerFailures n)
      (tables : n.tables = m.tables.insert request.destination ⟨request.columns, []⟩) :
      EnsuresFresh m request ((.ok added, known), n)
  | pretended {added : List Column} {known : Reconciler} {n : Memory} {table : String}
      (fewer : m.FewerFailures n) (claimed : .alreadyExists table ∈ m.schemaFailures)
      (tables : n.tables = m.tables) : EnsuresFresh m request ((.ok added, known), n)

/-- A table that seems to be there does not get a column. -/
theorem ensuresFresh_grow (known : Reconciler) (handle : Handle) {table : String}
    (habsent : m.tables.get? request.destination = none) (hfewer : m.FewerFailures n)
    (htables : n.tables = m.tables) (hclaimed : .alreadyExists table ∈ m.schemaFailures) :
    EnsuresFresh m request
      ((known.grow handle request.destination request.columns).run Memory.backend n) := by
  have hgrow := known.grow_cases handle n request.destination request.columns
  generalize (known.grow handle request.destination request.columns).run Memory.backend n = r
    at hgrow ⊢
  obtain ⟨⟨answer, learnt⟩, o⟩ := r
  rcases hgrow with ⟨_, hr⟩ | ⟨error, hfailure, hr, _⟩ | ⟨_, hr, _⟩ | ⟨t, ht, _, _⟩
  · cases hr
    exact .pretended hfewer hclaimed htables
  · cases hr
    exact .failed (.of_schemaFailures (hfewer.schema hfailure))
  · cases hr
    exact .failed (.deceived table hclaimed (.inl rfl))
  · rw [htables, habsent] at ht
    cases ht

theorem ensuresFresh_ensure {known : Reconciler}
    (hk : known.isKnown request.destination = false)
    (habsent : m.tables.get? request.destination = none) (handle : Handle) :
    EnsuresFresh m request
      ((known.ensure handle request.destination request.columns).run Memory.backend m) := by
  have hensure := Reconciler.ensure_cases handle m request.columns hk
  generalize (known.ensure handle request.destination request.columns).run Memory.backend m = r
    at hensure ⊢
  rcases hensure with ⟨error, hfailure, hr, _⟩ |
    ⟨n, hfewer, htables, hthere | ⟨table, hclaimed⟩, rfl⟩ | ⟨_, hfewer, hr, htables⟩
  · obtain ⟨⟨answer, learnt⟩, n⟩ := r
    cases hr
    exact .failed (.of_schemaFailures hfailure)
  · rw [Dict.contains_eq_isSome, habsent] at hthere
    cases hthere
  · exact ensuresFresh_grow _ handle habsent hfewer htables hclaimed
  · obtain ⟨⟨answer, learnt⟩, n⟩ := r
    cases hr
    exact .created hfewer htables

/-- A row that is not inserted into the table that was created for it is too
long. -/
theorem blamed_insertion (hsized : ∀ e ∈ request.cells.entries, e.2.Sized)
    (ht : m.tables.get? request.destination = some ⟨request.columns, []⟩)
    (h : (m.change request.insertion).1 = .error error) : Blamed m request error := by
  rw [← Table.addColumns_empty request.nodup_columns] at ht
  cases hfailures : m.insertFailures with
  | cons failure rest =>
    change (m.insert request.destination (Sql.fields request.cells)
      [Sql.row request.sample.capturedAt request.cells]).1 = .error error at h
    rw [Memory.insert, hfailures] at h
    obtain rfl : failure = error := Except.error.inj h
    exact .of_insertFailures (by simp [hfailures])
  | nil =>
    have hanswer : request.answer Table.empty = .error error :=
      (insertion_of_grown hfailures request ht).1.symm.trans h
    obtain ⟨e, he, hlong, hrejected⟩ :=
      StoreRequest.exists_overlong_of_answer_empty hsized hanswer
    exact .overlong e he hlong hrejected

/-- A store through a handle into a fresh destination fails for one of these
reasons. -/
theorem blamed_storeThrough (hk : w.known.isKnown request.destination = false)
    (habsent : m.tables.get? request.destination = none)
    (hsized : ∀ e ∈ request.cells.entries, e.2.Sized) (handle : Handle)
    (h : ((w.storeThrough handle request.destination request.sample).run
      Memory.backend m).1.1 = .error error) : Blamed m request error := by
  have hensures := ensuresFresh_ensure hk habsent handle
  rw [run_storeThrough] at h
  generalize (w.known.ensure handle request.destination request.columns).run Memory.backend m = r
    at h hensures
  cases hensures with
  | failed blamed =>
    obtain rfl := Except.error.inj h
    exact blamed
  | created fewer tables =>
    refine (blamed_insertion hsized ?_ h).mono fewer
    rw [tables, Dict.get?_insert_self]
  | pretended fewer claimed tables =>
    obtain ⟨⟨failure, hanswer, hblame⟩, _⟩ := insertion_of_absent _ (tables ▸ habsent)
    obtain rfl : failure = error := Except.error.inj (hanswer.symm.trans h)
    rcases hblame with hfailure | hmissing
    · exact (Blamed.of_insertFailures hfailure).mono fewer
    · exact .deceived _ claimed (.inr hmissing)

/-- A store into a fresh destination fails for one of these reasons. -/
theorem blamed_store (hk : w.known.isKnown request.destination = false)
    (habsent : m.tables.get? request.destination = none)
    (hsized : ∀ e ∈ request.cells.entries, e.2.Sized)
    (h : ((w.store request.destination request.sample).run Memory.backend m).1.1
      = .error error) : Blamed m request error := by
  rw [(run_store w request m).1, attempt] at h
  cases hhandle : w.handle with
  | some handle =>
    rw [hhandle] at h
    exact blamed_storeThrough hk habsent hsized handle h
  | none =>
    have hconnect := Memory.connect_cases m
    have htables := Memory.tables_connect m
    have hfewer := Memory.fewerFailures_connect m
    rcases hcall : m.connect with ⟨answer, n⟩
    have hrun : Memory.backend.connect m = (answer, n) := hcall
    rw [hcall] at hconnect htables hfewer
    rw [hhandle] at h
    simp only [Work.run_bind, Work.run_connected, hrun] at h
    rcases hconnect with ⟨failure, hfailure, hanswer⟩ | ⟨handle, hanswer⟩
    · obtain rfl : answer = .error failure := hanswer
      obtain rfl : failure = error := Except.error.inj h
      exact .arranged (by simp [Memory.pending, hfailure])
    · obtain rfl : answer = .ok handle := hanswer
      have hblamed := blamed_storeThrough (w := ⟨some handle, w.known, w.counters⟩) hk
        (htables ▸ habsent) hsized handle h
      exact hblamed.mono hfewer

/-- Kinds and values agree.  Whatever a sample has and whenever it was taken, each
of its columns takes the value that is bound for it, unless this is a text of more
than 255 characters in a column that is not one of instants.  So a store into a
fresh destination, whatever else the writer knows and the store in memory holds,
fails for such a text or by a failure that was to come; and if there is none, it
succeeds exactly if no text is too long. -/
theorem store_of_fresh (request : StoreRequest) :
    (∀ e ∈ request.cells.entries, e.2.Sized →
        (accepts e.2.kind (request.datum e.2) ↔ ¬e.2.Overlong)) ∧
      ∀ (w : Writer) (m : Memory), (∀ e ∈ request.cells.entries, e.2.Sized) →
        w.known.isKnown request.destination = false →
        m.tables.get? request.destination = none →
        let r := (w.store request.destination request.sample).run Memory.backend m
        (∀ error, r.1.1 = .error error → Blamed m request error) ∧
          (m.pending = [] → (r.1.1 = .ok () ↔ ∀ e ∈ request.cells.entries, ¬e.2.Overlong)) := by
  constructor
  · intro e he hsized
    exact Column.accepts_inferAll_iff he hsized request.sample.capturedAt
  · intro w m hsized hk habsent r
    refine ⟨fun error herror => blamed_store hk habsent hsized herror, fun hcalm => ?_⟩
    have hanswer : r.1.1 = request.answer Table.empty := (store_of_unknown hk habsent hcalm).1
    rw [hanswer]
    exact StoreRequest.answer_empty_ok_iff hsized

private def freshRequest (attributes : List (String × Value)) : StoreRequest :=
  ⟨"fresh", ⟨"HW51", ⟨0, 0⟩, Dict.ofList attributes⟩⟩

/-- A zero with a sign, a whole number beyond 64 bits, a nested value, and a text
for an instant. -/
private def mixedAttributes : List (String × Value) :=
  [("Timestamp", .text "yesterday"), ("load", .decimal ⟨0x8000000000000000⟩),
    ("energy", .decimal ⟨0x43e158e460913d00⟩), ("tree", .nested (.array [.null]))]

private def mixedRequest : StoreRequest :=
  freshRequest mixedAttributes

private theorem sized_mixedRequest : ∀ e ∈ mixedRequest.cells.entries, e.2.Sized := by
  have hnested : ∀ a ∈ mixedAttributes, ∀ j, a.2 = .nested j → j = .array [.null] := by
    simp [mixedAttributes]
  intro e he j hj
  obtain ⟨a, ha, _, hvalue⟩ := Column.mem_inferAll he
  have hget := (Dict.get?_eq_some_iff _ a.1 a.2).mpr ha
  obtain rfl := hnested a (Dict.mem_of_get?_ofList hget) j (hvalue ▸ hj)
  exact .inr (by decide)

/-- A text of 256 characters. -/
private def longNote : Column.Cell :=
  ⟨.text 255, .text (String.ofList (List.replicate 256 'x'))⟩

private theorem overlong_longNote : longNote.Overlong := by
  refine ⟨by decide, _, rfl, ?_⟩
  rw [String.length_ofList, List.length_replicate]
  omega

private theorem cells_noteRequest :
    (freshRequest [("note", longNote.value)]).cells.entries = [("eco_note", longNote)] := rfl

theorem store_of_fresh_mixedRequest :
    mixedRequest.columns
        = [⟨"eco_energy", .decimal⟩, ⟨"eco_load", .integer⟩, ⟨"eco_tree", .text 1024⟩,
          ⟨"timestamp", .timestamp⟩] ∧
      (((start Counters.empty).store mixedRequest.destination mixedRequest.sample).run
        Memory.backend Memory.empty).1.1 = .ok () ∧
      let request := freshRequest [("note", longNote.value)]
      ¬accepts longNote.kind (request.datum longNote) ∧
        ∃ error, (((start Counters.empty).store request.destination request.sample).run
            Memory.backend Memory.empty).1.1 = .error error ∧
          Blamed Memory.empty request error := by
  have hshort : ∀ e ∈ mixedRequest.cells.entries, ¬e.2.Overlong := by decide +kernel
  obtain ⟨_, hmixed⟩ := (store_of_fresh mixedRequest).2 (start Counters.empty) Memory.empty
    sized_mixedRequest rfl rfl
  refine ⟨by decide +kernel, (hmixed rfl).mpr hshort, ?_⟩
  intro request
  have hnote : ("eco_note", longNote) ∈ request.cells.entries :=
    cells_noteRequest ▸ List.mem_cons_self
  have hsized : ∀ e ∈ request.cells.entries, e.2.Sized := by
    intro e he j hj
    obtain rfl := List.mem_singleton.mp (cells_noteRequest ▸ he)
    cases hj
  obtain ⟨hvalues, hstore⟩ := store_of_fresh request
  obtain ⟨hblamed, hok⟩ := hstore (start Counters.empty) Memory.empty hsized rfl rfl
  refine ⟨fun htaken => ?_, ?_⟩
  · exact (hvalues _ hnote (hsized _ hnote)).mp htaken overlong_longNote
  · cases hresult : (((start Counters.empty).store request.destination request.sample).run
        Memory.backend Memory.empty).1.1 with
    | ok _ => exact absurd overlong_longNote ((hok rfl).mp hresult _ hnote)
    | error error => exact ⟨error, rfl, hblamed error hresult⟩

end Writer

end PowerTelemetry
