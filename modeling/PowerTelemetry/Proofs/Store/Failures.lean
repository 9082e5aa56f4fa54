import PowerTelemetry.Store.Exchange
/-!
# What a failure says of the connection

The report with which a statement ends is made into the error of its operation,
and only the error is seen by those who called.

* `StoreError.Shows` says that an error tells as much of the connection as the
  report, and `Operation.shows_failure` that every error of an operation does.
* `Work.GivesUp` is work through one handle that ends with the first error, unless
  this says that a table is there already.  Such work composes
  (`Work.GivesUp.bind`), and on any server its exchanges tell the error that it
  ends with (`Work.GivesUp.run`).
-/

namespace PowerTelemetry

/-! ## Reports and errors -/

namespace StoreError

/-- An error that tells as much of the connection as a report. -/
structure Shows (error : StoreError) (report : DatabaseError) : Prop where
  /-- The table is there already. -/
  duplicate : ∀ text, report = .statement (some duplicateTable) text → error = .alreadyExists text
  /-- Any other report says that the connection is gone if the error does. -/
  closing : report.code? ≠ some duplicateTable →
    (error.isConnectionClosed ↔ (database report).isConnectionClosed)

variable {report : DatabaseError}

theorem classify_of_duplicate (text : String) :
    classify (.statement (some duplicateTable) text) = .alreadyExists text := by
  simp [classify]

theorem classify_of_other (h : report.code? ≠ some duplicateTable) :
    classify report = classify.closedOr report := by
  cases report with
  | statement code text =>
    cases code with
    | none => rfl
    | some code => exact if_neg fun hcode => h (congrArg some hcode)
  | _ => rfl

theorem classify_of_closed (h : report.code? ≠ some duplicateTable)
    (hclosed : report.isConnectionClosed = true) :
    classify report = connectionClosed (database report).message := by
  rw [classify_of_other h, classify.closedOr, if_pos hclosed]

theorem classify_of_open (h : report.code? ≠ some duplicateTable)
    (hopen : report.isConnectionClosed = false) : classify report = database report := by
  rw [classify_of_other h, classify.closedOr, if_neg (by simp [hopen])]

end StoreError

namespace Store

namespace Operation

variable {report : DatabaseError}

theorem failure_of_duplicate (operation : Operation) (text : String) :
    operation.failure (.statement (some StoreError.duplicateTable) text)
      = .alreadyExists text := by
  have hclassify := StoreError.classify_of_duplicate text
  cases operation with
  | columns table => exact hclassify
  | change c =>
    cases c <;>
      simp only [failure, Change.failure, StoreError.ofSchemaChange, StoreError.ofInsert, hclassify]

/-- A connection that is gone is what the error says whatever the operation. -/
theorem failure_of_closed (operation : Operation)
    (h : report.code? ≠ some StoreError.duplicateTable) (hclosed : report.isConnectionClosed = true) :
    operation.failure report = .connectionClosed (StoreError.database report).message := by
  have hclassify := StoreError.classify_of_closed h hclosed
  cases operation with
  | columns table => exact hclassify
  | change c =>
    cases c <;>
      simp only [failure, Change.failure, StoreError.ofSchemaChange, StoreError.ofInsert, hclassify]

/-- Else the error is the report itself, or the operation's own. -/
theorem failure_of_open (operation : Operation)
    (h : report.code? ≠ some StoreError.duplicateTable) (hopen : report.isConnectionClosed = false) :
    operation.failure report = .database report ∨
      (∃ table, operation.failure report = .schema table report.message) ∨
      ∃ table, operation.failure report = .insert table report.message := by
  have hclassify := StoreError.classify_of_open h hopen
  cases operation with
  | columns table => exact .inl hclassify
  | change c =>
    cases c <;>
      simp [failure, Change.failure, StoreError.ofSchemaChange, StoreError.ofInsert, hclassify]

theorem isConnectionClosed_failure (operation : Operation)
    (h : report.code? ≠ some StoreError.duplicateTable) :
    (operation.failure report).isConnectionClosed = report.isConnectionClosed := by
  cases hreport : report.isConnectionClosed with
  | true =>
    rw [operation.failure_of_closed h hreport]
    rfl
  | false =>
    rcases operation.failure_of_open h hreport with he | ⟨table, he⟩ | ⟨table, he⟩ <;> rw [he]
    · exact hreport
    · rfl
    · rfl

/-- Every error of an operation tells as much of the connection as the report. -/
theorem shows_failure (operation : Operation) (report : DatabaseError) :
    (operation.failure report).Shows report where
  duplicate text h := h ▸ operation.failure_of_duplicate text
  closing h := iff_of_eq (congrArg (· = true) (operation.isConnectionClosed_failure h))

theorem failure_ne_alreadyExists (operation : Operation)
    (h : report.code? ≠ some StoreError.duplicateTable) (table : String) :
    operation.failure report ≠ .alreadyExists table := by
  cases hreport : report.isConnectionClosed with
  | true => simp [operation.failure_of_closed h hreport]
  | false =>
    rcases operation.failure_of_open h hreport with he | ⟨table, he⟩ | ⟨table, he⟩ <;> simp [he]

end Operation

/-! ## Work that gives up -/

namespace Work

variable {α β γ σ : Type}

/-- An error other than that a table is there already is the end, and `failed` holds of the result
and the error. -/
def StopsAt (failed : α → StoreError → Prop) (next : Except StoreError γ → Work α) : Prop :=
  ∀ error, (∀ table, error ≠ .alreadyExists table) →
    ∃ a, next (.error error) = done a ∧ failed a error

/-- The work neither connects nor closes, all its calls go through one handle, and the first error
that is more than that a table is there already stops it.  At its end `post` holds of the
result. -/
def GivesUp (handle : Handle) (post : α → Prop) (failed : α → StoreError → Prop) : Work α → Prop
  | done a => post a
  | connect _ => False
  | close _ _ => False
  | change h _ next =>
    h = handle ∧ (∀ answer, (next answer).GivesUp handle post failed) ∧ StopsAt failed next
  | columns h _ next =>
    h = handle ∧ (∀ answer, (next answer).GivesUp handle post failed) ∧ StopsAt failed next

variable {handle : Handle} {post : α → Prop} {failed : α → StoreError → Prop}

theorem StopsAt.bind {failed' : β → StoreError → Prop} {next : Except StoreError γ → Work α}
    {f : α → Work β} (h : StopsAt failed next)
    (hfailed : ∀ a error, failed a error → ∃ b, f a = done b ∧ failed' b error) :
    StopsAt failed' fun answer => (next answer).bind f := by
  intro error herror
  obtain ⟨a, hdone, ha⟩ := h error herror
  obtain ⟨b, hb, hb'⟩ := hfailed a error ha
  exact ⟨b, (congrArg (·.bind f) hdone).trans hb, hb'⟩

theorem StopsAt.run {next : Except StoreError γ → Work α} (h : StopsAt failed next)
    (backend : Backend σ) (s : σ) {answer : Except StoreError γ} {error : StoreError}
    (hanswer : answer = .error error) (herror : ∀ table, error ≠ .alreadyExists table) :
    failed ((next answer).run backend s).1 error := by
  obtain ⟨a, hdone, ha⟩ := h error herror
  rwa [hanswer, hdone]

/-- Work goes on after work that gives up, if it returns at once when that has failed. -/
theorem GivesUp.bind {post' : β → Prop} {failed' : β → StoreError → Prop} {work : Work α}
    {f : α → Work β} (h : work.GivesUp handle post failed)
    (hf : ∀ a, post a → (f a).GivesUp handle post' failed')
    (hfailed : ∀ a error, failed a error → ∃ b, f a = done b ∧ failed' b error) :
    (work >>= f).GivesUp handle post' failed' := by
  change (work.bind f).GivesUp handle post' failed'
  induction work with
  | done a => exact hf a h
  | connect next ih => exact h.elim
  | close handle next ih => exact h.elim
  | change h' c next ih =>
    obtain ⟨hhandle, hnext, hstops⟩ := h
    exact ⟨hhandle, fun answer => ih answer (hnext answer), hstops.bind hfailed⟩
  | columns h' table next ih =>
    obtain ⟨hhandle, hnext, hstops⟩ := h
    exact ⟨hhandle, fun answer => ih answer (hnext answer), hstops.bind hfailed⟩

/-- Exchanges through one handle, where `failed` holds of each error that is more than that a table
is there already. -/
structure Exchanged (handle : Handle) (failed : StoreError → Prop) (exchanges : List Exchange) :
    Prop where
  through : ∀ x ∈ exchanges, ∃ operation report, x = .performed handle operation report
  failed : ∀ operation report, .performed handle operation (some report) ∈ exchanges →
    report.code? ≠ some StoreError.duplicateTable → failed (operation.failure report)

/-- One exchange more, in front. -/
theorem Exchanged.cons {failed : StoreError → Prop} {exchanges : List Exchange}
    (h : Exchanged handle failed exchanges) {operation : Operation} {report : Option DatabaseError}
    (hreport : ∀ r, report = some r → r.code? ≠ some StoreError.duplicateTable →
      failed (operation.failure r)) :
    Exchanged handle failed (.performed handle operation report :: exchanges) where
  through x hx := by
    rcases List.mem_cons.mp hx with rfl | hx
    · exact ⟨operation, report, rfl⟩
    · exact h.through x hx
  failed operation' r hr hcode := by
    rcases List.mem_cons.mp hr with heq | hr
    · obtain ⟨-, rfl, hsome⟩ := Exchange.performed.inj heq
      exact hreport r hsome.symm hcode
    · exact h.failed operation' r hr hcode

/-- On any server, work that gives up ends with the errors that its exchanges tell. -/
theorem GivesUp.run {work : Work α} (h : work.GivesUp handle post failed) (server : Server σ)
    (s : σ) (exchanges : List Exchange) :
    post (work.run server.observed (s, exchanges)).1 ∧
      ∃ more, (work.run server.observed (s, exchanges)).2.2 = exchanges ++ more ∧
        Exchanged handle (failed (work.run server.observed (s, exchanges)).1) more := by
  induction work generalizing s exchanges with
  | done a => exact ⟨h, [], (List.append_nil _).symm, by simp, by simp⟩
  | connect next ih => exact h.elim
  | close handle next ih => exact h.elim
  | change h' c next ih =>
    obtain ⟨rfl, hnext, hstops⟩ := h
    obtain ⟨hpost, more, hmore, hexchanged⟩ := ih _ (hnext (server.backend.change h' c s).1)
      (server.backend.change h' c s).2
      (exchanges ++ [.performed h' (.change c) (server.report? h' (.change c) s)])
    refine ⟨hpost, _, hmore.trans (List.append_assoc _ _ _),
      hexchanged.cons fun r hr hcode => ?_⟩
    -- with this report, the answer is an error at which the work stops
    exact hstops.run _ _ (Server.change_of_report hr)
      ((Operation.change c).failure_ne_alreadyExists hcode)
  | columns h' table next ih =>
    obtain ⟨rfl, hnext, hstops⟩ := h
    obtain ⟨hpost, more, hmore, hexchanged⟩ := ih _ (hnext (server.backend.columns h' table s).1)
      (server.backend.columns h' table s).2
      (exchanges ++ [.performed h' (.columns table) (server.report? h' (.columns table) s)])
    refine ⟨hpost, _, hmore.trans (List.append_assoc _ _ _),
      hexchanged.cons fun r hr hcode => ?_⟩
    exact hstops.run _ _ (Server.columns_of_report hr)
      ((Operation.columns table).failure_ne_alreadyExists hcode)

end Work

end Store

end PowerTelemetry
