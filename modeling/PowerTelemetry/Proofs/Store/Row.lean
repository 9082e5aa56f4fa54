import PowerTelemetry.Proofs.Store.Growth
/-!
# Rows that are inserted

What becomes of rows when they are checked against the columns of their table.

* A table takes a value for a field if the field has a column of a fitting kind
  (`Takes`), and it admits values that are as many as the fields and that it takes
  (`Admits`).
* Rows pass exactly if all of them are admitted, and then they are what fields and
  values spell (`stage_ok_iff`, `checkRow_ok_iff`, `checkRows_ok_iff`).
* Otherwise there is a field without a column or with one of the wrong kind
  (`stage_error`).
* The row of a sample is a case of this: `Sql.record`, `checkRows_record_ok` and
  `checkRows_record_error`.
-/

namespace PowerTelemetry

open PowerTelemetry.Sql (Datum)

/-- The row of a sample: the value of each of its columns. -/
def Sql.record (capturedAt : Instant) (cells : Dict Column.Cell) : Store.Row :=
  cells.map fun _ cell => Datum.ofCell capturedAt cell

/-- The fields of a sample and its values are the entries of its row. -/
theorem Sql.zip_fields_row (capturedAt : Instant) (cells : Dict Column.Cell) :
    (Sql.fields cells).zip (Sql.row capturedAt cells) = (Sql.record capturedAt cells).entries := by
  rw [Sql.fields, Sql.row, Sql.record, Dict.names, Dict.values, Dict.map, List.map_map,
    List.zip_map']
  rfl

theorem Sql.length_row (capturedAt : Instant) (cells : Dict Column.Cell) :
    (Sql.row capturedAt cells).length = (Sql.fields cells).length := by
  simp [Sql.row, Sql.fields, Dict.values, Dict.names]

namespace Store

/-! ## The check of a row -/

/-- The row that fields and values spell.  Of a field that is repeated the last
value counts. -/
def Row.ofValues (fields : List String) (values : List Datum) : Row :=
  Dict.ofList (fields.zip values)

namespace Table

/-- A field has a column, and this can hold the value. -/
def Takes (t : Table) (field : String) (value : Datum) : Prop :=
  ∃ c, t.column? field = some c ∧ accepts c.kind value

/-- There is a value for each field, and each is taken. -/
structure Admits (t : Table) (fields : List String) (values : List Datum) : Prop where
  length : values.length = fields.length
  takes : ∀ f ∈ fields.zip values, t.Takes f.1 f.2

/-- Values pass if all of them are taken, and then they are put into the row. -/
theorem stage_ok_iff {t : Table} {l : List (String × Datum)} {row checked : Row} :
    t.stage l row = .ok checked ↔
      (∀ f ∈ l, t.Takes f.1 f.2) ∧ checked = l.foldl (fun d e => d.insert e.1 e.2) row := by
  induction l generalizing row with
  | nil => simp [stage, eq_comm]
  | cons f rest ih =>
    obtain ⟨field, value⟩ := f
    rw [stage, List.forall_mem_cons, Takes]
    cases hc : t.column? field with
    | none => simp
    | some c =>
      cases haccepts : accepts c.kind value with
      | true => simp [haccepts, ih]
      | false => simp [haccepts]

theorem checkRow_ok_iff {t : Table} {fields : List String} {values : List Datum} {row : Row} :
    t.checkRow fields values = .ok row ↔
      t.Admits fields values ∧ row = Row.ofValues fields values := by
  by_cases hlength : values.length = fields.length
  · rw [checkRow, if_neg (not_not_intro hlength), stage_ok_iff]
    constructor
    · rintro ⟨htakes, hrow⟩
      exact ⟨⟨hlength, htakes⟩, hrow⟩
    · rintro ⟨hadmits, hrow⟩
      exact ⟨hadmits.takes, hrow⟩
  · rw [checkRow, if_pos hlength]
    constructor
    · intro h
      cases h
    · rintro ⟨hadmits, _⟩
      exact absurd hadmits.length hlength

/-- Rows pass all together or not at all. -/
theorem checkRows_ok_iff {t : Table} {fields : List String} {rows : List (List Datum)}
    {staged : List Row} :
    t.checkRows fields rows = .ok staged ↔
      (∀ values ∈ rows, t.Admits fields values) ∧ staged = rows.map (Row.ofValues fields) := by
  induction rows generalizing staged with
  | nil => simp [checkRows, eq_comm]
  | cons values rest ih =>
    rw [checkRows, List.forall_mem_cons]
    cases hrow : t.checkRow fields values with
    | error reason =>
      have hnot : ¬t.Admits fields values := by
        intro hadmits
        rw [checkRow_ok_iff.mpr ⟨hadmits, rfl⟩] at hrow
        cases hrow
      simp [hnot]
    | ok row =>
      obtain ⟨hadmits, rfl⟩ := checkRow_ok_iff.mp hrow
      cases hrest : t.checkRows fields rest with
      | error reason =>
        have hnot : ¬∀ values ∈ rest, t.Admits fields values := by
          intro hall
          rw [ih.mpr ⟨hall, rfl⟩] at hrest
          cases hrest
        simp [hnot]
      | ok later =>
        obtain ⟨hall, rfl⟩ := ih.mp hrest
        simp only [hadmits, true_and, List.map_cons, Except.ok.injEq]
        exact ⟨fun h => ⟨hall, h.symm⟩, fun h => h.2.symm⟩

/-- A row that fails has a field without a column, or a value that its column
does not take. -/
theorem stage_error {t : Table} {l : List (String × Datum)} {row : Row} {reason : String}
    (h : t.stage l row = .error reason) :
    (∃ f ∈ l, t.column? f.1 = none ∧ reason = noColumn f.1) ∨
      ∃ f ∈ l, ∃ c, t.column? f.1 = some c ∧ accepts c.kind f.2 = false ∧
        reason = rejection f.1 c.kind f.2 := by
  induction l generalizing row with
  | nil => simp [stage] at h
  | cons f rest ih =>
    obtain ⟨field, value⟩ := f
    rw [stage] at h
    split at h
    · rename_i hnone
      exact .inl ⟨(field, value), List.mem_cons_self, hnone, (Except.error.inj h).symm⟩
    · rename_i c hsome
      split at h
      · rcases ih h with ⟨f, hf, hreason⟩ | ⟨f, hf, hreason⟩
        · exact .inl ⟨f, List.mem_cons_of_mem _ hf, hreason⟩
        · exact .inr ⟨f, List.mem_cons_of_mem _ hf, hreason⟩
      · rename_i hrejects
        exact .inr ⟨(field, value), List.mem_cons_self, c, hsome, by simpa using hrejects,
          (Except.error.inj h).symm⟩

/-- The one row of a sample that passes is its record. -/
theorem checkRows_record_ok {t : Table} {capturedAt : Instant} {cells : Dict Column.Cell}
    {staged : List Row}
    (h : t.checkRows (Sql.fields cells) [Sql.row capturedAt cells] = .ok staged) :
    staged = [Sql.record capturedAt cells] := by
  have hrecord : Row.ofValues (Sql.fields cells) (Sql.row capturedAt cells)
      = Sql.record capturedAt cells := by
    rw [Row.ofValues, Sql.zip_fields_row, Dict.ofList_entries]
  rw [(checkRows_ok_iff.mp h).2, List.map_singleton, hrecord]

/-- The one row of a sample fails as a row does whose length is right. -/
theorem checkRows_record_error {t : Table} {capturedAt : Instant} {cells : Dict Column.Cell}
    {reason : String}
    (h : t.checkRows (Sql.fields cells) [Sql.row capturedAt cells] = .error reason) :
    t.stage (Sql.record capturedAt cells).entries Dict.empty = .error reason := by
  rw [checkRows, checkRow, if_neg (by simp [Sql.length_row]), Sql.zip_fields_row] at h
  split at h
  · rename_i reason' hstage
    rw [hstage, Except.error.inj h]
  · cases h

end Table

end Store

end PowerTelemetry
