import PowerTelemetry.Proofs.Store.Row
import PowerTelemetry.Store.History
/-!
# Rows fit their columns

A store in memory checks values when rows are inserted, and its tables change
afterwards.  `acts_typed` says that all goes well: after any history each value
of each row is taken by the column of its field.

* `Table.Typed` and `Memory.Typed` are the invariant.  Growing tables keep it,
  since an added column never comes in front of an old one (`addColumns_eq_append`),
  and rows keep it that were admitted (`Typed.append`).
* `Typed.change` and `Typed.act` say so of one step, `Typed.acts` of a history.
* `insert_ok_iff` says when rows are inserted, `tables_insert` what the tables are
  then, and `tables_adapt` what they are when columns were added.
-/

namespace PowerTelemetry.Store

open PowerTelemetry.Sql (Datum)

/-! ## One table -/

namespace Table

variable {t u : Table} {field : String} {value : Datum}

/-- Each field of each row has a column that takes its value. -/
def Typed (t : Table) : Prop :=
  ∀ row ∈ t.rows, ∀ field value, row.get? field = some value → t.Takes field value

theorem Takes.mono (h : t.Takes field value) (htu : t.Grows u) : u.Takes field value := by
  obtain ⟨c, hc, haccepts⟩ := h
  exact ⟨c, htu.column? hc, haccepts⟩

/-- The fields of a row that was admitted are those that it was admitted for. -/
theorem Admits.takes_of_get? {fields : List String} {values : List Datum}
    (h : t.Admits fields values) (hget : (Row.ofValues fields values).get? field = some value) :
    t.Takes field value :=
  h.takes (field, value) (Dict.mem_of_get?_ofList hget)

/-- Any columns are added behind the old ones, and under new names. -/
theorem addColumns_eq_append (t : Table) (columns : List Column) :
    ∃ more, t.addColumns columns = ⟨t.columns ++ more, t.rows⟩ ∧
      ∀ c ∈ more, c ∈ columns ∧ t.column? c.name = none := by
  induction columns generalizing t with
  | nil => exact ⟨[], by simp [addColumns], by simp⟩
  | cons c rest ih =>
    have hstep : t.addColumns (c :: rest) = (t.addColumn c).addColumns rest := rfl
    obtain ⟨more, hmore, hfresh⟩ := ih (t.addColumn c)
    by_cases hthere : (t.column? c.name).isSome
    · rw [addColumn, if_pos hthere] at hmore hfresh
      refine ⟨more, ?_, fun d hd => ?_⟩
      · rw [hstep, addColumn, if_pos hthere, hmore]
      · exact ⟨List.mem_cons_of_mem _ (hfresh d hd).1, (hfresh d hd).2⟩
    · have hnone : t.column? c.name = none := by simpa using hthere
      refine ⟨c :: more, ?_, fun d hd => ?_⟩
      · rw [hstep, hmore, addColumn, if_neg hthere]
        simp
      · rcases List.mem_cons.mp hd with rfl | hd
        · exact ⟨List.mem_cons_self, hnone⟩
        · refine ⟨List.mem_cons_of_mem _ (hfresh d hd).1, ?_⟩
          -- A column would still be there afterwards.
          cases hold : t.column? d.name with
          | none => rfl
          | some e =>
            have hkept := (grows_addColumn t c).column? hold
            rw [(hfresh d hd).2] at hkept
            cases hkept

theorem Typed.addColumns (h : t.Typed) (columns : List Column) :
    (t.addColumns columns).Typed := by
  intro row hrow field value hget
  rw [rows_addColumns] at hrow
  exact (h row hrow field value hget).mono (grows_addColumns t columns)

/-- Rows that were admitted can stand behind those that are there. -/
theorem Typed.append (h : t.Typed) {fields : List String} {rows : List (List Datum)}
    (hrows : ∀ values ∈ rows, t.Admits fields values) :
    Typed ⟨t.columns, t.rows ++ rows.map (Row.ofValues fields)⟩ := by
  have hgrows : t.Grows ⟨t.columns, t.rows ++ rows.map (Row.ofValues fields)⟩ :=
    ⟨List.prefix_refl _, List.prefix_append _ _⟩
  intro row hrow field value hget
  rcases List.mem_append.mp hrow with hold | hnew
  · exact (h row hold field value hget).mono hgrows
  · obtain ⟨values, hvalues, rfl⟩ := List.mem_map.mp hnew
    exact ((hrows values hvalues).takes_of_get? hget).mono hgrows

end Table

/-! ## All tables -/

namespace Memory

variable {m n : Memory}

/-- Each row of each table fits its columns. -/
def Typed (m : Memory) : Prop :=
  ∀ table t, m.tables.get? table = some t → t.Typed

theorem Typed.of_tables_eq (h : m.Typed) (hn : n.tables = m.tables) : n.Typed := by
  intro table t ht
  exact h table t (hn ▸ ht)

theorem Typed.of_insert (h : m.Typed) {table : String} {t : Table} (ht : t.Typed)
    (hn : n.tables = m.tables.insert table t) : n.Typed := by
  intro other u hu
  rw [hn, Dict.get?_insert] at hu
  split at hu
  · obtain rfl : t = u := Option.some.inj hu
    exact ht
  · exact h other u hu

/-- A table without rows can be put anywhere. -/
theorem Typed.of_insert_empty (h : m.Typed) {table : String} {columns : List Column}
    (hn : n.tables = m.tables.insert table ⟨columns, []⟩) : n.Typed := by
  refine h.of_insert ?_ hn
  intro row hrow
  cases hrow

theorem Typed.change (h : m.Typed) (c : Change) : (m.change c).2.Typed := by
  cases c with
  | create table columns =>
    rcases create_cases m table columns with ⟨_, _, _, hn⟩ | ⟨_, _, hn⟩ | ⟨_, _, hn⟩
    · exact h.of_tables_eq hn
    · exact h.of_tables_eq hn
    · exact h.of_insert_empty hn
  | adapt table columns =>
    rcases adapt_cases m table columns with ⟨_, _, _, hn⟩ | ⟨_, _, hn⟩ | ⟨t, ht, _, hn⟩
    · exact h.of_tables_eq hn
    · exact h.of_tables_eq hn
    · exact h.of_insert ((h table t ht).addColumns columns) hn
  | insert table fields rows =>
    rcases insert_cases m table fields rows with
      ⟨_, _, _, hn⟩ | ⟨_, _, hn⟩ | ⟨_, _, _, _, _, hn⟩ | ⟨t, staged, ht, hstaged, _, hn⟩
    · exact h.of_tables_eq hn
    · exact h.of_tables_eq hn
    · exact h.of_tables_eq hn
    · obtain ⟨hrows, rfl⟩ := Table.checkRows_ok_iff.mp hstaged
      exact h.of_insert ((h table t ht).append hrows) hn

theorem Typed.act (h : m.Typed) (a : Act) : (m.act a).Typed := by
  cases a with
  | connect => exact h.of_tables_eq (tables_connect m)
  | change c => exact h.change c
  | putTable table columns => exact h.of_insert_empty rfl
  | _ => exact h.of_tables_eq rfl

theorem Typed.acts (h : m.Typed) (history : List Act) : (m.acts history).Typed := by
  induction history generalizing m with
  | nil => exact h
  | cons a rest ih => exact ih (h.act a)

/-! ## What a call leaves behind -/

/-- Adding columns puts them behind the old ones under new names, or it fails and
nothing has changed. -/
theorem tables_adapt (m : Memory) (table : String) (columns : List Column) :
    match m.adapt table columns with
    | (.error _, n) => n.tables = m.tables
    | (.ok (), n) => ∃ t more, m.tables.get? table = some t ∧
        (∀ c ∈ more, c ∈ columns ∧ t.column? c.name = none) ∧
        n.tables = m.tables.insert table ⟨t.columns ++ more, t.rows⟩ := by
  have hcases := adapt_cases m table columns
  generalize m.adapt table columns = r at hcases
  obtain ⟨answer, n⟩ := r
  rcases hcases with ⟨error, _, hanswer, hn⟩ | ⟨_, hanswer, hn⟩ | ⟨t, ht, hanswer, hn⟩
  · obtain rfl : answer = .error error := hanswer
    exact hn
  · obtain rfl : answer = .error (.schema table noTable) := hanswer
    exact hn
  · obtain rfl : answer = .ok () := hanswer
    obtain ⟨more, hmore, hfresh⟩ := t.addColumns_eq_append columns
    exact ⟨t, more, ht, hfresh, hmore ▸ hn⟩

/-- Inserting rows puts one behind the other, or it fails and nothing has
changed. -/
theorem tables_insert (m : Memory) (table : String) (fields : List String)
    (rows : List (List Datum)) :
    match m.insert table fields rows with
    | (.error _, n) => n.tables = m.tables
    | (.ok (), n) => ∃ t, m.tables.get? table = some t ∧
        n.tables = m.tables.insert table
          ⟨t.columns, t.rows ++ rows.map (Row.ofValues fields)⟩ := by
  have hcases := insert_cases m table fields rows
  generalize m.insert table fields rows = r at hcases
  obtain ⟨answer, n⟩ := r
  rcases hcases with ⟨error, _, hanswer, hn⟩ | ⟨_, hanswer, hn⟩ | ⟨t, reason, _, _, hanswer, hn⟩ |
    ⟨t, staged, ht, hstaged, hanswer, hn⟩
  · obtain rfl : answer = .error error := hanswer
    exact hn
  · obtain rfl : answer = .error (.insert table noTable) := hanswer
    exact hn
  · obtain rfl : answer = .error (.insert table reason) := hanswer
    exact hn
  · obtain rfl : answer = .ok () := hanswer
    obtain ⟨_, rfl⟩ := Table.checkRows_ok_iff.mp hstaged
    exact ⟨t, ht, hn⟩

/-- Rows are inserted if no failure is to come, there is the table, and it admits
every one of them. -/
theorem insert_ok_iff (m : Memory) (table : String) (fields : List String)
    (rows : List (List Datum)) :
    (m.insert table fields rows).1 = .ok () ↔
      m.insertFailures = [] ∧ ∃ t, m.tables.get? table = some t ∧
        ∀ values ∈ rows, t.Admits fields values := by
  rw [insert]
  cases hf : m.insertFailures with
  | cons error rest => simp
  | nil =>
    cases ht : m.tables.get? table with
    | none => simp [insertNow, ht]
    | some t =>
      cases hs : t.checkRows fields rows with
      | ok staged =>
        have hall := (Table.checkRows_ok_iff.mp hs).1
        simpa [insertNow, ht, hs] using hall
      | error reason =>
        have hnot : ¬∀ values ∈ rows, t.Admits fields values := by
          intro hall
          rw [Table.checkRows_ok_iff.mpr ⟨hall, rfl⟩] at hs
          cases hs
        simp [insertNow, ht, hs, hnot]

/-- After any history the rows of all tables fit their columns.  Adding columns
leaves every column and every row as it is.  Inserting rows adds all of them, in
their order and with the values that were given, or none: it fails if a failure is
to come, if there is no table, or if any of the rows is not admitted. -/
theorem acts_typed (history : List Act) :
    let m := Memory.empty.acts history
    (∀ table t, m.tables.get? table = some t → ∀ row ∈ t.rows, ∀ field value,
        row.get? field = some value →
        ∃ c, t.column? field = some c ∧ accepts c.kind value) ∧
      (∀ table columns, match m.adapt table columns with
        | (.error _, n) => n.tables = m.tables
        | (.ok (), n) => ∃ t more, m.tables.get? table = some t ∧
            (∀ c ∈ more, c ∈ columns ∧ t.column? c.name = none) ∧
            n.tables = m.tables.insert table ⟨t.columns ++ more, t.rows⟩) ∧
      ∀ table fields rows, ((m.insert table fields rows).1 = .ok () ↔
          m.insertFailures = [] ∧ ∃ t, m.tables.get? table = some t ∧
            ∀ values ∈ rows, t.Admits fields values) ∧
        match m.insert table fields rows with
        | (.error _, n) => n.tables = m.tables
        | (.ok (), n) => ∃ t, m.tables.get? table = some t ∧
            n.tables = m.tables.insert table
              ⟨t.columns, t.rows ++ rows.map (Row.ofValues fields)⟩ := by
  intro m
  have hempty : Memory.empty.Typed := by
    intro table t ht
    cases ht
  refine ⟨hempty.acts history, tables_adapt m, fun table fields rows => ⟨?_, ?_⟩⟩
  · exact insert_ok_iff m table fields rows
  · exact tables_insert m table fields rows

/-- A table with two columns of one name gets a row that names one field twice,
another column, and no row when an insert fails. -/
private def ledger : List Act :=
  [.change (.create "t" [⟨"a", .integer⟩, ⟨"a", .text 3⟩, ⟨"b", .text 3⟩]),
    .change (.insert "t" ["a", "b", "a"] [[.integer (some 1), .text none, .integer (some 2)]]),
    .change (.adapt "t" [⟨"b", .decimal⟩, ⟨"c", .decimal⟩]),
    .failInsert (.connectionClosed "reset"),
    .change (.insert "t" ["c"] [[.integer (some 3)]]),
    .putTable "u" [⟨"a", .timestamp⟩]]

/-- The second of two rows is too long for its column. -/
private def halfBatch : List (List Datum) :=
  [[.text (some "abc")], [.text (some "abcd")]]

private def wholeBatch : List (List Datum) :=
  [[.integer (some 7)], [.float none]]

theorem acts_typed_ledger :
    let m := Memory.empty.acts ledger
    m.rows "t" = [Dict.ofList [("a", .integer (some 2)), ("b", .text none)]] ∧
      (∃ t c, m.tables.get? "t" = some t ∧ t.column? "a" = some c ∧
        accepts c.kind (.integer (some 2))) ∧
      (m.insert "t" ["b"] halfBatch).1
        = .error (.insert "t" (rejection "b" (.text 3) (.text (some "abcd")))) ∧
      (m.insert "t" ["b"] halfBatch).2.tables = m.tables ∧
      (m.insert "t" ["c"] wholeBatch).1 = .ok () ∧
      ∃ t, m.tables.get? "t" = some t ∧ (m.insert "t" ["c"] wholeBatch).2.tables
        = m.tables.insert "t" ⟨t.columns, t.rows ++ wholeBatch.map (Row.ofValues ["c"])⟩ := by
  obtain ⟨htyped, _, hinsert⟩ := acts_typed ledger
  intro m
  obtain ⟨c, hc, haccepts⟩ := htyped "t" _ rfl _ List.mem_cons_self "a" (.integer (some 2)) rfl
  exact ⟨rfl, ⟨_, c, rfl, hc, haccepts⟩, rfl, (hinsert "t" ["b"] halfBatch).2, rfl,
    (hinsert "t" ["c"] wholeBatch).2⟩

end Memory

end PowerTelemetry.Store
