import PowerTelemetry.Store.Disturbance
/-!
# Tables only grow

No call of a store in memory, and nothing that others do to it, takes a column
or a row away.  `Table.Grows` says this of one table and `Memory.Grows` of a
store: a table stays, its old columns and its old rows stay in front.

There are three groups.

* Growth of tables, and what added columns are good for (`isSome_column?_addColumns`).
* The cases of each call: a failure to come stops it (`schemaFailures`,
  `insertFailures`), or else it does what `createNow`, `adaptNow` and
  `insertNow` do.  `create_cases`, `adapt_cases` and `insert_cases` list them.
* What all calls keep: `grows_step` and `grows_disturb`.  For the failures to come
  `FewerFailures` says that calls use them up at most (`fewerFailures_run`).
-/

namespace PowerTelemetry.Store

open PowerTelemetry.Sql (Datum)

/-! ## Tables -/

/-- A table that has the columns and rows of another one in front. -/
structure Table.Grows (t u : Table) : Prop where
  columns : t.columns <+: u.columns
  rows : t.rows <+: u.rows

namespace Table

theorem Grows.refl (t : Table) : t.Grows t :=
  ⟨List.prefix_refl _, List.prefix_refl _⟩

theorem Grows.trans {t u v : Table} (h : t.Grows u) (h' : u.Grows v) : t.Grows v :=
  ⟨h.columns.trans h'.columns, h.rows.trans h'.rows⟩

/-- A column stays in a table that grows. -/
theorem Grows.column? {t u : Table} (h : t.Grows u) {name : String} {c : Column}
    (hc : t.column? name = some c) : u.column? name = some c :=
  h.columns.find?_eq_some hc

/-- A name with a column keeps having one. -/
theorem Grows.isSome_column? {t u : Table} (h : t.Grows u) {name : String}
    (hn : (t.column? name).isSome) : (u.column? name).isSome := by
  obtain ⟨c, hc⟩ := Option.isSome_iff_exists.mp hn
  rw [h.column? hc]
  rfl

/-- A column that is found under a name has that name. -/
theorem name_of_column? {t : Table} {name : String} {c : Column} (h : t.column? name = some c) :
    c.name = name := by
  simpa using List.find?_some h

/-- The name of a column has a column. -/
theorem isSome_column?_of_mem {t : Table} {c : Column} (h : c ∈ t.columns) :
    (t.column? c.name).isSome :=
  List.find?_isSome.mpr ⟨c, h, by simp⟩

theorem grows_addColumn (t : Table) (c : Column) : t.Grows (t.addColumn c) := by
  rw [addColumn]
  split
  · exact Grows.refl t
  · exact ⟨List.prefix_append _ _, List.prefix_refl _⟩

theorem rows_addColumn (t : Table) (c : Column) : (t.addColumn c).rows = t.rows := by
  rw [addColumn]
  split <;> rfl

theorem isSome_column?_addColumn (t : Table) (c : Column) :
    ((t.addColumn c).column? c.name).isSome := by
  rw [addColumn]
  split
  · assumption
  · exact isSome_column?_of_mem (by simp)

theorem grows_addColumns (t : Table) (columns : List Column) : t.Grows (t.addColumns columns) := by
  rw [addColumns]
  induction columns generalizing t with
  | nil => exact Grows.refl t
  | cons c rest ih => exact (grows_addColumn t c).trans (ih (t.addColumn c))

theorem rows_addColumns (t : Table) (columns : List Column) :
    (t.addColumns columns).rows = t.rows := by
  rw [addColumns]
  induction columns generalizing t with
  | nil => rfl
  | cons c rest ih => rw [List.foldl_cons, ih, rows_addColumn]

/-- Every added column is there afterwards, under its name. -/
theorem isSome_column?_addColumns (t : Table) {columns : List Column} {c : Column}
    (h : c ∈ columns) : ((t.addColumns columns).column? c.name).isSome := by
  induction columns generalizing t with
  | nil => simp at h
  | cons d rest ih =>
    rcases List.mem_cons.mp h with rfl | h
    · exact (grows_addColumns _ rest).isSome_column? (isSome_column?_addColumn t c)
    · exact ih (t.addColumn d) h

end Table

/-! ## Stores -/

namespace Memory

/-- The rows of a table; none if there is no table. -/
def rows (m : Memory) (table : String) : List Row :=
  match m.tables.get? table with
  | some t => t.rows
  | none => []

/-- A store that has the tables of another one, each of them grown. -/
def Grows (m n : Memory) : Prop :=
  ∀ name t, m.tables.get? name = some t → ∃ u, n.tables.get? name = some u ∧ t.Grows u

theorem Grows.refl (m : Memory) : m.Grows m :=
  fun _ t h => ⟨t, h, Table.Grows.refl t⟩

theorem Grows.trans {m n o : Memory} (h : m.Grows n) (h' : n.Grows o) : m.Grows o := by
  intro name t ht
  obtain ⟨u, hu, htu⟩ := h name t ht
  obtain ⟨v, hv, huv⟩ := h' name u hu
  exact ⟨v, hv, htu.trans huv⟩

theorem Grows.of_tables_eq {m n : Memory} (h : n.tables = m.tables) : m.Grows n := by
  intro name t ht
  exact ⟨t, by rw [h, ht], Table.Grows.refl t⟩

/-- A table stays in a store that grows. -/
theorem Grows.contains {m n : Memory} (h : m.Grows n) {name : String}
    (hn : m.tables.contains name) : n.tables.contains name := by
  rw [Dict.contains_eq_isSome] at hn ⊢
  obtain ⟨t, ht⟩ := Option.isSome_iff_exists.mp hn
  obtain ⟨u, hu, _⟩ := h name t ht
  rw [hu]
  rfl

/-- A table put under a new name lets the store grow. -/
theorem Grows.of_insert_new {m n : Memory} {name : String} {t : Table}
    (hnew : m.tables.contains name = false) (h : n.tables = m.tables.insert name t) :
    m.Grows n := by
  intro other u hu
  have hne : name ≠ other := by
    rintro rfl
    rw [Dict.contains_eq_isSome, hu] at hnew
    simp at hnew
  exact ⟨u, by rw [h, Dict.get?_insert_of_ne _ _ hne, hu], Table.Grows.refl u⟩

/-- A table put in the place of one that it has grown from lets the store
grow. -/
theorem Grows.of_insert {m n : Memory} {name : String} {t u : Table}
    (ht : m.tables.get? name = some t) (htu : t.Grows u)
    (h : n.tables = m.tables.insert name u) : m.Grows n := by
  intro other v hv
  by_cases hne : name = other
  · subst hne
    obtain rfl : t = v := Option.some.inj (ht.symm.trans hv)
    exact ⟨u, by rw [h, Dict.get?_insert_self], htu⟩
  · exact ⟨v, by rw [h, Dict.get?_insert_of_ne _ _ hne, hv], Table.Grows.refl v⟩

/-! ## The cases of a call -/

/-- What a connect answers. -/
theorem connect_cases (m : Memory) :
    (∃ error ∈ m.connectFailures, m.connect.1 = .error error) ∨
      ∃ handle, m.connect.1 = .ok handle := by
  rw [connect]
  cases hf : m.connectFailures with
  | cons error rest => exact .inl ⟨error, by simp, rfl⟩
  | nil => exact .inr ⟨_, rfl⟩

/-- What a call that creates a table does. -/
theorem create_cases (m : Memory) (table : String) (columns : List Column) :
    (∃ error ∈ m.schemaFailures, (m.create table columns).1 = .error error ∧
        (m.create table columns).2.tables = m.tables) ∨
      (m.tables.contains table ∧
        (m.create table columns).1 = .error (.alreadyExists table) ∧
        (m.create table columns).2.tables = m.tables) ∨
      (m.tables.contains table = false ∧ (m.create table columns).1 = .ok () ∧
        (m.create table columns).2.tables = m.tables.insert table ⟨columns, []⟩) := by
  rw [create]
  cases hf : m.schemaFailures with
  | cons error rest => exact .inl ⟨error, by simp, rfl, rfl⟩
  | nil =>
    refine .inr ?_
    cases hc : m.tables.contains table with
    | true => exact .inl (by simp [createNow, hc])
    | false => exact .inr (by simp [createNow, putTable, hc])

/-- What a call that adds columns does. -/
theorem adapt_cases (m : Memory) (table : String) (columns : List Column) :
    (∃ error ∈ m.schemaFailures, (m.adapt table columns).1 = .error error ∧
        (m.adapt table columns).2.tables = m.tables) ∨
      (m.tables.get? table = none ∧
        (m.adapt table columns).1 = .error (.schema table noTable) ∧
        (m.adapt table columns).2.tables = m.tables) ∨
      (∃ t, m.tables.get? table = some t ∧ (m.adapt table columns).1 = .ok () ∧
        (m.adapt table columns).2.tables = m.tables.insert table (t.addColumns columns)) := by
  rw [adapt]
  cases hf : m.schemaFailures with
  | cons error rest => exact .inl ⟨error, by simp, rfl, rfl⟩
  | nil =>
    refine .inr ?_
    cases ht : m.tables.get? table with
    | none => exact .inl (by simp [adaptNow, ht])
    | some t => exact .inr ⟨t, by simp [adaptNow, ht]⟩

/-- What a call that inserts rows does. -/
theorem insert_cases (m : Memory) (table : String) (fields : List String)
    (rows : List (List Datum)) :
    (∃ error ∈ m.insertFailures, (m.insert table fields rows).1 = .error error ∧
        (m.insert table fields rows).2.tables = m.tables) ∨
      (m.tables.get? table = none ∧
        (m.insert table fields rows).1 = .error (.insert table noTable) ∧
        (m.insert table fields rows).2.tables = m.tables) ∨
      (∃ t reason, m.tables.get? table = some t ∧ t.checkRows fields rows = .error reason ∧
        (m.insert table fields rows).1 = .error (.insert table reason) ∧
        (m.insert table fields rows).2.tables = m.tables) ∨
      (∃ t staged, m.tables.get? table = some t ∧ t.checkRows fields rows = .ok staged ∧
        (m.insert table fields rows).1 = .ok () ∧
        (m.insert table fields rows).2.tables
          = m.tables.insert table ⟨t.columns, t.rows ++ staged⟩) := by
  rw [insert]
  cases hf : m.insertFailures with
  | cons error rest => exact .inl ⟨error, by simp, rfl, rfl⟩
  | nil =>
    refine .inr ?_
    cases ht : m.tables.get? table with
    | none => exact .inl (by simp [insertNow, ht])
    | some t =>
      refine .inr ?_
      cases hs : t.checkRows fields rows with
      | error reason => exact .inl ⟨t, reason, rfl, hs, by simp [insertNow, ht, hs]⟩
      | ok staged => exact .inr ⟨t, staged, rfl, hs, by simp [insertNow, ht, hs]⟩

/-! ## What all calls keep -/

theorem tables_connect (m : Memory) : m.connect.2.tables = m.tables := by
  rw [connect]
  split <;> rfl

theorem tables_close (m : Memory) : m.close.tables = m.tables := rfl

/-- A call that changes a table lets the store grow. -/
theorem grows_change (m : Memory) (c : Change) : m.Grows (m.change c).2 := by
  cases c with
  | create table columns =>
    rcases create_cases m table columns with ⟨_, _, _, h⟩ | ⟨_, _, h⟩ | ⟨hnew, _, h⟩
    · exact Grows.of_tables_eq h
    · exact Grows.of_tables_eq h
    · exact Grows.of_insert_new hnew h
  | adapt table columns =>
    rcases adapt_cases m table columns with ⟨_, _, _, h⟩ | ⟨_, _, h⟩ | ⟨t, ht, _, h⟩
    · exact Grows.of_tables_eq h
    · exact Grows.of_tables_eq h
    · exact Grows.of_insert ht (t.grows_addColumns columns) h
  | insert table fields rows =>
    rcases insert_cases m table fields rows with
      ⟨_, _, _, h⟩ | ⟨_, _, h⟩ | ⟨_, _, _, _, _, h⟩ | ⟨t, staged, ht, _, _, h⟩
    · exact Grows.of_tables_eq h
    · exact Grows.of_tables_eq h
    · exact Grows.of_tables_eq h
    · refine Grows.of_insert (u := ⟨t.columns, t.rows ++ staged⟩) ht ?_ h
      exact ⟨List.prefix_refl _, List.prefix_append _ _⟩

/-- What others do lets the store grow. -/
theorem grows_disturb {m n : Memory} {d : Disturbance} (h : m.disturb d = some n) : m.Grows n := by
  cases d with
  | newTable table columns =>
    obtain ⟨hnew, rfl⟩ := by simpa [disturb] using h
    exact Grows.of_insert_new hnew rfl
  | _ =>
    obtain rfl := by simpa [disturb] using h
    exact Grows.of_tables_eq rfl

/-- A step of a computation lets the store grow. -/
theorem grows_step {α : Type} (work : Work α) (m : Memory) :
    m.Grows (work.step backend m).2 := by
  cases work with
  | done _ => exact Grows.refl m
  | connect _ => exact Grows.of_tables_eq (tables_connect m)
  | close _ _ => exact Grows.of_tables_eq (tables_close m)
  | change _ c _ => exact grows_change m c
  | columns _ _ _ => exact Grows.refl m

/-! ## The failures to come -/

/-- A call that a failure did not stop changes nothing but the tables. -/
theorem createNow_only_tables (m : Memory) (table : String) (columns : List Column) :
    ∃ tables, (m.createNow table columns).2 = { m with tables := tables } := by
  rw [createNow]
  split
  · exact ⟨m.tables, rfl⟩
  · exact ⟨_, rfl⟩

theorem adaptNow_only_tables (m : Memory) (table : String) (columns : List Column) :
    ∃ tables, (m.adaptNow table columns).2 = { m with tables := tables } := by
  rw [adaptNow]
  split
  · exact ⟨m.tables, rfl⟩
  · exact ⟨_, rfl⟩

theorem insertNow_only_tables (m : Memory) (table : String) (fields : List String)
    (rows : List (List Datum)) :
    ∃ tables, (m.insertNow table fields rows).2 = { m with tables := tables } := by
  rw [insertNow]
  split
  · exact ⟨m.tables, rfl⟩
  · split
    · exact ⟨m.tables, rfl⟩
    · exact ⟨_, rfl⟩

/-- A store whose failures to come are among those of another one, for each kind
of call. -/
structure FewerFailures (m n : Memory) : Prop where
  connects : n.connectFailures ⊆ m.connectFailures
  schema : n.schemaFailures ⊆ m.schemaFailures
  inserts : n.insertFailures ⊆ m.insertFailures

theorem FewerFailures.refl (m : Memory) : m.FewerFailures m :=
  ⟨List.Subset.refl _, List.Subset.refl _, List.Subset.refl _⟩

theorem FewerFailures.trans {m n o : Memory} (h : m.FewerFailures n) (h' : n.FewerFailures o) :
    m.FewerFailures o where
  connects := List.Subset.trans h'.connects h.connects
  schema := List.Subset.trans h'.schema h.schema
  inserts := List.Subset.trans h'.inserts h.inserts

theorem FewerFailures.pending {m n : Memory} (h : m.FewerFailures n) : n.pending ⊆ m.pending := by
  intro error herror
  simp only [Memory.pending, List.mem_append] at herror ⊢
  rcases herror with (hc | hs) | hi
  · exact .inl (.inl (h.connects hc))
  · exact .inl (.inr (h.schema hs))
  · exact .inr (h.inserts hi)

/-- A call that changes a table uses up failures at most. -/
theorem fewerFailures_change (m : Memory) (c : Change) : m.FewerFailures (m.change c).2 := by
  cases c with
  | create table columns =>
    rw [change, create]
    cases hf : m.schemaFailures with
    | cons error rest => constructor <;> simp [hf]
    | nil =>
      obtain ⟨tables, h⟩ := createNow_only_tables
        { m with calls.creates := m.calls.creates + 1, schemaFailures := [] } table columns
      constructor <;> simp [h]
  | adapt table columns =>
    rw [change, adapt]
    cases hf : m.schemaFailures with
    | cons error rest => constructor <;> simp [hf]
    | nil =>
      obtain ⟨tables, h⟩ := adaptNow_only_tables
        { m with calls.adapts := m.calls.adapts + 1, schemaFailures := [] } table columns
      constructor <;> simp [h]
  | insert table fields rows =>
    rw [change, insert]
    cases hf : m.insertFailures with
    | cons error rest => constructor <;> simp [hf]
    | nil =>
      obtain ⟨tables, h⟩ := insertNow_only_tables
        { m with calls.inserts := m.calls.inserts + 1, insertFailures := [] } table fields rows
      constructor <;> simp [h]

/-- A connect uses up a failure at most. -/
theorem fewerFailures_connect (m : Memory) : m.FewerFailures m.connect.2 := by
  rw [connect]
  cases hf : m.connectFailures with
  | cons error rest => constructor <;> simp [hf]
  | nil => constructor <;> simp [hf]

theorem fewerFailures_close (m : Memory) : m.FewerFailures m.close :=
  ⟨List.Subset.refl _, List.Subset.refl _, List.Subset.refl _⟩

/-- A run of a computation uses up failures at most. -/
theorem fewerFailures_run {α : Type} (work : Work α) (m : Memory) :
    m.FewerFailures (work.run backend m).2 := by
  induction work generalizing m with
  | done _ => exact FewerFailures.refl m
  | connect _ ih => exact (fewerFailures_connect m).trans (ih _ _)
  | close _ _ ih => exact (fewerFailures_close m).trans (ih _ _)
  | change _ c _ ih => exact (fewerFailures_change m c).trans (ih _ _)
  | columns _ _ _ ih => exact ih _ _

/-- A step of a computation uses up failures at most. -/
theorem pending_step {α : Type} (work : Work α) (m : Memory) :
    (work.step backend m).2.pending ⊆ m.pending := by
  cases work with
  | connect _ => exact (fewerFailures_connect m).pending
  | change _ c _ => exact (fewerFailures_change m c).pending
  | _ => exact List.Subset.refl _

/-- A run of a computation ends with failures to come that were there before. -/
theorem pending_run {α : Type} (work : Work α) (m : Memory) :
    (work.run backend m).2.pending ⊆ m.pending :=
  (fewerFailures_run work m).pending

/-- What others do adds the failure that they arrange at most. -/
theorem pending_disturb {m n : Memory} {d : Disturbance} (h : m.disturb d = some n) :
    n.pending ⊆ m.pending ++ d.failure?.toList := by
  cases d with
  | newTable table columns =>
    obtain ⟨_, rfl⟩ := by simpa [disturb] using h
    exact List.subset_append_left _ _
  | _ error =>
    obtain rfl := by simpa [disturb] using h
    intro e he
    simp only [pending, failConnect, failSchemaChange, failInsert, Disturbance.failure?,
      List.mem_append, Option.mem_toList, List.mem_singleton] at he ⊢
    grind

/-! ## The rows of a table -/

theorem rows_of_tables_eq {m n : Memory} (h : n.tables = m.tables) (table : String) :
    n.rows table = m.rows table := by
  rw [rows, rows, h]

/-- A table put under a new name has no rows before and those it comes with
afterwards. -/
theorem rows_of_insert {m n : Memory} {name : String} {t : Table}
    (h : n.tables = m.tables.insert name t) (table : String) :
    n.rows table = if name = table then t.rows else m.rows table := by
  rw [rows, rows, h, Dict.get?_insert]
  by_cases hne : name = table <;> simp [hne]

theorem rows_of_get? {m : Memory} {table : String} {t : Table}
    (h : m.tables.get? table = some t) : m.rows table = t.rows := by
  rw [rows, h]

theorem rows_of_not_contains {m : Memory} {table : String}
    (h : m.tables.contains table = false) : m.rows table = [] := by
  rw [Dict.contains_eq_isSome, Option.isSome_eq_false_iff, Option.isNone_iff_eq_none] at h
  rw [rows, h]

/-- A name that is taken has a table. -/
theorem exists_table_of_contains {m : Memory} {table : String} (h : m.tables.contains table) :
    ∃ t, m.tables.get? table = some t := by
  rwa [Dict.contains_eq_isSome, Option.isSome_iff_exists] at h

/-- A new table has no rows, and none had it before. -/
theorem rows_create (m : Memory) (table : String) (columns : List Column) (other : String) :
    (m.create table columns).2.rows other = m.rows other := by
  rcases create_cases m table columns with ⟨_, _, _, h⟩ | ⟨_, _, h⟩ | ⟨hnew, _, h⟩
  · exact rows_of_tables_eq h other
  · exact rows_of_tables_eq h other
  · rw [rows_of_insert h]
    split
    · rename_i heq
      rw [← heq, rows_of_not_contains hnew]
    · rfl

/-- New columns leave the rows alone. -/
theorem rows_adapt (m : Memory) (table : String) (columns : List Column) (other : String) :
    (m.adapt table columns).2.rows other = m.rows other := by
  rcases adapt_cases m table columns with ⟨_, _, _, h⟩ | ⟨_, _, h⟩ | ⟨t, ht, _, h⟩
  · exact rows_of_tables_eq h other
  · exact rows_of_tables_eq h other
  · rw [rows_of_insert h, Table.rows_addColumns]
    split
    · rename_i heq
      rw [← heq, rows_of_get? ht]
    · rfl

/-- What others do leaves the rows alone. -/
theorem rows_disturb {m n : Memory} {d : Disturbance} (h : m.disturb d = some n) (table : String) :
    n.rows table = m.rows table := by
  cases d with
  | newTable name columns =>
    obtain ⟨hnew, rfl⟩ := by simpa [disturb] using h
    rw [rows_of_insert rfl]
    split
    · rename_i heq
      rw [← heq, rows_of_not_contains hnew]
    · rfl
  | _ =>
    obtain rfl := by simpa [disturb] using h
    rfl

end Memory

end PowerTelemetry.Store
