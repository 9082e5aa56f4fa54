import PowerTelemetry.Proofs.Store.Scenes
import PowerTelemetry.Proofs.Writer.Ensuring
import PowerTelemetry.Proofs.Writer.Knowledge
import PowerTelemetry.Upkeep
/-!
# Columns are kept exactly

`ensure_exact` is the result.  Whatever happened before, a call that ends well
says truly which columns it has put behind those that the table had, and asking
again does nothing at all; a call that fails leaves the tables alone.

The reason is an invariant that is stronger than `Reconciler.Truthful`.
`Reconciler.UpToDate` says that the known columns of a known table are all that
it has, and no other.

* What a reconciler learns is up to date (`UpToDate.learn`, `UpToDate.learnMore`),
  and it stays so while the tables keep their columns (`UpToDate.mono`).
* `Ensures` lists the two ends of a call, `ensures_grow` and `ensures_ensure` say
  that there is no third.
* `Sound` is the invariant of a run (`Sound.step`, `Sound.run`).
-/

namespace PowerTelemetry

open Store (Work Memory Handle Table Disturbance)

/-! ## Tables that keep their columns -/

theorem Store.Table.isSome_column?_eq (t : Table) (name : String) :
    (t.column? name).isSome = decide (name ∈ t.columns.map (·.name)) := by
  rw [Bool.eq_iff_iff, Table.column?, List.find?_isSome]
  simp

/-- A store that has the tables of another one, with the same columns. -/
def Store.Memory.KeepsColumns (m n : Memory) : Prop :=
  ∀ name t, m.tables.get? name = some t →
    ∃ u, n.tables.get? name = some u ∧ u.columns = t.columns

namespace Store.Memory.KeepsColumns

variable {m n : Memory}

theorem of_tables_eq (h : n.tables = m.tables) : m.KeepsColumns n := by
  intro name t ht
  exact ⟨t, by rw [h, ht], rfl⟩

/-- A table put in the place of one with the same columns, or where there was
none, leaves the columns as they are. -/
theorem of_insert {table : String} {u : Table} (h : n.tables = m.tables.insert table u)
    (hu : ∀ t, m.tables.get? table = some t → u.columns = t.columns) : m.KeepsColumns n := by
  intro name t ht
  rw [h, Dict.get?_insert]
  by_cases hname : table = name
  · subst hname
    exact ⟨u, if_pos rfl, hu t ht⟩
  · exact ⟨t, by rw [if_neg hname, ht], rfl⟩

/-- Rows do not change columns. -/
theorem insert (m : Memory) (table : String) (fields : List String)
    (rows : List (List Sql.Datum)) : m.KeepsColumns (m.insert table fields rows).2 := by
  rcases Memory.insert_cases m table fields rows with
    ⟨_, _, _, h⟩ | ⟨_, _, h⟩ | ⟨_, _, _, _, _, h⟩ | ⟨t, staged, ht, _, _, h⟩
  · exact of_tables_eq h
  · exact of_tables_eq h
  · exact of_tables_eq h
  · refine of_insert h fun u hu => ?_
    obtain rfl : t = u := Option.some.inj (ht.symm.trans hu)
    rfl

/-- What others do leaves the columns of all tables as they are. -/
theorem disturb {d : Disturbance} (h : m.disturb d = some n) : m.KeepsColumns n := by
  cases d with
  | newTable table columns =>
    obtain ⟨hnew, rfl⟩ := by simpa [Memory.disturb] using h
    refine of_insert (u := ⟨columns, []⟩) rfl fun t ht => ?_
    simp [Dict.contains_eq_isSome, ht] at hnew
  | _ =>
    obtain rfl := by simpa [Memory.disturb] using h
    exact of_tables_eq rfl

end Store.Memory.KeepsColumns

/-! ## Knowledge that is up to date -/

namespace Reconciler

variable {r : Reconciler} {m n : Memory} {table : String} {t : Table}

/-- Every known table exists, and its known columns are those that it has. -/
def UpToDate (r : Reconciler) (m : Memory) : Prop :=
  ∀ table names, r.known.get? table = some names →
    ∃ t, m.tables.get? table = some t ∧ ∀ name, names.contains name = (t.column? name).isSome

theorem UpToDate.empty (m : Memory) : Reconciler.empty.UpToDate m := by
  intro table names h
  cases h

/-- What is up to date stays so while no table gets a column. -/
theorem UpToDate.mono (h : r.UpToDate m) (hmn : m.KeepsColumns n) : r.UpToDate n := by
  intro table names hnames
  obtain ⟨t, ht, hcolumns⟩ := h table names hnames
  obtain ⟨u, hu, hsame⟩ := hmn table t ht
  refine ⟨u, hu, fun name => ?_⟩
  rw [hcolumns name, Table.column?, Table.column?, hsame]

theorem UpToDate.exists_table (h : r.UpToDate m) (hk : r.isKnown table) :
    ∃ t, m.tables.get? table = some t ∧
      ∀ name, (r.columnsOf table).contains name = (t.column? name).isSome := by
  rw [isKnown, Dict.contains_eq_isSome] at hk
  obtain ⟨names, hnames⟩ := Option.isSome_iff_exists.mp hk
  obtain ⟨t, ht, hcolumns⟩ := h table names hnames
  refine ⟨t, ht, fun name => ?_⟩
  rw [columnsOf, hnames, Option.getD_some, hcolumns name]

private theorem UpToDate.insert {names : Dict Unit} (h : r.UpToDate m)
    (hn : n.tables = m.tables.insert table t)
    (hnames : ∀ name, names.contains name = (t.column? name).isSome) :
    UpToDate ⟨r.known.insert table names⟩ n := by
  intro other others hothers
  rw [Dict.get?_insert] at hothers
  rw [hn, Dict.get?_insert]
  by_cases hne : table = other
  · rw [if_pos hne] at hothers ⊢
    obtain rfl : names = others := Option.some.inj hothers
    exact ⟨t, rfl, hnames⟩
  · rw [if_neg hne] at hothers ⊢
    exact h other others hothers

/-- The columns of a table are learnt from the names of all of them. -/
theorem UpToDate.learn (h : r.UpToDate m) (hn : n.tables = m.tables.insert table t) :
    (r.learn table (t.columns.map (·.name))).UpToDate n := by
  refine h.insert hn fun name => ?_
  rw [contains_withNames, t.isSome_column?_eq, Dict.contains_eq_isSome, Dict.get?_empty]
  rfl

/-- The columns of a table that grows are learnt from the names of the new ones. -/
theorem UpToDate.learnMore {more : List Column} (h : r.UpToDate m) (hk : r.isKnown table)
    (ht : m.tables.get? table = some t)
    (hn : n.tables = m.tables.insert table ⟨t.columns ++ more, t.rows⟩) :
    (r.learnMore table (more.map (·.name))).UpToDate n := by
  obtain ⟨u, hu, hcolumns⟩ := h.exists_table hk
  obtain rfl : t = u := Option.some.inj (ht.symm.trans hu)
  refine h.insert hn fun name => ?_
  rw [contains_withNames, hcolumns name, t.isSome_column?_eq, Table.isSome_column?_eq,
    List.map_append]
  simp

/-- The columns that seem to be missing are those that the table lacks. -/
theorem missing_eq_lacking
    (hcolumns : ∀ name, (r.columnsOf table).contains name = (t.column? name).isSome)
    (columns : List Column) : r.missing table columns = t.lacking columns := by
  refine List.filter_congr fun c _ => ?_
  rw [hcolumns c.name]
  cases t.column? c.name <;> rfl

end Reconciler

/-! ## One call -/

namespace Upkeep

/-- What a call of a reconciler comes to that looks after a table.  A failure of the
store stops it, and then no table changes; or the table has all of the columns
afterwards, and those that it lacked are the answer. -/
inductive Ensures (m : Memory) (table : String) (columns : List Column) :
    (Except StoreError (List Column) × Reconciler) × Memory → Prop where
  | stopped {error : StoreError} {known : Reconciler} {n : Memory}
      (failure : error ∈ m.schemaFailures) (tables : n.tables = m.tables)
      (upToDate : known.UpToDate n) :
      Ensures m table columns ((.error error, known), n)
  | granted {known : Reconciler} {n : Memory}
      (tables : n.tables = (m.provide table columns).tables) (upToDate : known.UpToDate n)
      (isKnown : known.isKnown table) (complete : known.missing table columns = []) :
      Ensures m table columns ((.ok ((m.table table).lacking columns), known), n)

variable {m n : Memory} {known : Reconciler} {table : String} {columns : List Column}

theorem Ensures.upToDate {r : (Except StoreError (List Column) × Reconciler) × Memory}
    (h : Ensures m table columns r) : r.1.2.UpToDate r.2 := by
  cases h with
  | stopped _ _ hknown => exact hknown
  | granted _ hknown _ _ => exact hknown

/-- A call that was refused because the table is there does not matter. -/
theorem Ensures.of_tables_eq {r : (Except StoreError (List Column) × Reconciler) × Memory}
    (h : Ensures n table columns r) (htables : n.tables = m.tables) (hfewer : m.FewerFailures n) :
    Ensures m table columns r := by
  have htable : n.table table = m.table table := by
    rw [Memory.table, htables, Memory.table]
  cases h with
  | stopped failure tables upToDate =>
    exact .stopped (hfewer.schema failure) (tables.trans htables) upToDate
  | granted tables upToDate isKnown complete =>
    rw [Memory.provide, htables, htable] at tables
    rw [htable]
    exact .granted tables upToDate isKnown complete

/-- A known table gets the columns that it lacks. -/
theorem ensures_grow (handle : Handle) (h : known.UpToDate m) (hk : known.isKnown table)
    (hnames : (columns.map (·.name)).Nodup) :
    Ensures m table columns ((known.grow handle table columns).run Memory.backend m) := by
  obtain ⟨t, ht, hcolumns⟩ := h.exists_table hk
  have htable : m.table table = t := Memory.table_of_get? ht
  have hlacking : known.missing table columns = t.lacking columns :=
    Reconciler.missing_eq_lacking hcolumns columns
  have hgrow := known.grow_cases handle m table columns
  generalize (known.grow handle table columns).run Memory.backend m = r at hgrow ⊢
  obtain ⟨⟨answer, learnt⟩, n⟩ := r
  rcases hgrow with ⟨hmissing, hr⟩ | ⟨error, hfailure, hr, htables⟩ | ⟨habsent, _, _⟩ |
    ⟨u, hu, hr, htables⟩
  · cases hr
    have hcomplete : ∀ c ∈ columns, (t.column? c.name).isSome := by
      intro c hc
      rw [← hcolumns c.name]
      exact (known.missing_eq_nil_iff _ _).mp hmissing c hc
    rw [← hmissing, hlacking, ← htable]
    refine .granted ?_ h hk hmissing
    rw [Memory.provide_of_complete ht hnames hcomplete]
  · cases hr
    exact .stopped hfailure htables (h.mono (Memory.KeepsColumns.of_tables_eq htables))
  · rw [ht] at habsent
    cases habsent
  · -- What seemed to be missing is what the table lacks, so the answer is about the table.
    cases hr
    obtain rfl : t = u := Option.some.inj (ht.symm.trans hu)
    have hcomplete := known.missing_learnMore table columns
    rw [hlacking] at htables hcomplete ⊢
    rw [Table.addColumns_lacking t hnames] at htables
    have hupToDate := h.learnMore hk ht (t.addColumns_eq hnames ▸ htables)
    rw [← htable] at htables hcomplete hupToDate ⊢
    exact .granted htables hupToDate (known.isKnown_learnMore _ _) hcomplete

/-- Whatever is known, a call stops at a failure or the table has the columns.  No
failure may say that a table is there already, since a table that is not there
would be adopted then. -/
theorem ensures_ensure (handle : Handle) (h : known.UpToDate m)
    (hhonest : ∀ name, StoreError.alreadyExists name ∉ m.schemaFailures)
    (hnames : (columns.map (·.name)).Nodup) :
    Ensures m table columns ((known.ensure handle table columns).run Memory.backend m) := by
  by_cases hk : known.isKnown table
  · rw [Reconciler.ensure_of_known handle hk]
    exact ensures_grow handle h hk hnames
  · have hensure := Reconciler.ensure_cases handle m columns (Bool.not_eq_true _ ▸ hk)
    generalize (known.ensure handle table columns).run Memory.backend m = r at hensure ⊢
    rcases hensure with ⟨error, hfailure, hr, htables⟩ | ⟨n, hfewer, htables, hthere, rfl⟩ |
      ⟨habsent, _, hr, htables⟩
    · obtain ⟨⟨answer, learnt⟩, n⟩ := r
      cases hr
      exact .stopped hfailure htables (h.mono (Memory.KeepsColumns.of_tables_eq htables))
    · -- No failure has lied, so the table is there, and all its columns are learnt first.
      have hcontains : m.tables.contains table := by
        rcases hthere with hcontains | ⟨name, hclaimed⟩
        · exact hcontains
        · exact absurd hclaimed (hhonest name)
      obtain ⟨t, ht⟩ := Memory.exists_table_of_contains hcontains
      have hsame : n.tables = m.tables.insert table t := by
        rw [htables, Dict.insert_of_get? ht]
      have hread : m.columnNames table = t.columns.map (·.name) := by
        rw [Memory.columnNames, ht]
      have hgrown := ensures_grow (m := n) handle (h.learn hsame) (known.isKnown_learn _ _) hnames
      rw [hread]
      exact hgrown.of_tables_eq htables hfewer
    · obtain ⟨⟨answer, learnt⟩, n⟩ := r
      cases hr
      have hempty : m.table table = Table.empty := Memory.table_of_absent habsent
      have hlacking : (m.table table).lacking columns = columns := by
        simp [hempty, Table.lacking, Table.empty, Table.column?]
      have hprovided : n.tables = (m.provide table columns).tables := by
        rw [Memory.provide, hempty, Table.addColumns_empty hnames, htables]
      have hgranted := Ensures.granted hprovided (h.learn htables) (known.isKnown_learn _ _)
        (known.missing_learn table columns)
      rwa [hlacking] at hgranted

/-! ## Every moment -/

/-- What holds of an upkeep at every moment: what is known is up to date, and no
failure is to come that says that a table is there already. -/
structure Sound (u : Upkeep) : Prop where
  upToDate : u.known.UpToDate u.store
  honest : ∀ table, StoreError.alreadyExists table ∉ u.store.schemaFailures

variable {u v : Upkeep}

/-- The two ends of a call. -/
theorem Sound.ensures (h : u.Sound) (handle : Handle) (destination : String)
    (attributes : Dict Value) :
    let r := u.ensure handle destination attributes
    Ensures u.store destination (Column.ofCells (Column.inferAll attributes))
      ((r.1, r.2.known), r.2.store) :=
  ensures_ensure handle h.upToDate h.honest (Column.nodup_ofCells _)

/-- An event keeps an upkeep sound, unless it arranges a failure that says that a
table is there already. -/
theorem Sound.step {event : Event} (h : u.Sound) (hstep : u.step event = some v)
    (hevent : ∀ table, event ≠ .disturb (.failSchemaChange (.alreadyExists table))) :
    v.Sound := by
  cases event with
  | ensure handle destination attributes =>
    obtain rfl : (u.ensure handle destination attributes).2 = v := Option.some.inj hstep
    have hfewer := Memory.fewerFailures_run (u.known.ensure handle destination
      (Column.ofCells (Column.inferAll attributes))) u.store
    refine ⟨(h.ensures handle destination attributes).upToDate, fun table hmem => ?_⟩
    exact h.honest table (hfewer.schema hmem)
  | reset =>
    obtain rfl : { u with known := Reconciler.empty } = v := Option.some.inj hstep
    exact ⟨Reconciler.UpToDate.empty _, h.honest⟩
  | insert table fields rows =>
    obtain rfl : { u with store := (u.store.insert table fields rows).2 } = v :=
      Option.some.inj hstep
    have hfewer := Memory.fewerFailures_change u.store (.insert table fields rows)
    refine ⟨h.upToDate.mono (Memory.KeepsColumns.insert _ _ _ _), fun table hmem => ?_⟩
    exact h.honest table (hfewer.schema hmem)
  | disturb d =>
    obtain ⟨n, hn, rfl⟩ := Option.map_eq_some_iff.mp hstep
    refine ⟨h.upToDate.mono (Memory.KeepsColumns.disturb hn), fun table hmem => ?_⟩
    cases d with
    | failSchemaChange error =>
      obtain rfl : u.store.failSchemaChange error = n := Option.some.inj hn
      rcases List.mem_append.mp hmem with hold | hnew
      · exact h.honest table hold
      · obtain rfl := List.mem_singleton.mp hnew
        exact hevent table rfl
    | newTable other columns =>
      obtain ⟨_, rfl⟩ := by simpa [Memory.disturb] using hn
      exact h.honest table hmem
    | _ =>
      obtain rfl := by simpa [Memory.disturb] using hn
      exact h.honest table hmem

/-- An upkeep is sound after any events. -/
theorem Sound.run {events : List Event} (h : u.Sound) (hrun : u.run events = some v)
    (hevents : ∀ table, .disturb (.failSchemaChange (.alreadyExists table)) ∉ events) :
    v.Sound := by
  induction events generalizing u with
  | nil =>
    obtain rfl : u = v := Option.some.inj hrun
    exact h
  | cons event rest ih =>
    obtain ⟨w, hstep, hrest⟩ := Option.bind_eq_some_iff.mp hrun
    have hw : w.Sound := h.step hstep fun table heq => hevents table (heq ▸ List.mem_cons_self)
    exact ih hw hrest fun table hmem => hevents table (List.mem_cons_of_mem _ hmem)

/-! ## What a call says and does -/

/-- Asking again for what is there does nothing. -/
theorem ensure_of_complete {destination : String} {attributes : Dict Value}
    (hk : u.known.isKnown destination)
    (hcomplete : u.known.missing destination (Column.ofCells (Column.inferAll attributes)) = [])
    (handle : Handle) : u.ensure handle destination attributes = (.ok [], u) := by
  rw [ensure, Reconciler.ensure_of_known handle hk,
    Reconciler.run_grow_of_complete _ _ _ hcomplete]

end Upkeep

/-- A store after columns were put behind those of a table, of which none had been
there.  A table that was not there had no columns and no rows. -/
structure Store.Memory.Extended (before after : Memory) (table : String)
    (added : List Column) : Prop where
  columns : after.tables.get? table
    = some ⟨(before.table table).columns ++ added, (before.table table).rows⟩
  others : ∀ other, other ≠ table → after.tables.get? other = before.tables.get? other
  fresh : ∀ c ∈ added, (before.table table).column? c.name = none
  distinct : (added.map (·.name)).Nodup

theorem Store.Memory.extended_provide {m n : Memory} {table : String} {columns : List Column}
    (hnames : (columns.map (·.name)).Nodup)
    (h : n.tables = (m.provide table columns).tables) :
    m.Extended n table ((m.table table).lacking columns) where
  columns := by rw [h, Memory.get?_provide, Table.addColumns_eq _ hnames]
  others other hne := by rw [h, Memory.get?_provide_of_ne m columns (Ne.symm hne)]
  fresh c hc := by simpa using (List.mem_filter.mp hc).2
  distinct := hnames.sublist (List.filter_sublist.map _)

namespace Upkeep

/-- A call is exact, whatever happened before, as long as no failure was arranged
that says that a table is there already.  If it ends well, its answer are the
columns that the table lacked, and they are behind those that it had; asking again
answers that there is nothing to add, and calls nothing.  If it fails, a failure of
the store was to come, and all tables are as before. -/
theorem ensure_exact {store : Memory} {events : List Event} {u : Upkeep}
    (hrun : (start store).run events = some u)
    (hstore : ∀ table, StoreError.alreadyExists table ∉ store.schemaFailures)
    (hevents : ∀ table, .disturb (.failSchemaChange (.alreadyExists table)) ∉ events)
    (handle : Handle) (destination : String) (attributes : Dict Value) :
    (∃ added v, u.ensure handle destination attributes = (.ok added, v) ∧
        u.store.Extended v.store destination added ∧
        added = (u.store.table destination).lacking
          (Column.ofCells (Column.inferAll attributes)) ∧
        ∀ again : Handle, v.ensure again destination attributes = (.ok [], v)) ∨
      ∃ error v, u.ensure handle destination attributes = (.error error, v) ∧
        error ∈ u.store.schemaFailures ∧ v.store.tables = u.store.tables := by
  have hstart : (start store).Sound := ⟨Reconciler.UpToDate.empty store, hstore⟩
  have hsound : u.Sound := hstart.run hrun hevents
  have hensures := hsound.ensures handle destination attributes
  rcases hcall : u.ensure handle destination attributes with ⟨answer, known, n⟩
  rw [hcall] at hensures
  cases hensures with
  | stopped failure tables _ => exact .inr ⟨_, _, rfl, failure, tables⟩
  | granted tables _ isKnown complete =>
    refine .inl ⟨_, _, rfl, ?_, rfl, ensure_of_complete isKnown complete⟩
    exact Memory.extended_provide (Column.nodup_ofCells _) tables

private def report (names : List String) : Dict Value :=
  Dict.ofList (names.map fun name => (name, .integer 5))

/-- A table that somebody else created is adopted, gets a row, and cannot be given
a column as the disk is full; then the reconciler forgets it. -/
private def adoptionEvents : List Event :=
  [.disturb (.newTable "grid" [⟨"eco_watts", .decimal⟩]),
    .ensure ⟨0⟩ "grid" (report ["watts", "volts"]),
    .insert "grid" ["eco_volts"] [[.integer (some 5)]],
    .disturb (.failSchemaChange (.schema "grid" "disk full")),
    .ensure ⟨0⟩ "grid" (report ["amps"]),
    .reset]

private def forgotten : Upkeep :=
  ((start Memory.empty).run adoptionEvents).get (by decide)

theorem ensure_exact_adoptionEvents :
    (start Memory.empty).run adoptionEvents = some forgotten ∧
      (∀ table, StoreError.alreadyExists table ∉ Memory.empty.schemaFailures) ∧
      (∀ table, .disturb (.failSchemaChange (.alreadyExists table)) ∉ adoptionEvents) ∧
      forgotten.store.table "grid"
        = ⟨[⟨"eco_watts", .decimal⟩, ⟨"eco_volts", .integer⟩],
          [Dict.ofList [("eco_volts", .integer (some 5))]]⟩ ∧
      ∃ v, forgotten.ensure ⟨0⟩ "grid" (report ["amps", "watts"])
          = (.ok [⟨"eco_amps", .integer⟩], v) ∧
        forgotten.store.Extended v.store "grid" [⟨"eco_amps", .integer⟩] ∧
        v.ensure ⟨1⟩ "grid" (report ["amps", "watts"]) = (.ok [], v) := by
  have hrun : (start Memory.empty).run adoptionEvents = some forgotten := (Option.some_get _).symm
  have hplain : ∀ table, StoreError.alreadyExists table ∉ Memory.empty.schemaFailures := by
    simp [Memory.empty]
  have hevents : ∀ table,
      .disturb (.failSchemaChange (.alreadyExists table)) ∉ adoptionEvents := by
    simp [adoptionEvents]
  have hcalm : forgotten.store.schemaFailures = [] := rfl
  refine ⟨hrun, hplain, hevents, by decide, ?_⟩
  rcases ensure_exact hrun hplain hevents ⟨0⟩ "grid" (report ["amps", "watts"]) with
    ⟨added, v, hcall, hextended, hadded, hagain⟩ | ⟨_, _, _, hfailure, _⟩
  · obtain rfl : added = [⟨"eco_amps", .integer⟩] := hadded.trans (by decide)
    exact ⟨v, hcall, hextended, hagain ⟨1⟩⟩
  · rw [hcalm] at hfailure
    cases hfailure

end Upkeep

end PowerTelemetry
