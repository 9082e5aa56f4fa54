import PowerTelemetry.Proofs.Store.Columns
import PowerTelemetry.Store.Scene
/-!
# What scenes have in common

`Memory.provide` gives a table columns, and creates it if it is not there.  A
create does this where there is no table, and an adapt where there is one
(`create_of_absent`, `adapt_of_present`), as long as no failure of a change of
columns is to come.  Once the table is there it does not matter whether others
act before or after it (`provide_suffer`).

`Memory.uncounted` forgets how often tables were created and adapted.  It changes
nothing about any other call (`connect_uncounted`, `insert_uncounted`), so two
scenes that differ in nothing else answer a call alike (`Scene.call_congr`).
-/

namespace PowerTelemetry

theorem Dict.insert_comm {α : Type} (d : Dict α) {a b : String} (x y : α) (h : a ≠ b) :
    (d.insert a x).insert b y = (d.insert b y).insert a x := by
  refine Dict.ext_get? fun name => ?_
  simp only [Dict.get?_insert]
  by_cases ha : a = name
  · have hb : b ≠ name := fun hb => h (ha.trans hb.symm)
    simp [ha, hb]
  · simp [ha]

/-- Of two values of one name the later stands. -/
theorem Dict.insert_insert_self {α : Type} (d : Dict α) (name : String) (x y : α) :
    (d.insert name x).insert name y = d.insert name y := by
  refine Dict.ext_get? fun other => ?_
  simp only [Dict.get?_insert]
  split <;> rfl

/-- A value put where it is changes nothing. -/
theorem Dict.insert_of_get? {α : Type} {d : Dict α} {name : String} {value : α}
    (h : d.get? name = some value) : d.insert name value = d := by
  refine Dict.ext_get? fun other => ?_
  rw [Dict.get?_insert]
  split
  · rename_i heq
    rw [← heq, h]
  · rfl

namespace Store

namespace Memory

/-- The table of a name; one without columns and rows if it is not there. -/
def table (m : Memory) (name : String) : Table :=
  (m.tables.get? name).getD Table.empty

/-- The table with columns, created if it is not there. -/
def provide (m : Memory) (table : String) (columns : List Column) : Memory :=
  { m with tables := m.tables.insert table ((m.table table).addColumns columns) }

/-- The store without the numbers of creates and adapts. -/
def uncounted (m : Memory) : Memory :=
  { m with calls := ⟨0, 0, m.calls.inserts, m.calls.connects, m.calls.closes⟩ }

variable {m : Memory} {table : String} {columns : List Column}

/-! ## Tables that are provided -/

theorem table_of_get? {t : Table} (ht : m.tables.get? table = some t) : m.table table = t := by
  rw [Memory.table, ht, Option.getD_some]

theorem table_of_absent (habsent : m.tables.get? table = none) : m.table table = Table.empty := by
  rw [Memory.table, habsent, Option.getD_none]

theorem get?_provide (m : Memory) (table : String) (columns : List Column) :
    (m.provide table columns).tables.get? table = some ((m.table table).addColumns columns) := by
  rw [provide, Dict.get?_insert_self]

theorem get?_provide_of_ne (m : Memory) (columns : List Column) {table other : String}
    (h : table ≠ other) : (m.provide table columns).tables.get? other = m.tables.get? other := by
  rw [provide, Dict.get?_insert_of_ne _ _ h]

/-- Columns that are all there change nothing. -/
theorem provide_of_complete {t : Table} (ht : m.tables.get? table = some t)
    (hnames : (columns.map (·.name)).Nodup) (h : ∀ c ∈ columns, (t.column? c.name).isSome) :
    m.provide table columns = m := by
  rw [provide, table_of_get? ht, t.addColumns_of_complete hnames h, Dict.insert_of_get? ht]

/-- A store is provided with what it has grown to. -/
theorem grows_provide (m : Memory) (table : String) (columns : List Column) :
    m.Grows (m.provide table columns) := by
  intro other t ht
  by_cases hne : table = other
  · subst hne
    refine ⟨_, get?_provide m table columns, ?_⟩
    rw [table_of_get? ht]
    exact t.grows_addColumns columns
  · exact ⟨t, by rw [get?_provide_of_ne m columns hne, ht], Table.Grows.refl t⟩

/-- A create of a table that is not there provides it. -/
theorem create_of_absent (hplain : m.schemaFailures = [])
    (hnames : (columns.map (·.name)).Nodup) (habsent : m.tables.get? table = none) :
    (m.create table columns).1 = .ok () ∧
      (m.create table columns).2.uncounted = (m.provide table columns).uncounted := by
  have hnew : m.tables.contains table = false := by
    rw [Dict.contains_eq_isSome, habsent]
    rfl
  have hempty : (m.table table).addColumns columns = ⟨columns, []⟩ := by
    rw [table_of_absent habsent, Table.addColumns_empty hnames]
  simp only [create, hplain, createNow, hnew, putTable, provide, hempty, uncounted,
    Bool.false_eq_true, if_false, and_self]

/-- A create of a table that is there is refused. -/
theorem create_of_present (hplain : m.schemaFailures = []) {t : Table}
    (ht : m.tables.get? table = some t) (columns : List Column) :
    (m.create table columns).1 = .error (.alreadyExists table) ∧
      (m.create table columns).2.uncounted = m.uncounted := by
  have hthere : m.tables.contains table = true := by
    rw [Dict.contains_eq_isSome, ht]
    rfl
  simp only [create, hplain, createNow, hthere, uncounted, if_true, and_self]

/-- An adapt of a table that is there provides its columns. -/
theorem adapt_of_present (hplain : m.schemaFailures = []) {t : Table}
    (ht : m.tables.get? table = some t) (columns : List Column) :
    (m.adapt table columns).1 = .ok () ∧
      (m.adapt table columns).2.uncounted = (m.provide table columns).uncounted := by
  simp only [adapt, hplain, adaptNow, provide, ht, table_of_get? ht, uncounted, and_self]

/-! ## Acts of others -/

theorem grows_suffer (m : Memory) (d : Disturbance) : m.Grows (m.suffer d) := by
  rw [suffer]
  cases h : m.disturb d with
  | none => exact Grows.refl m
  | some n => exact grows_disturb h

/-- Others do not act on a table that is there. -/
theorem get?_suffer {t : Table} (ht : m.tables.get? table = some t) (d : Disturbance) :
    (m.suffer d).tables.get? table = some t := by
  cases d with
  | newTable other others =>
    rw [suffer, disturb]
    split
    · exact ht
    · rename_i hnew
      have hne : other ≠ table := by
        rintro rfl
        rw [Dict.contains_eq_isSome, ht] at hnew
        exact hnew rfl
      exact (Dict.get?_insert_of_ne _ _ hne).trans ht
  | _ => exact ht

/-- Columns of a table that is there can be added before or after others act. -/
theorem provide_suffer {t : Table} (ht : m.tables.get? table = some t) (columns : List Column)
    (d : Disturbance) : (m.provide table columns).suffer d = (m.suffer d).provide table columns := by
  cases d with
  | newTable other others =>
    by_cases hsame : table = other
    · -- The table is there with and without the columns, so the act does nothing.
      subst hsame
      have hthere : m.tables.contains table = true := by simp [Dict.contains_eq_isSome, ht]
      have hprovided : (m.provide table columns).tables.contains table = true := by
        simp [Dict.contains_eq_isSome, get?_provide]
      simp only [suffer, disturb, hthere, hprovided, if_true, Option.getD_none]
    · have hcontains : (m.provide table columns).tables.contains other
          = m.tables.contains other := by
        rw [Dict.contains_eq_isSome, get?_provide_of_ne m columns hsame, Dict.contains_eq_isSome]
      simp only [suffer, disturb, hcontains]
      split
      · rfl
      · simp only [Option.getD_some, putTable, provide, Memory.table,
          Dict.get?_insert_of_ne _ _ (Ne.symm hsame)]
        rw [Dict.insert_comm _ _ _ hsame]
  | _ => rfl

/-- An act that arranges no failure of a change of columns adds none. -/
theorem schemaFailures_suffer (m : Memory) {d : Disturbance}
    (hd : ∀ error, d ≠ .failSchemaChange error) :
    (m.suffer d).schemaFailures = m.schemaFailures := by
  cases d with
  | failSchemaChange error => exact absurd rfl (hd error)
  | newTable table columns =>
    rw [suffer, disturb]
    split <;> rfl
  | _ => rfl

theorem schemaFailures_connect (m : Memory) :
    m.connect.2.schemaFailures = m.schemaFailures := by
  rw [connect]
  split <;> rfl

theorem schemaFailures_insert (m : Memory) (table : String) (fields : List String)
    (rows : List (List Sql.Datum)) :
    (m.insert table fields rows).2.schemaFailures = m.schemaFailures := by
  rw [insert]
  cases hf : m.insertFailures with
  | cons error rest => rfl
  | nil =>
    obtain ⟨tables, h⟩ := insertNow_only_tables
      { m with calls.inserts := m.calls.inserts + 1, insertFailures := [] } table fields rows
    simp [h]

/-! ## Calls that are not counted -/

@[simp] theorem tables_uncounted (m : Memory) : m.uncounted.tables = m.tables := rfl

theorem disturb_uncounted (m : Memory) (d : Disturbance) :
    m.uncounted.disturb d = (m.disturb d).map uncounted := by
  cases d with
  | newTable table columns =>
    have hsame : m.uncounted.tables.contains table = m.tables.contains table := rfl
    rw [disturb, disturb]
    cases hthere : m.tables.contains table with
    | true => rw [if_pos (hsame.trans hthere), if_pos rfl, Option.map_none]
    | false =>
      rw [if_neg (by simp [hthere]), if_neg (by simp), Option.map_some]
      rfl
  | _ => rfl

theorem suffer_uncounted (m : Memory) (d : Disturbance) :
    m.uncounted.suffer d = (m.suffer d).uncounted := by
  rw [suffer, suffer, disturb_uncounted, Option.getD_map]

theorem connect_uncounted (m : Memory) :
    m.uncounted.connect = (m.connect.1, m.connect.2.uncounted) := by
  obtain ⟨tables, calls, connectFailures, schemaFailures, insertFailures⟩ := m
  cases connectFailures <;> rfl

theorem insertNow_uncounted (m : Memory) (table : String) (fields : List String)
    (rows : List (List Sql.Datum)) :
    m.uncounted.insertNow table fields rows
      = ((m.insertNow table fields rows).1, (m.insertNow table fields rows).2.uncounted) := by
  simp only [insertNow, tables_uncounted]
  cases m.tables.get? table with
  | none => rfl
  | some t =>
    simp only
    cases t.checkRows fields rows with
    | error reason => rfl
    | ok staged => rfl

theorem insert_uncounted (m : Memory) (table : String) (fields : List String)
    (rows : List (List Sql.Datum)) :
    m.uncounted.insert table fields rows
      = ((m.insert table fields rows).1, (m.insert table fields rows).2.uncounted) := by
  obtain ⟨tables, calls, connectFailures, schemaFailures, insertFailures⟩ := m
  cases insertFailures with
  | cons error rest => rfl
  | nil =>
    exact insertNow_uncounted ⟨tables, { calls with inserts := calls.inserts + 1 },
      connectFailures, schemaFailures, []⟩ table fields rows

/-- A call that does not look at the numbers of creates and adapts is the same in
two stores that differ in nothing else. -/
theorem call_congr {α : Type} {f : Memory → α × Memory}
    (hf : ∀ m : Memory, f m.uncounted = ((f m).1, (f m).2.uncounted)) {m n : Memory}
    (h : m.uncounted = n.uncounted) :
    (f m).1 = (f n).1 ∧ (f m).2.uncounted = (f n).2.uncounted := by
  have hanswers : ((f m).1, (f m).2.uncounted) = ((f n).1, (f n).2.uncounted) := by
    rw [← hf, ← hf, h]
  exact Prod.mk.inj hanswers

theorem tables_congr {m n : Memory} (h : m.uncounted = n.uncounted) : m.tables = n.tables := by
  rw [← tables_uncounted m, ← tables_uncounted n, h]

end Memory

/-! ## Scenes -/

namespace Scene

/-- The scene with a table that has columns. -/
def provide (s : Scene) (table : String) (columns : List Column) : Scene :=
  ⟨s.store.provide table columns, s.plan⟩

/-- The scene without the numbers of creates and adapts. -/
def uncounted (s : Scene) : Scene :=
  ⟨s.store.uncounted, s.plan⟩

theorem perform_perform {i j : Phase} (h : i.index ≤ j.index) (m : Memory)
    (plan : List (Phase × Disturbance)) : (perform i m plan).upTo j = perform j m plan := by
  induction plan generalizing m with
  | nil => rfl
  | cons act rest ih =>
    obtain ⟨p, d⟩ := act
    rw [perform]
    split
    · rename_i hi
      rw [ih, perform, if_pos (Nat.le_trans hi h)]
    · rfl

/-- What is due at a phase is due at any later one. -/
theorem upTo_upTo {i j : Phase} (h : i.index ≤ j.index) (s : Scene) :
    (s.upTo i).upTo j = s.upTo j :=
  perform_perform h s.store s.plan

theorem get?_perform {table : String} {t : Table} (phase : Phase) {m : Memory}
    (ht : m.tables.get? table = some t) (plan : List (Phase × Disturbance)) :
    (perform phase m plan).store.tables.get? table = some t := by
  induction plan generalizing m with
  | nil => exact ht
  | cons act rest ih =>
    rw [perform]
    split
    · exact ih (Memory.get?_suffer ht act.2)
    · exact ht

/-- Others do not act on a table that is there. -/
theorem get?_upTo {s : Scene} {table : String} {t : Table}
    (ht : s.store.tables.get? table = some t) (phase : Phase) :
    (s.upTo phase).store.tables.get? table = some t :=
  get?_perform phase ht s.plan

theorem perform_provide {table : String} {t : Table} (phase : Phase) {m : Memory}
    (ht : m.tables.get? table = some t) (columns : List Column)
    (plan : List (Phase × Disturbance)) :
    perform phase (m.provide table columns) plan
      = (perform phase m plan).provide table columns := by
  induction plan generalizing m with
  | nil => rfl
  | cons act rest ih =>
    rw [perform, perform]
    split
    · rw [Memory.provide_suffer ht, ih (Memory.get?_suffer ht act.2)]
    · rfl

/-- Columns of a table that is there can be added before or after others act. -/
theorem provide_upTo {s : Scene} {table : String} {t : Table}
    (ht : s.store.tables.get? table = some t) (columns : List Column) (phase : Phase) :
    (s.provide table columns).upTo phase = (s.upTo phase).provide table columns :=
  perform_provide phase ht columns s.plan

theorem perform_uncounted (phase : Phase) (m : Memory) (plan : List (Phase × Disturbance)) :
    perform phase m.uncounted plan = (perform phase m plan).uncounted := by
  induction plan generalizing m with
  | nil => rfl
  | cons act rest ih =>
    rw [perform, perform]
    split
    · rw [Memory.suffer_uncounted, ih]
    · rfl

theorem upTo_uncounted (s : Scene) (phase : Phase) :
    s.uncounted.upTo phase = (s.upTo phase).uncounted :=
  perform_uncounted phase s.store s.plan

theorem finish_uncounted (s : Scene) : s.uncounted.finish = s.finish.uncounted := by
  obtain ⟨m, plan⟩ := s
  induction plan generalizing m with
  | nil => rfl
  | cons act rest ih =>
    have hact := Memory.suffer_uncounted m act.2
    calc (⟨m, act :: rest⟩ : Scene).uncounted.finish
        = (⟨m.uncounted.suffer act.2, rest⟩ : Scene).finish := rfl
      _ = (⟨m.suffer act.2, rest⟩ : Scene).uncounted.finish := by rw [hact]; rfl
      _ = (⟨m, act :: rest⟩ : Scene).finish.uncounted := ih (m.suffer act.2)

/-- A call that does not look at the numbers of creates and adapts is the same in
two scenes that differ in nothing else when it is made. -/
theorem call_congr {α : Type} {f : Memory → α × Memory}
    (hf : ∀ m : Memory, f m.uncounted = ((f m).1, (f m).2.uncounted)) {s t : Scene}
    {phase : Phase} (h : (s.upTo phase).uncounted = (t.upTo phase).uncounted) :
    (s.call phase f).1 = (t.call phase f).1 ∧
      (s.call phase f).2.uncounted = (t.call phase f).2.uncounted := by
  obtain ⟨hstore, hplan⟩ := Scene.mk.inj h
  obtain ⟨hanswer, hafter⟩ := Memory.call_congr hf hstore
  refine ⟨hanswer, ?_⟩
  rw [call, call, uncounted, uncounted, hafter, hplan]

theorem tables_congr {s t : Scene} (h : s.uncounted = t.uncounted) :
    s.store.tables = t.store.tables :=
  Memory.tables_congr (Scene.mk.inj h).1

theorem upTo_congr {s t : Scene} (h : s.uncounted = t.uncounted) (phase : Phase) :
    (s.upTo phase).uncounted = (t.upTo phase).uncounted := by
  rw [← upTo_uncounted, ← upTo_uncounted, h]

theorem provide_congr {s t : Scene} (h : s.uncounted = t.uncounted) (table : String)
    (columns : List Column) :
    (s.provide table columns).uncounted = (t.provide table columns).uncounted := by
  show s.uncounted.provide table columns = t.uncounted.provide table columns
  rw [h]

theorem finish_congr {s t : Scene} (h : s.uncounted = t.uncounted) :
    s.finish.uncounted = t.finish.uncounted := by
  rw [← finish_uncounted, ← finish_uncounted, h]

/-! ## Scenes that grow -/

theorem grows_perform (phase : Phase) (m : Memory) (plan : List (Phase × Disturbance)) :
    m.Grows (perform phase m plan).store := by
  induction plan generalizing m with
  | nil => exact Memory.Grows.refl m
  | cons act rest ih =>
    rw [perform]
    split
    · exact (m.grows_suffer act.2).trans (ih (m.suffer act.2))
    · exact Memory.Grows.refl m

theorem grows_upTo (s : Scene) (phase : Phase) : s.store.Grows (s.upTo phase).store :=
  grows_perform phase s.store s.plan

theorem grows_call {α : Type} {f : Memory → α × Memory} (hf : ∀ m : Memory, m.Grows (f m).2)
    (s : Scene) (phase : Phase) : s.store.Grows (s.call phase f).2.store :=
  (s.grows_upTo phase).trans (hf _)

theorem grows_finish (s : Scene) : s.store.Grows s.finish := by
  obtain ⟨m, plan⟩ := s
  induction plan generalizing m with
  | nil => exact Memory.Grows.refl m
  | cons act rest ih => exact (m.grows_suffer act.2).trans (ih (m.suffer act.2))

/-! ## Scenes in which columns can be changed -/

/-- No change of columns fails: no such failure is to come, and nobody plans
one. -/
structure Plain (s : Scene) : Prop where
  failures : s.store.schemaFailures = []
  plan : ∀ act ∈ s.plan, ∀ error, act.2 ≠ .failSchemaChange error

/-- Nobody acts. -/
theorem plain_nil {m : Memory} (h : m.schemaFailures = []) : Plain ⟨m, []⟩ :=
  ⟨h, fun _ hact => absurd hact List.not_mem_nil⟩

theorem Plain.perform {phase : Phase} {m : Memory} {plan : List (Phase × Disturbance)}
    (h : Plain ⟨m, plan⟩) : (perform phase m plan).Plain := by
  induction plan generalizing m with
  | nil => exact h
  | cons act rest ih =>
    have hact := h.plan act List.mem_cons_self
    have hrest : ∀ other ∈ rest, ∀ error, other.2 ≠ .failSchemaChange error :=
      fun other hother => h.plan other (List.mem_cons_of_mem _ hother)
    rw [Scene.perform]
    split
    · exact ih ⟨(Memory.schemaFailures_suffer m hact).trans h.failures, hrest⟩
    · exact h

theorem Plain.upTo {s : Scene} (h : s.Plain) (phase : Phase) : (s.upTo phase).Plain :=
  Plain.perform h

theorem Plain.call {α : Type} {s : Scene} (h : s.Plain) {f : Memory → α × Memory}
    (hf : ∀ m : Memory, (f m).2.schemaFailures = m.schemaFailures) (phase : Phase) :
    (s.call phase f).2.Plain :=
  ⟨(hf _).trans (h.upTo phase).failures, (h.upTo phase).plan⟩

theorem Plain.finish {s : Scene} (h : s.Plain) : s.finish.schemaFailures = [] := by
  obtain ⟨m, plan⟩ := s
  induction plan generalizing m with
  | nil => exact h.failures
  | cons act rest ih =>
    refine ih (m.suffer act.2) ⟨?_, fun other hother => h.plan other (List.mem_cons_of_mem _ hother)⟩
    exact (Memory.schemaFailures_suffer m (h.plan act List.mem_cons_self)).trans h.failures

/-! ## Changes of columns -/

section Changes

variable {s : Scene} {table : String}

/-- A create of a table that is not there provides it. -/
theorem change_create_of_absent (handle : Handle) (hs : s.Plain) {columns : List Column}
    (hnames : (columns.map (·.name)).Nodup)
    (habsent : (s.upTo .create).store.tables.get? table = none) :
    (backend.change handle (.create table columns) s).1 = .ok () ∧
      (backend.change handle (.create table columns) s).2.uncounted
        = ((s.upTo .create).provide table columns).uncounted := by
  obtain ⟨hanswer, hafter⟩ :=
    Memory.create_of_absent (hs.upTo .create).failures hnames habsent
  exact ⟨hanswer, congrArg (Scene.mk · (s.upTo .create).plan) hafter⟩

/-- A create of a table that is there is refused. -/
theorem change_create_of_present (handle : Handle) (hs : s.Plain) {t : Table}
    (ht : (s.upTo .create).store.tables.get? table = some t) (columns : List Column) :
    (backend.change handle (.create table columns) s).1 = .error (.alreadyExists table) ∧
      (backend.change handle (.create table columns) s).2.uncounted
        = (s.upTo .create).uncounted := by
  obtain ⟨hanswer, hafter⟩ := Memory.create_of_present (hs.upTo .create).failures ht columns
  exact ⟨hanswer, congrArg (Scene.mk · (s.upTo .create).plan) hafter⟩

/-- An adapt of a table that is there provides its columns. -/
theorem change_adapt_of_present (handle : Handle) (hs : s.Plain) {t : Table}
    (ht : s.store.tables.get? table = some t) (columns : List Column) :
    (backend.change handle (.adapt table columns) s).1 = .ok () ∧
      (backend.change handle (.adapt table columns) s).2.uncounted
        = ((s.upTo .adapt).provide table columns).uncounted := by
  obtain ⟨hanswer, hafter⟩ := Memory.adapt_of_present (hs.upTo .adapt).failures
    (get?_upTo ht .adapt) columns
  exact ⟨hanswer, congrArg (Scene.mk · (s.upTo .adapt).plan) hafter⟩

end Changes

/-! ## Agreement -/

theorem Plain.congr {s t : Scene} (h : s.Plain) (hst : s.uncounted = t.uncounted) : t.Plain := by
  obtain ⟨hstore, hplan⟩ := Scene.mk.inj hst
  have hfailures : s.store.uncounted.schemaFailures = t.store.uncounted.schemaFailures := by
    rw [hstore]
  exact ⟨hfailures.symm.trans h.failures, hplan ▸ h.plan⟩

end Scene

end Store

end PowerTelemetry
