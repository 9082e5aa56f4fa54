import PowerTelemetry.Proofs.Store.Growth
import PowerTelemetry.Reconciler
/-!
# What is known of the tables

`Reconciler.Truthful` says that a store bears out what a reconciler knows: a
table that is known exists, and each of its known columns is one.  It keeps
being true while the store grows (`Truthful.mono`), and it is true of what is
learnt from a call that succeeded (`Truthful.learn`, `Truthful.learnMore`).

The other lemmas say which columns are known after a call and which are still
missing.
-/

namespace PowerTelemetry.Reconciler

open Store (Memory Table)

/-! ## Known names -/

theorem contains_withNames (names : Dict Unit) (more : List String) (name : String) :
    (withNames names more).contains name = (names.contains name || decide (name ∈ more)) := by
  rw [withNames]
  induction more generalizing names with
  | nil => simp
  | cons a rest ih =>
    rw [List.foldl_cons, ih, Dict.contains_insert]
    by_cases h : a = name
    · simp [h]
    · simp [h, Ne.symm h]

@[simp] theorem isKnown_learn (r : Reconciler) (table : String) (names : List String) :
    (r.learn table names).isKnown table := by
  simp [isKnown, learn, Dict.contains_eq_isSome]

@[simp] theorem isKnown_learnMore (r : Reconciler) (table : String) (names : List String) :
    (r.learnMore table names).isKnown table := by
  simp [isKnown, learnMore, Dict.contains_eq_isSome]

theorem contains_columnsOf_learn (r : Reconciler) (table : String) (names : List String)
    (name : String) :
    ((r.learn table names).columnsOf table).contains name = decide (name ∈ names) := by
  rw [columnsOf, learn, Dict.get?_insert_self, Option.getD_some, contains_withNames]
  simp [Dict.contains_eq_isSome]

theorem contains_columnsOf_learnMore (r : Reconciler) (table : String) (names : List String)
    (name : String) :
    ((r.learnMore table names).columnsOf table).contains name
      = ((r.columnsOf table).contains name || decide (name ∈ names)) := by
  rw [columnsOf, learnMore, Dict.get?_insert_self, Option.getD_some, contains_withNames]

/-- Nothing is missing when all columns are known. -/
theorem missing_eq_nil_iff (r : Reconciler) (table : String) (columns : List Column) :
    r.missing table columns = [] ↔ ∀ c ∈ columns, (r.columnsOf table).contains c.name := by
  simp [missing, List.filter_eq_nil_iff]

/-- After a create nothing is missing. -/
theorem missing_learn (r : Reconciler) (table : String) (columns : List Column) :
    (r.learn table (columns.map (·.name))).missing table columns = [] := by
  rw [missing_eq_nil_iff]
  intro c hc
  rw [contains_columnsOf_learn]
  exact decide_eq_true (List.mem_map_of_mem hc)

/-- After the missing columns are added nothing is missing. -/
theorem missing_learnMore (r : Reconciler) (table : String) (columns : List Column) :
    (r.learnMore table ((r.missing table columns).map (·.name))).missing table columns = [] := by
  rw [missing_eq_nil_iff]
  intro c hc
  rw [contains_columnsOf_learnMore]
  by_cases hk : (r.columnsOf table).contains c.name
  · simp [hk]
  · have hmissing : c ∈ r.missing table columns := List.mem_filter.mpr ⟨hc, by simp [hk]⟩
    simp only [Bool.or_eq_true, decide_eq_true_eq]
    exact .inr (List.mem_map_of_mem hmissing)

/-! ## Knowledge that is true -/

/-- Every known table exists and has the columns that are known of it. -/
def Truthful (r : Reconciler) (m : Memory) : Prop :=
  ∀ table names, r.known.get? table = some names →
    ∃ t, m.tables.get? table = some t ∧
      ∀ name, names.contains name → (t.column? name).isSome

theorem Truthful.empty (m : Memory) : Reconciler.empty.Truthful m := by
  intro table names h
  cases h

/-- What is true stays true while the store grows. -/
theorem Truthful.mono {r : Reconciler} {m n : Memory} (h : r.Truthful m) (hmn : m.Grows n) :
    r.Truthful n := by
  intro table names hnames
  obtain ⟨t, ht, hcolumns⟩ := h table names hnames
  obtain ⟨u, hu, htu⟩ := hmn table t ht
  exact ⟨u, hu, fun name hname => htu.isSome_column? (hcolumns name hname)⟩

/-- A known table exists. -/
theorem Truthful.exists_table {r : Reconciler} {m : Memory} (h : r.Truthful m) {table : String}
    (hk : r.isKnown table) :
    ∃ t, m.tables.get? table = some t ∧
      ∀ name, (r.columnsOf table).contains name → (t.column? name).isSome := by
  rw [isKnown, Dict.contains_eq_isSome] at hk
  obtain ⟨names, hnames⟩ := Option.isSome_iff_exists.mp hk
  obtain ⟨t, ht, hcolumns⟩ := h table names hnames
  refine ⟨t, ht, fun name hname => hcolumns name ?_⟩
  rwa [columnsOf, hnames, Option.getD_some] at hname

private theorem Truthful.insert {r : Reconciler} {m : Memory} (h : r.Truthful m)
    {table : String} {names : Dict Unit} {t : Table} (ht : m.tables.get? table = some t)
    (hnames : ∀ name, names.contains name → (t.column? name).isSome) :
    Truthful ⟨r.known.insert table names⟩ m := by
  intro other others hothers
  by_cases hne : table = other
  · subst hne
    rw [Dict.get?_insert_self] at hothers
    cases hothers
    exact ⟨t, ht, hnames⟩
  · rw [Dict.get?_insert_of_ne _ _ hne] at hothers
    exact h other others hothers

/-- The names of columns of a table are truly learnt. -/
theorem Truthful.learn {r : Reconciler} {m : Memory} (h : r.Truthful m) {table : String}
    {names : List String} {t : Table} (ht : m.tables.get? table = some t)
    (hnames : ∀ name ∈ names, (t.column? name).isSome) : (r.learn table names).Truthful m := by
  refine h.insert ht fun name hname => hnames name ?_
  rw [contains_withNames] at hname
  simpa [Dict.contains_eq_isSome] using hname

/-- More names of columns of a known table are truly learnt. -/
theorem Truthful.learnMore {r : Reconciler} {m : Memory} (h : r.Truthful m) {table : String}
    (hk : r.isKnown table) {names : List String}
    (hnames : ∀ t, m.tables.get? table = some t → ∀ name ∈ names, (t.column? name).isSome) :
    (r.learnMore table names).Truthful m := by
  obtain ⟨t, ht, hcolumns⟩ := h.exists_table hk
  refine h.insert ht fun name hname => ?_
  rw [contains_withNames, Bool.or_eq_true, decide_eq_true_eq] at hname
  rcases hname with hname | hname
  · exact hcolumns name hname
  · exact hnames t ht name hname

end PowerTelemetry.Reconciler
