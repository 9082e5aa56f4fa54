import PowerTelemetry.Proofs.Store.Growth
import PowerTelemetry.Reconciler
/-!
# What it comes to that columns are ensured

The calls by which a reconciler ensures columns, and their answers.

* `run_grow` and `run_ensure_of_unknown` say so on any store: which call is made
  first, and what follows on its answer.
* `grow_cases` and `ensure_cases` say so on a store in memory, with all that can
  happen: a failure stops the call, a table is there or not, and what is known and
  what the tables are afterwards.
-/

namespace PowerTelemetry.Reconciler

open Store (Work Memory Handle)

variable {known : Reconciler} {table : String} {columns : List Column}

/-! ## On any store -/

section Runs

variable {σ : Type} (backend : Store.Backend σ) (handle : Handle) (s : σ)

/-- A table that lacks nothing is left alone. -/
theorem run_grow_of_complete (h : known.missing table columns = []) :
    (known.grow handle table columns).run backend s = ((.ok [], known), s) := by
  rw [grow, h, List.isEmpty_nil, if_pos rfl, Work.run_pure]

/-- Missing columns are added, and known once they are. -/
theorem run_grow (h : known.missing table columns ≠ []) :
    (known.grow handle table columns).run backend s
      = match backend.change handle (.adapt table (known.missing table columns)) s with
        | (.ok (), s) =>
          ((.ok (known.missing table columns),
            known.learnMore table ((known.missing table columns).map (·.name))), s)
        | (.error error, s) => ((.error error, known), s) := by
  rw [grow, if_neg (by simpa using h), Work.run_bind, Work.run_changed]
  rcases backend.change handle (.adapt table (known.missing table columns)) s with ⟨_ | _, _⟩ <;>
    rfl

/-- A known table grows. -/
theorem ensure_of_known (h : known.isKnown table) :
    known.ensure handle table columns = known.grow handle table columns := by
  rw [ensure, if_pos h]

/-- A table that is not known is created, or adopted if it is there already. -/
theorem run_ensure_of_unknown (h : known.isKnown table = false) :
    (known.ensure handle table columns).run backend s
      = match backend.change handle (.create table columns) s with
        | (.ok (), s) => ((.ok columns, known.learn table (columns.map (·.name))), s)
        | (.error (.alreadyExists _), s) => (known.adopt handle table columns).run backend s
        | (.error error, s) => ((.error error, known), s) := by
  rw [ensure, if_neg (by simp [h]), Work.run_bind, Work.run_changed]
  rcases backend.change handle (.create table columns) s with ⟨error | _, _⟩
  · cases error <;> rfl
  · rfl

end Runs

/-! ## On a store in memory -/

/-- The four ends of adding the missing columns to a table. -/
theorem grow_cases (known : Reconciler) (handle : Handle) (m : Memory) (table : String)
    (columns : List Column) :
    let missing := known.missing table columns
    let r := (known.grow handle table columns).run Memory.backend m
    (missing = [] ∧ r = ((.ok [], known), m)) ∨
      (∃ error ∈ m.schemaFailures, r.1 = (.error error, known) ∧ r.2.tables = m.tables) ∨
      (m.tables.get? table = none ∧ r.1 = (.error (.schema table Store.noTable), known) ∧
        r.2.tables = m.tables) ∨
      ∃ t, m.tables.get? table = some t ∧
        r.1 = (.ok missing, known.learnMore table (missing.map (·.name))) ∧
        r.2.tables = m.tables.insert table (t.addColumns missing) := by
  intro missing r
  by_cases hmissing : missing = []
  · exact .inl ⟨hmissing, run_grow_of_complete _ _ _ hmissing⟩
  · refine .inr ?_
    have hr : r = _ := run_grow Memory.backend handle m hmissing
    have hcall : Memory.backend.change handle (.adapt table (known.missing table columns)) m
        = m.adapt table missing := rfl
    have hadapt := Memory.adapt_cases m table missing
    rw [hcall] at hr
    generalize m.adapt table missing = a at hr hadapt
    obtain ⟨answer, n⟩ := a
    rcases hadapt with ⟨error, hfailure, hanswer, hn⟩ | ⟨habsent, hanswer, hn⟩ |
      ⟨t, ht, hanswer, hn⟩
    · obtain rfl : answer = .error error := hanswer
      exact .inl ⟨error, hfailure, by rw [hr], by rw [hr]; exact hn⟩
    · obtain rfl : answer = .error (.schema table Store.noTable) := hanswer
      exact .inr (.inl ⟨habsent, by rw [hr], by rw [hr]; exact hn⟩)
    · obtain rfl : answer = .ok () := hanswer
      exact .inr (.inr ⟨t, ht, by rw [hr], by rw [hr]; exact hn⟩)

/-- The three ends of the first call for a table that is not known.  A failure stops
it; or the table is there, or a failure says so, and it is known from now on by the
columns that it has; or it is created. -/
theorem ensure_cases (handle : Handle) (m : Memory) (columns : List Column)
    (hk : known.isKnown table = false) :
    let r := (known.ensure handle table columns).run Memory.backend m
    (∃ error ∈ m.schemaFailures, r.1 = (.error error, known) ∧ r.2.tables = m.tables) ∨
      (∃ n, m.FewerFailures n ∧ n.tables = m.tables ∧
        (m.tables.contains table ∨ ∃ name, .alreadyExists name ∈ m.schemaFailures) ∧
        r = ((known.learn table (m.columnNames table)).grow handle table columns).run
          Memory.backend n) ∨
      (m.tables.get? table = none ∧ m.FewerFailures r.2 ∧
        r.1 = (.ok columns, known.learn table (columns.map (·.name))) ∧
        r.2.tables = m.tables.insert table ⟨columns, []⟩) := by
  intro r
  have hr : r = _ := run_ensure_of_unknown Memory.backend handle m hk
  have hcall : Memory.backend.change handle (.create table columns) m = m.create table columns :=
    rfl
  have hcreate := Memory.create_cases m table columns
  have hfewer := Memory.fewerFailures_change m (.create table columns)
  rw [Memory.change] at hfewer
  rw [hcall] at hr
  generalize m.create table columns = a at hr hcreate hfewer
  obtain ⟨answer, n⟩ := a
  -- A table that is there, or seems to be, is read on the store that the create has left.
  have hadopt : n.tables = m.tables → (known.adopt handle table columns).run Memory.backend n
      = ((known.learn table (m.columnNames table)).grow handle table columns).run
        Memory.backend n := by
    intro hn
    have hread : n.columnNames table = m.columnNames table := by
      rw [Memory.columnNames, hn, Memory.columnNames]
    rw [← hread, adopt, Work.run_bind, Work.run_columnNames]
    rfl
  rcases hcreate with ⟨error, hfailure, hanswer, hn⟩ | ⟨hthere, hanswer, hn⟩ |
    ⟨hnew, hanswer, hn⟩
  · obtain rfl : answer = .error error := hanswer
    cases error with
    | alreadyExists name =>
      exact .inr (.inl ⟨n, hfewer, hn, .inr ⟨name, hfailure⟩, hr.trans (hadopt hn)⟩)
    | _ => exact .inl ⟨_, hfailure, by rw [hr], by rw [hr]; exact hn⟩
  · obtain rfl : answer = .error (.alreadyExists table) := hanswer
    exact .inr (.inl ⟨n, hfewer, hn, .inl hthere, hr.trans (hadopt hn)⟩)
  · obtain rfl : answer = .ok () := hanswer
    have habsent : m.tables.get? table = none := by
      simpa [Dict.contains_eq_isSome] using hnew
    exact .inr (.inr ⟨habsent, by rw [hr]; exact hfewer, by rw [hr], by rw [hr]; exact hn⟩)

end PowerTelemetry.Reconciler
