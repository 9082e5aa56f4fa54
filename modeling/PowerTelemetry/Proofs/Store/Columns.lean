import Mathlib.Data.List.Nodup
import PowerTelemetry.Proofs.Store.Row
/-!
# Columns that a table lacks

Adding columns to a table puts those that it lacks behind the ones it has, in
their order (`addColumns_eq`).  So it does not matter whether columns that are
there are added again or left out (`addColumns_filter`).

Of a table that has all columns of a sample, `checkRows_record` says what becomes
of the sample's row: it passes, or the first value in the order of the names that
its column does not take is refused.
-/

namespace PowerTelemetry

/-- Columns that are inferred have different names. -/
theorem Column.nodup_ofCells (cells : Dict Column.Cell) :
    ((Column.ofCells cells).map (·.name)).Nodup := by
  have hnames : (Column.ofCells cells).map (·.name) = cells.entries.map (·.1) := by
    rw [Column.ofCells, List.map_map]
    rfl
  rw [hnames]
  refine List.Nodup.of_map id ?_
  rw [List.map_id]
  refine List.pairwise_map.mpr (cells.sorted.imp fun hlt heq => ?_)
  exact String.lt_irrefl _ (heq ▸ hlt)

namespace Store

open PowerTelemetry.Sql (Datum)

namespace Table

/-- The table without columns and rows. -/
def empty : Table :=
  ⟨[], []⟩

/-- The columns that a table does not have. -/
def lacking (t : Table) (columns : List Column) : List Column :=
  columns.filter fun c => (t.column? c.name).isNone

/-- The kind of the column of a name, or the one that it would get. -/
def kindOr (t : Table) (name : String) (kind : ColumnKind) : ColumnKind :=
  ((t.column? name).map (·.kind)).getD kind

/-! ## Adding columns -/

/-- One more column changes nothing for other names. -/
theorem column?_addColumn_of_ne (t : Table) {c : Column} {name : String} (h : c.name ≠ name) :
    (t.addColumn c).column? name = t.column? name := by
  rw [addColumn]
  split
  · rfl
  · have hlast : ([c] : List Column).find? (·.name == name) = none := by simp [h]
    simp only [column?, List.find?_append, hlast, Option.or_none]

/-- Columns of different names are put behind the old ones, as far as the table
lacks them. -/
theorem columns_addColumns {columns : List Column} (t : Table)
    (hnames : (columns.map (·.name)).Nodup) :
    (t.addColumns columns).columns = t.columns ++ t.lacking columns := by
  induction columns generalizing t with
  | nil => simp [addColumns, lacking]
  | cons c rest ih =>
    obtain ⟨hfresh, hrest⟩ := List.nodup_cons.mp hnames
    have hsame : (t.addColumn c).lacking rest = t.lacking rest := by
      refine List.filter_congr fun d hd => ?_
      have hne : c.name ≠ d.name := fun h => hfresh (List.mem_map.mpr ⟨d, hd, h.symm⟩)
      rw [column?_addColumn_of_ne t hne]
    have hstep : (t.addColumns (c :: rest)) = (t.addColumn c).addColumns rest := rfl
    rw [hstep, ih (t.addColumn c) hrest, hsame, addColumn]
    cases hc : t.column? c.name with
    | some d => simp [lacking, hc]
    | none => simp [lacking, hc]

theorem addColumns_eq {columns : List Column} (t : Table)
    (hnames : (columns.map (·.name)).Nodup) :
    t.addColumns columns = ⟨t.columns ++ t.lacking columns, t.rows⟩ := by
  rw [← columns_addColumns t hnames, ← rows_addColumns t columns]

/-- A new table is one that lacks everything. -/
theorem addColumns_empty {columns : List Column} (hnames : (columns.map (·.name)).Nodup) :
    empty.addColumns columns = ⟨columns, []⟩ := by
  rw [addColumns_eq _ hnames]
  simp [empty, lacking, column?]

/-- Columns that are there may be left out. -/
theorem addColumns_filter {columns : List Column} (t : Table) {p : Column → Bool}
    (hnames : (columns.map (·.name)).Nodup)
    (hout : ∀ c ∈ columns, p c = false → (t.column? c.name).isSome) :
    t.addColumns (columns.filter p) = t.addColumns columns := by
  have hfewer : ((columns.filter p).map (·.name)).Nodup :=
    hnames.sublist (List.filter_sublist.map _)
  rw [addColumns_eq t hfewer, addColumns_eq t hnames]
  congr 2
  rw [lacking, List.filter_filter]
  refine List.filter_congr fun c hc => ?_
  cases hp : p c with
  | true => simp
  | false => simpa using hout c hc hp

/-- The columns that are lacking are all that is added. -/
theorem addColumns_lacking {columns : List Column} (t : Table)
    (hnames : (columns.map (·.name)).Nodup) :
    t.addColumns (t.lacking columns) = t.addColumns columns := by
  refine t.addColumns_filter hnames fun c _ hc => ?_
  rwa [Option.isNone_eq_false_iff] at hc

/-- Columns that are all there change nothing. -/
theorem addColumns_of_complete {columns : List Column} (t : Table)
    (hnames : (columns.map (·.name)).Nodup) (h : ∀ c ∈ columns, (t.column? c.name).isSome) :
    t.addColumns columns = t := by
  have hnone : columns.filter (fun _ => false) = [] := by simp
  rw [← addColumns_filter t (p := fun _ => false) hnames fun c hc _ => h c hc, hnone]
  rfl

/-- An added column is of its old kind if it was there. -/
theorem column?_addColumns {columns : List Column} (t : Table)
    (hnames : (columns.map (·.name)).Nodup) {c : Column} (hc : c ∈ columns) :
    ((t.addColumns columns).column? c.name).map (·.kind) = some (t.kindOr c.name c.kind) := by
  rw [column?, columns_addColumns t hnames, List.find?_append, kindOr, ← column?]
  cases ht : t.column? c.name with
  | some d => simp
  | none =>
    have hlacks : c ∈ t.lacking columns := List.mem_filter.mpr ⟨hc, by simp [ht]⟩
    have hsome : ((t.lacking columns).find? (·.name == c.name)).isSome :=
      List.find?_isSome.mpr ⟨c, hlacks, by simp⟩
    obtain ⟨d, hd⟩ := Option.isSome_iff_exists.mp hsome
    have hname : d.name = c.name := by simpa using List.find?_some hd
    have hmem : d ∈ columns := (List.mem_filter.mp (List.mem_of_find?_eq_some hd)).1
    obtain rfl : d = c := List.inj_on_of_nodup_map hnames hmem hc hname
    simp [hd]

/-! ## The row of a sample -/

/-- Fields that all have a column pass, or the first value is refused that its
column does not take. -/
theorem stage_map {α : Type} (t : Table) (kind : String × α → ColumnKind)
    (value : String × α → Datum) {l : List (String × α)}
    (h : ∀ e ∈ l, (t.column? e.1).map (·.kind) = some (kind e)) (row : Row) :
    t.stage (l.map fun e => (e.1, value e)) row
      = match l.find? fun e => !accepts (kind e) (value e) with
        | some e => .error (rejection e.1 (kind e) (value e))
        | none => .ok ((l.map fun e => (e.1, value e)).foldl (fun d f => d.insert f.1 f.2) row) := by
  induction l generalizing row with
  | nil => rfl
  | cons e rest ih =>
    obtain ⟨c, hc, hkind⟩ := Option.map_eq_some_iff.mp (h e List.mem_cons_self)
    have hrest := ih (fun f hf => h f (List.mem_cons_of_mem _ hf))
    rw [List.map_cons, stage, hc]
    simp only [hkind]
    cases haccepts : accepts (kind e) (value e) with
    | true => simp only [if_true, hrest, List.find?_cons, haccepts, Bool.not_true, List.foldl_cons]
    | false => simp [haccepts]

/-- The check of the row of a sample against a table that has its columns. -/
theorem checkRows_record (t : Table) (kind : String × Column.Cell → ColumnKind)
    (capturedAt : Instant) {cells : Dict Column.Cell}
    (h : ∀ e ∈ cells.entries, (t.column? e.1).map (·.kind) = some (kind e)) :
    t.checkRows (Sql.fields cells) [Sql.row capturedAt cells]
      = match cells.entries.find? fun e => !accepts (kind e) (Datum.ofCell capturedAt e.2) with
        | some e => .error (rejection e.1 (kind e) (Datum.ofCell capturedAt e.2))
        | none => .ok [Sql.record capturedAt cells] := by
  have hstage := stage_map t kind (fun e => Datum.ofCell capturedAt e.2) h Dict.empty
  have hrecord : (cells.entries.map fun e => (e.1, Datum.ofCell capturedAt e.2)).foldl
      (fun d f => d.insert f.1 f.2) Dict.empty = Sql.record capturedAt cells :=
    Dict.ofList_entries (Sql.record capturedAt cells)
  have hlength : ¬(Sql.row capturedAt cells).length ≠ (Sql.fields cells).length := by
    simp [Sql.length_row]
  have hentries : (Sql.record capturedAt cells).entries
      = cells.entries.map fun e => (e.1, Datum.ofCell capturedAt e.2) := rfl
  rw [checkRows, checkRow, if_neg hlength, Sql.zip_fields_row, hentries, hstage, hrecord]
  cases cells.entries.find? fun e => !accepts (kind e) (Datum.ofCell capturedAt e.2) with
  | some e => rfl
  | none => rfl

end Table

end Store

end PowerTelemetry
