import PowerTelemetry.Proofs.Outcome
import PowerTelemetry.Sql.Datum
/-!
# Which attribute has a column

Several attributes may ask for one column.  The first one in the order of their names
has it, of those that have a kind: one without a kind does not stand in the way of a
later one.

* `Claims` says that an attribute asks for a column and `Owns` that it is the first one
  to do so.
* `offer?` is what one attribute has for a column.  `get?_foldl_addInferred` turns the walk
  through the attributes into a search for the first offer, and
  `get?_inferAll_eq_some_iff` says that this is the owner's.
* `inferAll_resolves` is the result, for columns and for rows.
-/

namespace PowerTelemetry.Column

open Sql (Datum)

variable {attributes : Dict Value} {name path : String} {cell : Cell}

/-! ## Claims -/

/-- A column is named after its attribute. -/
theorem name_of_infer {value : Value} {column : Column} (h : infer path value = .ok column) :
    column.name = normalizeName path := by
  obtain ⟨name, kind⟩ := column
  rw [infer] at h
  split at h
  · exact (Column.mk.inj (Except.ok.inj h)).1.symm
  · obtain ⟨_, -, hcolumn⟩ := exists_of_map_eq_ok h
    exact (Column.mk.inj hcolumn).1.symm

/-- An attribute that asks for a column: it has a kind, and the column is named after
it. -/
structure Claims (attributes : Dict Value) (name path : String) (cell : Cell) : Prop where
  reported : attributes.get? path = some cell.value
  column : infer path cell.value = .ok ⟨name, cell.kind⟩

/-- The first attribute that asks for a column. -/
structure Owns (attributes : Dict Value) (name path : String) (cell : Cell) : Prop extends
    Claims attributes name path cell where
  first : ∀ other cell', Claims attributes name other cell' → path ≤ other

/-- A column has one owner. -/
theorem Owns.unique {other : String} {cell' : Cell} (h : Owns attributes name path cell)
    (h' : Owns attributes name other cell') : path = other ∧ cell = cell' := by
  obtain rfl : path = other :=
    String.le_antisymm (h.first other cell' h'.toClaims) (h'.first path cell h.toClaims)
  have hvalue : cell.value = cell'.value := Option.some.inj (h.reported.symm.trans h'.reported)
  have hcolumn := h.column
  rw [hvalue, h'.column] at hcolumn
  have hkind : cell.kind = cell'.kind := (Column.mk.inj (Except.ok.inj hcolumn)).2.symm
  refine ⟨rfl, ?_⟩
  cases cell
  cases cell'
  cases hvalue
  cases hkind
  rfl

/-! ## Offers -/

/-- What an attribute has for a column, if it asks for it. -/
def offer? (name : String) (reported : String × Value) : Option Cell :=
  match infer reported.1 reported.2 with
  | .ok column => if column.name = name then some ⟨column.kind, reported.2⟩ else none
  | .error _ => none

theorem offer?_eq_some_iff {a : String × Value} :
    offer? name a = some cell ↔ infer a.1 a.2 = .ok ⟨name, cell.kind⟩ ∧ a.2 = cell.value := by
  obtain ⟨kind, value⟩ := cell
  -- The equation of `offer?` takes long to prove, its definition opens at once.
  delta offer?
  cases infer a.1 a.2 with
  | error error => simp
  | ok column =>
    obtain ⟨found, kind'⟩ := column
    simp only [Option.ite_none_right_eq_some, Option.some.injEq, Cell.mk.injEq, Except.ok.injEq,
      Column.mk.injEq, and_assoc]

/-- A column that is there stays, another one is taken from the attribute. -/
theorem get?_addInferred (columns : Dict Cell) (a : String × Value) (name : String) :
    (addInferred columns a).get? name = (columns.get? name).or (offer? name a) := by
  delta addInferred offer?
  cases infer a.1 a.2 with
  | error error => exact Option.or_none.symm
  | ok column =>
    dsimp only
    by_cases hthere : columns.contains column.name
    · rw [if_pos hthere]
      by_cases hname : column.name = name
      · obtain ⟨found, hfound⟩ := Option.isSome_iff_exists.mp hthere
        rw [← hname, hfound, Option.some_or]
      · rw [if_neg hname, Option.or_none]
    · rw [if_neg hthere, Dict.get?_insert]
      by_cases hname : column.name = name
      · have hnone : columns.get? name = none := by
          rwa [Dict.contains_eq_isSome, hname, Option.not_isSome_iff_eq_none] at hthere
        rw [if_pos hname, if_pos hname, hnone, Option.none_or]
      · rw [if_neg hname, if_neg hname, Option.or_none]

/-- The walk through attributes finds the first offer for each column. -/
theorem get?_foldl_addInferred (l : List (String × Value)) (columns : Dict Cell) (name : String) :
    (l.foldl addInferred columns).get? name
      = (columns.get? name).or (l.findSome? (offer? name)) := by
  induction l generalizing columns with
  | nil => exact Option.or_none.symm
  | cons a rest ih =>
    rw [List.foldl_cons, ih, get?_addInferred, Option.or_assoc, List.findSome?_cons]
    cases offer? name a <;> rfl

theorem get?_inferAll (attributes : Dict Value) (name : String) :
    (inferAll attributes).get? name = attributes.entries.findSome? (offer? name) :=
  get?_foldl_addInferred attributes.entries Dict.empty name

/-! ## Owners -/

theorem mem_entries_iff_claims :
    (∃ a ∈ attributes.entries, a.1 = path ∧ offer? name a = some cell) ↔
      Claims attributes name path cell := by
  constructor
  · rintro ⟨⟨path, value⟩, ha, rfl, hoffer⟩
    obtain ⟨hinfer, rfl⟩ := offer?_eq_some_iff.mp hoffer
    exact ⟨(attributes.get?_eq_some_iff _ _).mpr ha, hinfer⟩
  · rintro ⟨hreported, hinfer⟩
    exact ⟨(path, cell.value), (attributes.get?_eq_some_iff _ _).mp hreported, rfl,
      offer?_eq_some_iff.mpr ⟨hinfer, rfl⟩⟩

/-- A column that is asked for is there. -/
theorem Claims.contains (h : Claims attributes name path cell) :
    (inferAll attributes).contains name := by
  obtain ⟨a, ha, -, hoffer⟩ := mem_entries_iff_claims.mpr h
  rw [Dict.contains_eq_isSome, get?_inferAll, List.findSome?_isSome_iff]
  exact ⟨a, ha, by rw [hoffer, Option.isSome_some]⟩

theorem exists_owns_of_get? (h : (inferAll attributes).get? name = some cell) :
    ∃ path, Owns attributes name path cell := by
  rw [get?_inferAll, List.findSome?_eq_some_iff] at h
  obtain ⟨before, a, after, hentries, hoffer, hbefore⟩ := h
  have hsorted := attributes.sorted
  rw [hentries] at hsorted
  have ha : a ∈ attributes.entries := by simp [hentries]
  refine ⟨a.1, mem_entries_iff_claims.mp ⟨a, ha, rfl, hoffer⟩, fun other cell' hclaims => ?_⟩
  obtain ⟨b, hb, rfl, hoffer'⟩ := mem_entries_iff_claims.mpr hclaims
  rw [hentries, List.mem_append, List.mem_cons] at hb
  rcases hb with hb | rfl | hb
  · rw [hbefore b hb] at hoffer'
    cases hoffer'
  · exact String.le_refl _
  · have hlater := (List.pairwise_cons.mp (List.pairwise_append.mp hsorted).2.1).1 b hb
    exact String.not_lt.mp (String.lt_asymm hlater)

/-- A column has what its owner has for it. -/
theorem get?_inferAll_eq_some_iff :
    (inferAll attributes).get? name = some cell ↔ ∃ path, Owns attributes name path cell := by
  refine ⟨exists_owns_of_get?, fun ⟨path, howns⟩ => ?_⟩
  obtain ⟨found, hfound⟩ := Option.isSome_iff_exists.mp howns.contains
  obtain ⟨other, hother⟩ := exists_owns_of_get? hfound
  rw [hfound, (howns.unique hother).2]

/-- The columns are those that are asked for. -/
theorem contains_inferAll_iff :
    (inferAll attributes).contains name ↔ ∃ path cell, Claims attributes name path cell := by
  constructor
  · intro h
    obtain ⟨cell, hcell⟩ := Option.isSome_iff_exists.mp h
    obtain ⟨path, howns⟩ := exists_owns_of_get? hcell
    exact ⟨path, cell, howns.toClaims⟩
  · rintro ⟨path, cell, hclaims⟩
    exact hclaims.contains

/-- The value at a place of a row is the one for the field at this place. -/
theorem getElem?_row (capturedAt : Instant) (cells : Dict Cell) (i : Nat) :
    (Sql.row capturedAt cells)[i]?
      = (Sql.fields cells)[i]?.bind fun name =>
          (cells.get? name).map (Datum.ofCell capturedAt) := by
  rw [Sql.row, Sql.fields, Dict.values, Dict.names, List.map_map, List.getElem?_map,
    List.getElem?_map]
  cases hentry : cells.entries[i]? with
  | none => rfl
  | some e =>
    have hcell : cells.get? e.1 = some e.2 :=
      (cells.get?_eq_some_iff _ _).mpr (List.mem_of_getElem? hentry)
    rw [Option.map_some, Option.map_some, Option.bind_some, hcell]
    rfl

/-- Attributes that share a column.  The columns of a sample are named after the
attributes that have a kind.  Each holds the value of the first one of these, in the
order of their names, and is of the kind that this one needs.  The row has its fields in
ascending order, a value for each of them, and at each place the one of the field
there. -/
theorem inferAll_resolves (attributes : Dict Value) (capturedAt : Instant) :
    let cells := inferAll attributes
    let fields := Sql.fields cells
    let values := Sql.row capturedAt cells
    (∀ name, cells.contains name ↔
        ∃ path value column, attributes.get? path = some value ∧
          infer path value = .ok column ∧ normalizeName path = name) ∧
      (∀ name cell, cells.get? name = some cell ↔ ∃ path, Owns attributes name path cell) ∧
      fields.Pairwise (· < ·) ∧ values.length = fields.length ∧
      ∀ i : Nat, values[i]? = fields[i]?.bind fun name =>
        (cells.get? name).map (Datum.ofCell capturedAt) := by
  refine ⟨fun name => ?_, fun _ _ => get?_inferAll_eq_some_iff, ?_, ?_, getElem?_row _ _⟩
  · rw [contains_inferAll_iff]
    constructor
    · rintro ⟨path, cell, hclaims⟩
      exact ⟨path, cell.value, _, hclaims.reported, hclaims.column,
        (name_of_infer hclaims.column).symm⟩
    · rintro ⟨path, value, column, hreported, hinfer, rfl⟩
      exact ⟨path, ⟨column.kind, value⟩, hreported, by rw [hinfer, ← name_of_infer hinfer]⟩
  · exact List.pairwise_map.mpr (inferAll attributes).sorted
  · simp [Sql.row, Sql.fields, Dict.values, Dict.names]

end PowerTelemetry.Column
