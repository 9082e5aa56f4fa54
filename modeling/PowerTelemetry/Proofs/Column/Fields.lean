import PowerTelemetry.Proofs.Column.Kinds
import PowerTelemetry.Proofs.Store.Row
/-!
# Which attributes a row holds

A field of a row has the value of the attribute that owns its column
(`get?_record_eq_some_iff`).  Where no two attributes share a column
(`Column.Separate`), each that has a kind owns its column (`Claims.owns`), and the row
of a sample has exactly one field for each of them (`get?_record_iff`).
-/

namespace PowerTelemetry

open Sql (Datum)

theorem Sql.get?_record (capturedAt : Instant) (cells : Dict Column.Cell) (name : String) :
    (Sql.record capturedAt cells).get? name = (cells.get? name).map (Datum.ofCell capturedAt) :=
  Dict.get?_map _ _ _

namespace Column

/-- A field has the value of the attribute that owns its column. -/
theorem get?_record_eq_some_iff {attributes : Dict Value} (capturedAt : Instant) (name : String)
    (datum : Datum) :
    (Sql.record capturedAt (inferAll attributes)).get? name = some datum ↔
      ∃ path cell, Owns attributes name path cell ∧ Datum.ofCell capturedAt cell = datum := by
  rw [Sql.get?_record, Option.map_eq_some_iff]
  constructor
  · rintro ⟨cell, hcell, hdatum⟩
    obtain ⟨path, howns⟩ := get?_inferAll_eq_some_iff.mp hcell
    exact ⟨path, cell, howns, hdatum⟩
  · rintro ⟨path, cell, howns, hdatum⟩
    exact ⟨cell, get?_inferAll_eq_some_iff.mpr ⟨path, howns⟩, hdatum⟩

/-! ## Attributes with columns of their own -/

/-- No two attributes share a column. -/
def Separate (attributes : Dict Value) : Prop :=
  ∀ path other, attributes.contains path → attributes.contains other →
    normalizeName path = normalizeName other → path = other

/-- An attribute that shares its column with no other one owns it. -/
theorem Claims.owns {attributes : Dict Value} {name path : String} {cell : Cell}
    (h : Claims attributes name path cell) (hseparate : Separate attributes) :
    Owns attributes name path cell where
  toClaims := h
  first other cell' hother := by
    have hcontains {p : String} {c : Cell} (hclaims : Claims attributes name p c) :
        attributes.contains p := by
      rw [Dict.contains_eq_isSome, hclaims.reported, Option.isSome_some]
    have hpath : name = normalizeName path := name_of_infer h.column
    have hshared : name = normalizeName other := name_of_infer hother.column
    obtain rfl : path = other :=
      hseparate path other (hcontains h) (hcontains hother) (hpath.symm.trans hshared)
    exact String.le_refl path

/-- The row of a sample has the fields of its attributes, and no others. -/
theorem get?_record_iff {attributes : Dict Value} (h : Separate attributes) (capturedAt : Instant)
    (name : String) (datum : Datum) :
    (Sql.record capturedAt (inferAll attributes)).get? name = some datum ↔
      ∃ path value kind, attributes.get? path = some value ∧
        infer path value = .ok ⟨name, kind⟩ ∧ Datum.ofCell capturedAt ⟨kind, value⟩ = datum := by
  rw [get?_record_eq_some_iff]
  constructor
  · rintro ⟨path, cell, howns, hdatum⟩
    exact ⟨path, cell.value, cell.kind, howns.reported, howns.column, hdatum⟩
  · rintro ⟨path, value, kind, hvalue, hinfer, hdatum⟩
    have hclaims : Claims attributes name path ⟨kind, value⟩ := ⟨hvalue, hinfer⟩
    exact ⟨path, _, hclaims.owns h, hdatum⟩

end Column

end PowerTelemetry
