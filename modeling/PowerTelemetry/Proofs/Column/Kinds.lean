import Mathlib.Algebra.Group.Nat.Defs
import PowerTelemetry.Proofs.Column.Precedence
import PowerTelemetry.Sample
import PowerTelemetry.Store.Memory
/-!
# Columns take what they were made for

A column that is inferred from a value takes the value, unless this is a text of
more than 255 characters that is not for a column of instants.

* `Cell.Overlong` is this exception, and `Cell.Sized` leaves out nested values
  whose length has no room in 32 bits.
* `accepts_iff_of_kindOf` and `accepts_iff_of_infer` say so of one attribute, and
  `accepts_inferAll_iff` of all attributes of a sample.
* `Value.Fits` says of an attribute that it is no exception, whatever its column
  is called (`accepts_inferAll`).
-/

namespace PowerTelemetry

open Sql (Datum)
open Store (accepts)

/-- A value that fits the column it needs: a text of at most 255 characters, a
nested value whose text leaves room for the least length in 32 bits, or any other
value. -/
def Value.Fits : Value → Prop
  | .text s => s.length ≤ 255
  | .nested j => j.compact.length + 1024 < 2 ^ 32
  | .integer _ | .decimal _ | .timestamp _ => True

namespace Column

/-! ## What is in a cell -/

/-- A text of more than 255 characters that is not for a column of instants. -/
def Cell.Overlong (cell : Cell) : Prop :=
  cell.kind ≠ .timestamp ∧ ∃ s, cell.value = .text s ∧ 255 < s.length

instance (cell : Cell) : Decidable cell.Overlong :=
  match hvalue : cell.value with
  | .text s =>
    decidable_of_iff (cell.kind ≠ .timestamp ∧ 255 < s.length) (by simp [Cell.Overlong, hvalue])
  | .integer _ | .decimal _ | .timestamp _ | .nested _ =>
    .isFalse (by simp [Cell.Overlong, hvalue])

/-- A nested value that is not for a column of instants has a text that leaves room
for the least length in 32 bits. -/
def Cell.Sized (cell : Cell) : Prop :=
  ∀ j, cell.value = .nested j → cell.kind = .timestamp ∨ j.compact.length + 1024 < 2 ^ 32

theorem Cell.not_overlong_of_fits {cell : Cell} (h : cell.value.Fits) : ¬cell.Overlong := by
  rintro ⟨_, s, hs, hlong⟩
  rw [hs] at h
  have hshort : s.length ≤ 255 := h
  omega

theorem Cell.sized_of_fits {cell : Cell} (h : cell.value.Fits) : cell.Sized := by
  intro j hj
  rw [hj] at h
  exact .inr h

/-! ## One attribute -/

/-- A column for a nested value has room for its text. -/
theorem length_le_nestedLength {text : String} (h : text.length + 1024 < 2 ^ 32) :
    text.length ≤ (nestedLength text).toNat := by
  have hlength : (UInt32.ofNat text.length).toNat = text.length := by
    rw [UInt32.toNat_ofNat', Nat.mod_eq_of_lt (by omega)]
  have hleast : leastNestedLength.toNat = 1024 := rfl
  rw [nestedLength]
  split
  · rw [UInt32.toNat_add, hleast, hlength]
    omega
  · rename_i hle
    rw [UInt32.lt_iff_toNat_lt, hlength] at hle
    omega

/-- A column of instants takes any value. -/
theorem accepts_timestamp (value : Value) (capturedAt : Instant) :
    accepts .timestamp (Datum.ofCell capturedAt ⟨.timestamp, value⟩) := rfl

/-- The kind that a value needs takes the value, unless it is too long. -/
theorem accepts_iff_of_kindOf {path : String} {value : Value} {kind : ColumnKind}
    (h : kindOf path value = .ok kind) (hsized : (⟨kind, value⟩ : Cell).Sized)
    (capturedAt : Instant) :
    accepts kind (Datum.ofCell capturedAt ⟨kind, value⟩) ↔ ¬(⟨kind, value⟩ : Cell).Overlong := by
  cases value with
  | text s =>
    obtain rfl := Except.ok.inj h
    have hlength : (textLength).toNat = 255 := rfl
    simp [Cell.Overlong, Datum.ofCell, accepts, hlength]
  | integer i =>
    obtain rfl := Except.ok.inj h
    simp [Cell.Overlong, Datum.ofCell, accepts]
  | timestamp t =>
    obtain rfl := Except.ok.inj h
    simp [Cell.Overlong, Datum.ofCell, accepts]
  | nested j =>
    obtain rfl := Except.ok.inj h
    have hroom := (hsized j rfl).resolve_left (by simp)
    simpa [Cell.Overlong, Datum.ofCell, accepts] using length_le_nestedLength hroom
  | decimal x =>
    rw [kindOf] at h
    split at h
    · cases h
    · cases hwhole : x.int64? with
      | some i =>
        rw [← Binary64.isSome_int64?, hwhole, Option.isSome_some, if_pos rfl] at h
        obtain rfl := Except.ok.inj h
        simp [Cell.Overlong, Datum.ofCell, hwhole, accepts]
      | none =>
        rw [← Binary64.isSome_int64?, hwhole, if_neg (by simp)] at h
        obtain rfl := Except.ok.inj h
        simp [Cell.Overlong, Datum.ofCell, hwhole, accepts]

/-- The column of an attribute takes the attribute, unless it is too long. -/
theorem accepts_iff_of_infer {path : String} {value : Value} {column : Column}
    (h : infer path value = .ok column) (hsized : (⟨column.kind, value⟩ : Cell).Sized)
    (capturedAt : Instant) :
    accepts column.kind (Datum.ofCell capturedAt ⟨column.kind, value⟩)
      ↔ ¬(⟨column.kind, value⟩ : Cell).Overlong := by
  rw [infer] at h
  split at h
  · obtain rfl := Except.ok.inj h
    simp [Cell.Overlong, accepts_timestamp]
  · cases hkind : kindOf path value with
    | error error =>
      rw [hkind] at h
      cases h
    | ok kind =>
      rw [hkind] at h
      obtain rfl := Except.ok.inj h
      exact accepts_iff_of_kindOf hkind hsized capturedAt

/-! ## All attributes -/

/-- Each cell of a sample comes from one of its attributes. -/
theorem mem_inferAll {attributes : Dict Value} {e : String × Cell}
    (h : e ∈ (inferAll attributes).entries) :
    ∃ a ∈ attributes.entries, infer a.1 a.2 = .ok ⟨e.1, e.2.kind⟩ ∧ e.2.value = a.2 := by
  obtain ⟨path, howns⟩ := exists_owns_of_get? ((Dict.get?_eq_some_iff _ _ _).mpr h)
  exact ⟨(path, e.2.value), (attributes.get?_eq_some_iff _ _).mp howns.reported, howns.column, rfl⟩

/-- Each column of a sample takes the value that it was made for, unless this is too
long. -/
theorem accepts_inferAll_iff {attributes : Dict Value} {e : String × Cell}
    (h : e ∈ (inferAll attributes).entries) (hsized : e.2.Sized) (capturedAt : Instant) :
    accepts e.2.kind (Datum.ofCell capturedAt e.2) ↔ ¬e.2.Overlong := by
  obtain ⟨a, _, hinfer, hvalue⟩ := mem_inferAll h
  have hcell : e.2 = ⟨e.2.kind, a.2⟩ := by rw [← hvalue]
  rw [hcell] at hsized ⊢
  exact accepts_iff_of_infer hinfer hsized capturedAt

/-- Each column of a sample whose values fit takes the value that it was made
for. -/
theorem accepts_inferAll {attributes : Dict Value}
    (hvalues : ∀ a ∈ attributes.entries, a.2.Fits) (capturedAt : Instant) {e : String × Cell}
    (h : e ∈ (inferAll attributes).entries) :
    accepts e.2.kind (Datum.ofCell capturedAt e.2) := by
  obtain ⟨a, hattribute, _, hvalue⟩ := mem_inferAll h
  have hfits : e.2.value.Fits := hvalue ▸ hvalues a hattribute
  exact (accepts_inferAll_iff h (Cell.sized_of_fits hfits) capturedAt).mpr
    (Cell.not_overlong_of_fits hfits)

end Column

end PowerTelemetry
