import PowerTelemetry.Proofs.Column.Fields
import PowerTelemetry.Proofs.Column.Spellings
/-!
# Who has the two bare columns

Every sample has a `timestamp` and a `serial_number` attribute, under just these names.
The columns of these names are for all their spellings, such as `Timestamp` or
`serial.number`, and a bare name is the last one of its spellings.  So a sample keeps
its own two attributes in their columns as long as the source uses no other spelling.

* `Taken` says that another spelling asks for the column, and `Owns.ne_of_taken` that
  this is lost then.
* `get?_record_timestamp_of_owns` and `get?_record_serialNumber` say what is in the columns, and
  `record_make` that a sample which has no other spelling keeps both.
-/

namespace PowerTelemetry.Column

open Sql (Datum)

variable {attributes : Dict Value} {name path : String} {cell : Cell} {value : Value}

/-- An attribute of another name asks for a column. -/
def Taken (attributes : Dict Value) (name : String) : Prop :=
  ∃ path cell, Claims attributes name path cell ∧ path ≠ name

/-- A bare name gives way to its other spellings. -/
theorem Owns.ne_of_taken (howns : Owns attributes name path cell) (hbare : isReserved name)
    (htaken : Taken attributes name) : path ≠ name := by
  obtain ⟨other, cell', hclaims, hne⟩ := htaken
  rintro rfl
  have hlast : other ≤ path := le_of_normalizeName hbare (name_of_infer hclaims.column).symm
  exact hne (String.le_antisymm hlast (howns.first other cell' hclaims))

theorem Claims.eq_of_not_taken (h : Claims attributes name path cell)
    (hfree : ¬Taken attributes name) : path = name :=
  Decidable.byContradiction fun hne => hfree ⟨path, cell, h, hne⟩

/-- A source that has no other spellings does not take the column. -/
theorem not_taken_of_forall
    (h : ∀ a ∈ attributes.entries, normalizeName a.1 = name → a.1 = name) :
    ¬Taken attributes name := by
  rintro ⟨path, cell, hclaims, hne⟩
  have hentry := (Dict.get?_eq_some_iff _ _ _).mp hclaims.reported
  exact hne (h _ hentry (name_of_infer hclaims.column).symm)

/-- A column that is not taken is that of the attribute of this name. -/
theorem owns_of_not_taken (hfree : ¬Taken attributes name) (h : Claims attributes name name cell) :
    Owns attributes name name cell where
  toClaims := h
  first other cell' hother := by
    obtain rfl := hother.eq_of_not_taken hfree
    exact String.le_refl other

theorem get?_inferAll_of_not_taken (hfree : ¬Taken attributes name) :
    (inferAll attributes).get? name = some cell ↔ Claims attributes name name cell := by
  rw [get?_inferAll_eq_some_iff]
  constructor
  · rintro ⟨path, howns⟩
    obtain rfl := howns.eq_of_not_taken hfree
    exact howns.toClaims
  · exact fun hclaims => ⟨name, owns_of_not_taken hfree hclaims⟩

/-! ## The timestamp -/

/-- Whatever the spelling, an attribute of the timestamp's name has a column of
instants. -/
theorem claims_timestampName_iff :
    Claims attributes timestampName path cell ↔
      normalizeName path = timestampName ∧ attributes.get? path = some cell.value ∧
        cell.kind = .timestamp := by
  constructor
  · intro h
    have hname : normalizeName path = timestampName := (name_of_infer h.column).symm
    have hcolumn := h.column
    rw [infer_of_timestamp hname] at hcolumn
    exact ⟨hname, h.reported, (Column.mk.inj (Except.ok.inj hcolumn)).2.symm⟩
  · rintro ⟨hname, hreported, hkind⟩
    exact ⟨hreported, by rw [infer_of_timestamp hname, hkind]⟩

/-- The instant of a sample is the one that its timestamp denotes, if it denotes one. -/
theorem exists_timestamp_make (now : Instant) (deviceId : String) (reported : Dict Value) :
    let s := Sample.make now deviceId reported
    ∃ value, s.attributes.get? timestampName = some value ∧
      value.asInstant?.getD s.capturedAt = s.capturedAt := by
  intro s
  cases hfound : (Sample.withSerialNumber deviceId reported).get? timestampName with
  | some value =>
    have hs :
        s = ⟨deviceId, value.asInstant?.getD now, Sample.withSerialNumber deviceId reported⟩ := by
      simp only [s, Sample.make, hfound]
    refine ⟨value, by rw [hs, hfound], ?_⟩
    rw [hs]
    cases value.asInstant? <;> rfl
  | none =>
    have hs : s = ⟨deviceId, now,
        (Sample.withSerialNumber deviceId reported).insert timestampName (.timestamp now)⟩ := by
      simp only [s, Sample.make, hfound]
    exact ⟨.timestamp now, by rw [hs, Dict.get?_insert_self], by rw [hs]; rfl⟩

/-- The timestamp of a row is the one of its owner. -/
theorem get?_record_timestamp_of_owns (h : Owns attributes timestampName path cell)
    (capturedAt : Instant) :
    (Sql.record capturedAt (inferAll attributes)).get? timestampName
      = some (.instant (cell.value.asInstant?.getD capturedAt)) := by
  have hkind : cell.kind = .timestamp := (claims_timestampName_iff.mp h.toClaims).2.2
  refine (get?_record_eq_some_iff _ _ _).mpr ⟨path, cell, h, ?_⟩
  rw [Datum.ofCell, if_pos hkind]

/-! ## The serial number -/

theorem claims_serialNumberName_iff :
    Claims attributes serialNumberName serialNumberName cell ↔
      attributes.get? serialNumberName = some cell.value ∧
        kindOf serialNumberName cell.value = .ok cell.kind := by
  have hname := normalizeName_serialNumberName
  have hne : normalizeName serialNumberName ≠ timestampName := by
    rw [hname]
    decide
  constructor
  · rintro ⟨hreported, hcolumn⟩
    rw [infer, if_neg hne] at hcolumn
    obtain ⟨kind, hkind, heq⟩ := exists_of_map_eq_ok hcolumn
    rw [hkind, (Column.mk.inj heq).2]
    exact ⟨hreported, rfl⟩
  · rintro ⟨hreported, hkind⟩
    exact ⟨hreported, by rw [infer_of_kindOf hne hkind, hname]⟩

/-- A serial number that is not taken is the one in the row, if it has a kind. -/
theorem get?_record_serialNumber (hfree : ¬Taken attributes serialNumberName)
    (hvalue : attributes.get? serialNumberName = some value) (capturedAt : Instant) :
    (Sql.record capturedAt (inferAll attributes)).get? serialNumberName
      = (kindOf serialNumberName value).toOption.map fun kind =>
          Datum.ofCell capturedAt ⟨kind, value⟩ := by
  rw [Sql.get?_record]
  cases hkind : kindOf serialNumberName value with
  | ok kind =>
    have hcell : (inferAll attributes).get? serialNumberName = some ⟨kind, value⟩ :=
      (get?_inferAll_of_not_taken hfree).mpr (claims_serialNumberName_iff.mpr ⟨hvalue, hkind⟩)
    rw [hcell]
    rfl
  | error error =>
    have hnone : (inferAll attributes).get? serialNumberName = none := by
      refine Option.eq_none_iff_forall_ne_some.mpr fun cell hcell => ?_
      obtain ⟨hreported, hok⟩ :=
        claims_serialNumberName_iff.mp ((get?_inferAll_of_not_taken hfree).mp hcell)
      rw [← Option.some.inj (hvalue.symm.trans hreported), hkind] at hok
      cases hok
    rw [hnone]
    rfl

/-! ## Rows of samples -/

/-- The two bare columns in the row of a sample.  The timestamp is always there: it is
the instant that the first of its spellings denotes, or else the one of the sample.  The
serial number is that of the first of its spellings that has a kind, and is not there if
none has.  Where a source uses no other spelling, these are the instant of the sample
and its own serial number, which is the device unless the source reported another one.
Where it does, the bare name has lost its column. -/
theorem record_make (now : Instant) (deviceId : String) (reported : Dict Value) :
    let s := Sample.make now deviceId reported
    let cells := inferAll s.attributes
    let row := Sql.record s.capturedAt cells
    let serialNumber := (reported.get? serialNumberName).getD (.text deviceId)
    (Sql.fields cells).zip (Sql.row s.capturedAt cells) = row.entries ∧
      (∃ path cell, Owns s.attributes timestampName path cell ∧
        row.get? timestampName = some (.instant (cell.value.asInstant?.getD s.capturedAt))) ∧
      (∀ datum, row.get? serialNumberName = some datum ↔
        ∃ path cell, Owns s.attributes serialNumberName path cell ∧
          Datum.ofCell s.capturedAt cell = datum) ∧
      (¬Taken s.attributes timestampName →
        row.get? timestampName = some (.instant s.capturedAt)) ∧
      (¬Taken s.attributes serialNumberName →
        row.get? serialNumberName = (kindOf serialNumberName serialNumber).toOption.map fun kind =>
          Datum.ofCell s.capturedAt ⟨kind, serialNumber⟩) ∧
      ∀ name path cell, isReserved name → Taken s.attributes name →
        Owns s.attributes name path cell → path ≠ name := by
  intro s cells row serialNumber
  obtain ⟨value, htimestamp, hcaptured⟩ := exists_timestamp_make now deviceId reported
  have hown : Claims s.attributes timestampName timestampName ⟨.timestamp, value⟩ :=
    claims_timestampName_iff.mpr ⟨normalizeName_timestampName, htimestamp, rfl⟩
  refine ⟨Sql.zip_fields_row _ _, ?_, get?_record_eq_some_iff _ _, fun hfree => ?_,
    fun hfree => ?_, ?_⟩
  · obtain ⟨cell, hcell⟩ := Option.isSome_iff_exists.mp hown.contains
    obtain ⟨path, howns⟩ := get?_inferAll_eq_some_iff.mp hcell
    exact ⟨path, cell, howns, get?_record_timestamp_of_owns howns _⟩
  · have howns := owns_of_not_taken hfree hown
    rw [get?_record_timestamp_of_owns howns, hcaptured]
  · refine get?_record_serialNumber hfree ?_ _
    rw [Sample.get?_make, if_pos rfl]
  · exact fun _ _ _ hbare htaken howns => howns.ne_of_taken hbare htaken

/-- A source that only uses the bare names, and one that has another spelling of the
timestamp. -/
theorem record_make_meters :
    (let s := Sample.make ⟨0, 0⟩ "HW51"
        (Dict.ofList [("timestamp", .integer 7), ("watts", .integer 5)])
      let row := Sql.record s.capturedAt (inferAll s.attributes)
      row.get? timestampName = some (.instant ⟨7, 0⟩) ∧
        row.get? serialNumberName = some (.text (some "HW51"))) ∧
      let s := Sample.make ⟨0, 0⟩ "HW51" (Dict.ofList [("Timestamp", .integer 5)])
      ∃ path cell, Owns s.attributes timestampName path cell ∧ path ≠ timestampName := by
  constructor
  · obtain ⟨-, -, -, htimestamp, hserial, -⟩ :=
      record_make ⟨0, 0⟩ "HW51" (Dict.ofList [("timestamp", .integer 7), ("watts", .integer 5)])
    exact ⟨htimestamp (not_taken_of_forall (by decide +kernel)),
      hserial (not_taken_of_forall (by decide +kernel))⟩
  · obtain ⟨-, ⟨path, cell, howns, -⟩, -, -, -, htaken⟩ :=
      record_make ⟨0, 0⟩ "HW51" (Dict.ofList [("Timestamp", .integer 5)])
    have hrival : normalizeName "Timestamp" = timestampName := by decide +kernel
    exact ⟨path, cell, howns, htaken _ _ _ (by decide)
      ⟨"Timestamp", ⟨.timestamp, .integer 5⟩, ⟨rfl, infer_of_timestamp hrival _⟩, by decide⟩ howns⟩

/-- Other spellings take both columns, and a serial number that is infinite has none. -/
theorem record_make_taken :
    (let s := Sample.make ⟨0, 0⟩ "HW51" (Dict.ofList
        [("Serial_Number", .text "FAKE"), ("Timestamp", .integer 5), ("timestamp", .integer 7)])
      let row := Sql.record s.capturedAt (inferAll s.attributes)
      s.capturedAt = ⟨7, 0⟩ ∧ s.attributes.get? serialNumberName = some (.text "HW51") ∧
        row.entries = [(serialNumberName, .text (some "FAKE")), (timestampName, .instant ⟨5, 0⟩)]) ∧
      let s := Sample.make ⟨0, 0⟩ "HW51" (Dict.ofList
        [(serialNumberName, .decimal (Binary64.infinity false))])
      s.attributes.get? serialNumberName = some (.decimal (Binary64.infinity false)) ∧
        Sql.fields (inferAll s.attributes) = [timestampName] :=
  ⟨⟨by decide +kernel, rfl, by decide +kernel⟩, rfl, by decide +kernel⟩

end PowerTelemetry.Column
