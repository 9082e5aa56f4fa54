import Mathlib.Data.List.Forall2
import PowerTelemetry.Frame.Record
import PowerTelemetry.Proofs.Column.Fields
import PowerTelemetry.Proofs.Column.Names
import PowerTelemetry.Proofs.Wire.Names
import PowerTelemetry.Proofs.Writer.Steady
/-!
# Records in storage

A `Report` is a record that a device sent.  `Report.Attribute` lists what its
sample has, attribute by attribute, each with its column and the value there, and
`Report.Holds` what its row should hold.

* `Report.get?_row_iff`: the row of a report holds what it should, and nothing
  else.
* `Report.steady_request`: the kind of each column follows from its name.
* `visits_reports`: reports that are stored one after another are all stored, and
  the rows of the table are theirs, in order.
-/

namespace PowerTelemetry.Frame

open Column (mark normalizeName serialNumberName timestampName infer)
open Sql (Datum)
open Store (Memory)
open Wire (Values Scalar Kind)

/-! ## Fields of records -/

/-- The fields of all records hold numbers, and have plain names without the mark,
none of which is that of the serial number. -/
theorem fields_regular : ∀ f ∈ heartbeatFields ++ powerFields,
    f.kind ≠ .bytes ∧ f.kind ≠ .text ∧ f.name ≠ serialNumberName ∧
      f.name.toList.all Column.isPlain ∧ Column.isMarked f.name = false := by
  decide +kernel

namespace Record

variable {r : Record} {name : String}

theorem exists_field_of_mem_present {x : Scalar} (h : (name, x) ∈ r.present) :
    ∃ f ∈ heartbeatFields ++ powerFields, f.name = name ∧
      ∃ y : f.kind.Carrier, f.kind.scalar y = x := by
  cases r with
  | heartbeat v =>
    obtain ⟨f, hf, hfield⟩ := Values.exists_field_of_mem_present h
    exact ⟨f, List.mem_append_left _ hf, hfield⟩
  | power v =>
    obtain ⟨f, hf, hfield⟩ := Values.exists_field_of_mem_present h
    exact ⟨f, List.mem_append_right _ hf, hfield⟩

theorem nodup_names_present (r : Record) : (r.present.map (·.1)).Nodup := by
  cases r with
  | heartbeat v => exact Values.nodup_names_present (by decide +kernel) v
  | power v => exact Values.nodup_names_present (by decide +kernel) v

theorem ne_serialNumberName_of_mem_present {x : Scalar} (h : (name, x) ∈ r.present) :
    name ≠ serialNumberName := by
  obtain ⟨f, hf, rfl, -⟩ := exists_field_of_mem_present h
  exact (fields_regular f hf).2.2.1

/-- The column of a field, unless it is the timestamp, gets the mark. -/
theorem normalizeName_of_mem_present {x : Scalar} (h : (name, x) ∈ r.present)
    (hother : name ≠ timestampName) : normalizeName name = mark ++ name := by
  have hserial := ne_serialNumberName_of_mem_present h
  obtain ⟨f, hf, rfl, -⟩ := exists_field_of_mem_present h
  obtain ⟨-, -, -, hplain, hmarked⟩ := fields_regular f hf
  rw [Column.normalizeName_of_isPlain hplain, hmarked, Column.isReserved]
  simp [hother, hserial]

/-- What is in a field is a number of at most 32 bits. -/
theorem exists_number_of_mem_present {x : Scalar} (h : (name, x) ∈ r.present) :
    ∃ i : Int, x = .number i ∧ -(2 ^ 31) ≤ i ∧ i < 2 ^ 32 := by
  obtain ⟨f, hf, -, y, rfl⟩ := exists_field_of_mem_present h
  obtain ⟨hbytes, htext, -⟩ := fields_regular f hf
  have hnumber : ∃ i, f.kind.scalar y = .number i := by
    generalize f.kind = k at y hbytes htext
    cases k with
    | bytes => exact absurd rfl hbytes
    | text => exact absurd rfl htext
    | _ => exact ⟨_, rfl⟩
  obtain ⟨i, hi⟩ := hnumber
  exact ⟨i, hi, Kind.number_bounds hi⟩

/-- The attribute of a number of at most 32 bits. -/
theorem attribute?_number {i : Int} (hlow : -(2 ^ 31) ≤ i) (hhigh : i < 2 ^ 32) (name : String) :
    attribute? name (.number i) =
      some (name, if name = timestampName then .timestamp ⟨i, 0⟩ else .integer (Int64.ofInt i)) := by
  have hinstant : Instant.ofUnixSeconds? i = some ⟨i, 0⟩ := by
    rw [Instant.ofUnixSeconds?, if_pos (by omega)]
  rw [attribute?, hinstant]
  split <;> rfl

/-- An attribute is called like its field. -/
theorem name_of_attribute? {x : Scalar} {a : String × Value} (h : attribute? name x = some a) :
    a.1 = name := by
  cases x with
  | number i =>
    rw [attribute?] at h
    split at h
    · obtain ⟨t, -, rfl⟩ := Option.map_eq_some_iff.mp h
      rfl
    · obtain rfl := Option.some.inj h
      rfl
  | _ => cases h

/-- Each field that is there is an attribute. -/
theorem get?_attributes_iff (r : Record) (name : String) (value : Value) :
    r.attributes.get? name = some value ↔
      ∃ i : Int, (name, .number i) ∈ r.present ∧
        value = if name = timestampName then .timestamp ⟨i, 0⟩ else .integer (Int64.ofInt i) := by
  have hnames : ((r.present.filterMap fun f => attribute? f.1 f.2).map (·.1)).Nodup := by
    refine List.pairwise_map.mpr ((List.pairwise_map.mp r.nodup_names_present).filterMap _ ?_)
    intro f g hne a ha b hb heq
    exact hne ((name_of_attribute? ha).symm.trans (heq.trans (name_of_attribute? hb)))
  rw [attributes, Dict.get?_ofList_eq_some_iff hnames, List.mem_filterMap]
  constructor
  · rintro ⟨⟨field, x⟩, hmem, hattribute⟩
    obtain ⟨i, rfl, hlow, hhigh⟩ := exists_number_of_mem_present hmem
    rw [attribute?_number hlow hhigh] at hattribute
    obtain ⟨rfl, rfl⟩ := Prod.mk.inj (Option.some.inj hattribute)
    exact ⟨i, hmem, rfl⟩
  · rintro ⟨i, hmem, rfl⟩
    obtain ⟨j, hj, hlow, hhigh⟩ := exists_number_of_mem_present hmem
    obtain rfl : i = j := Scalar.number.inj hj
    exact ⟨_, hmem, attribute?_number hlow hhigh name⟩

theorem get?_attributes_eq_none_iff (r : Record) (name : String) :
    r.attributes.get? name = none ↔ ∀ x, (name, x) ∉ r.present := by
  simp only [Option.eq_none_iff_forall_ne_some, ne_eq, get?_attributes_iff]
  constructor
  · intro h x hx
    obtain ⟨i, rfl, -⟩ := exists_number_of_mem_present hx
    exact h _ ⟨i, hx, rfl⟩
  · rintro h v ⟨i, hi, -⟩
    exact h _ hi

end Record

/-! ## Reports -/

/-- A record from a device, and when it was taken in. -/
structure Report where
  record : Record
  device : String
  now : Instant

namespace Report

/-- The request to store a report. -/
def request (destination : String) (r : Report) : StoreRequest :=
  ⟨destination, r.record.toSample r.now r.device⟩

/-- What the row of a report should hold: each field as it is, the device, and
the instant that the record tells, or else the one at which it was taken in. -/
inductive Holds (r : Report) : String → Datum → Prop where
  | field {name : String} {i : Int} {stored : Int64} (present : (name, .number i) ∈ r.record.present)
      (other : name ≠ "timestamp") (value : stored.toInt = i) :
      Holds r ("eco_" ++ name) (.integer (some stored))
  | device : Holds r "serial_number" (.text (some r.device))
  | reported {i : Int} (present : ("timestamp", .number i) ∈ r.record.present) :
      Holds r "timestamp" (.instant ⟨i, 0⟩)
  | captured (absent : ∀ x, ("timestamp", x) ∉ r.record.present) :
      Holds r "timestamp" (.instant r.now)

/-- The attributes of a report's sample, with the column and the value there of
each. -/
inductive Attribute (r : Report) : String → Value → Column → Datum → Prop where
  | field {name : String} {i : Int} (present : (name, .number i) ∈ r.record.present)
      (other : name ≠ timestampName) :
      Attribute r name (.integer (Int64.ofInt i)) ⟨mark ++ name, .integer⟩
        (.integer (some (Int64.ofInt i)))
  | device : Attribute r serialNumberName (.text r.device) ⟨serialNumberName, .text Column.textLength⟩
      (.text (some r.device))
  | reported {i : Int} (present : (timestampName, .number i) ∈ r.record.present) :
      Attribute r timestampName (.timestamp ⟨i, 0⟩) ⟨timestampName, .timestamp⟩ (.instant ⟨i, 0⟩)
  | captured (absent : ∀ x, (timestampName, x) ∉ r.record.present) :
      Attribute r timestampName (.timestamp r.now) ⟨timestampName, .timestamp⟩ (.instant r.now)

variable {r : Report} {path : String} {value : Value} {column : Column} {datum : Datum}

/-- What a report holds is what its attributes become. -/
theorem holds_iff (r : Report) (name : String) (datum : Datum) :
    r.Holds name datum ↔
      ∃ path value kind, r.Attribute path value ⟨name, kind⟩ datum := by
  constructor
  · intro h
    cases h with
    | @field name i stored hpresent hother hvalue =>
      obtain rfl : Int64.ofInt i = stored := hvalue ▸ Int64.ofInt_toInt stored
      exact ⟨_, _, _, .field hpresent hother⟩
    | device => exact ⟨_, _, _, .device⟩
    | reported hpresent => exact ⟨_, _, _, .reported hpresent⟩
    | captured habsent => exact ⟨_, _, _, .captured habsent⟩
  · rintro ⟨path, value, kind, hattribute⟩
    cases hattribute with
    | field hpresent hother =>
      obtain ⟨j, hj, hlow, hhigh⟩ := Record.exists_number_of_mem_present hpresent
      obtain rfl := Scalar.number.inj hj
      exact .field hpresent hother (Int64.toInt_ofInt_of_le (by omega) (by omega))
    | device => exact .device
    | reported hpresent => exact .reported hpresent
    | captured habsent => exact .captured habsent

/-- The attributes of a report's sample. -/
theorem get?_attributes_iff (r : Report) (destination path : String) (value : Value) :
    (r.request destination).sample.attributes.get? path = some value ↔
      ∃ column datum, r.Attribute path value column datum := by
  have hfresh : r.record.attributes.get? serialNumberName = none :=
    (r.record.get?_attributes_eq_none_iff _).mpr fun _ hx =>
      Record.ne_serialNumberName_of_mem_present hx rfl
  have hne : timestampName ≠ serialNumberName := by decide
  rw [request, Record.toSample, Sample.get?_make, hfresh, Option.getD_none]
  constructor
  · intro h
    split at h
    · rename_i hpath
      obtain rfl := Option.some.inj h
      exact hpath ▸ ⟨_, _, .device⟩
    split at h
    · rename_i hpath
      rw [hpath]
      cases hreported : r.record.attributes.get? timestampName with
      | none =>
        rw [hreported] at h
        obtain rfl := Option.some.inj h
        exact ⟨_, _, .captured ((r.record.get?_attributes_eq_none_iff _).mp hreported)⟩
      | some v =>
        rw [hreported] at h
        obtain rfl : v = value := Option.some.inj h
        obtain ⟨i, hmem, rfl⟩ := (r.record.get?_attributes_iff _ _).mp hreported
        exact ⟨_, _, .reported hmem⟩
    · rename_i hother
      obtain ⟨i, hmem, rfl⟩ := (r.record.get?_attributes_iff _ _).mp h
      rw [if_neg hother]
      exact ⟨_, _, .field hmem hother⟩
  · rintro ⟨column, datum, h⟩
    cases h with
    | @field name i hmem hother =>
      rw [if_neg (Record.ne_serialNumberName_of_mem_present hmem), if_neg hother,
        r.record.get?_attributes_iff]
      exact ⟨i, hmem, (if_neg hother).symm⟩
    | device => rw [if_pos rfl]
    | @reported i hmem =>
      have hsome := (r.record.get?_attributes_iff _ _).mpr ⟨i, hmem, rfl⟩
      rw [if_neg hne, if_pos rfl, hsome, if_pos rfl, Option.getD_some]
    | captured habsent =>
      rw [if_neg hne, if_pos rfl, (r.record.get?_attributes_eq_none_iff _).mpr habsent,
        Option.getD_none]

/-- An attribute gets its column. -/
theorem Attribute.infer_eq (h : r.Attribute path value column datum) :
    infer path value = .ok column := by
  cases h with
  | @field _ i hmem hother =>
    have hname : normalizeName path = mark ++ path :=
      Record.normalizeName_of_mem_present hmem hother
    have hne : normalizeName path ≠ timestampName :=
      hname ▸ Column.mark_append_ne_timestampName path
    have hkind : Column.kindOf path (.integer (Int64.ofInt i)) = .ok .integer := rfl
    rw [Column.infer_of_kindOf hne hkind, hname]
  | device =>
    have hname := Column.normalizeName_serialNumberName
    have hne : normalizeName serialNumberName ≠ timestampName := by
      rw [hname]
      decide
    have hkind : Column.kindOf serialNumberName (.text r.device) = .ok (.text Column.textLength) :=
      rfl
    rw [Column.infer_of_kindOf hne hkind, hname]
  | reported | captured =>
    exact Column.infer_of_timestamp Column.normalizeName_timestampName _

/-- An attribute has its value there. -/
theorem Attribute.ofCell_eq (h : r.Attribute path value column datum) (capturedAt : Instant) :
    Datum.ofCell capturedAt ⟨column.kind, value⟩ = datum := by
  cases h <;> rfl

theorem Attribute.fits (h : r.Attribute path value column datum) (hdevice : r.device.length ≤ 255) :
    value.Fits := by
  cases h with
  | device => exact hdevice
  | _ => trivial

/-- No two attributes of a report share a column. -/
theorem separate_attributes (r : Report) (destination : String) :
    Column.Separate (r.request destination).sample.attributes := by
  have hattribute {path : String}
      (h : (r.request destination).sample.attributes.contains path) :
      ∃ value column datum, r.Attribute path value column datum ∧
        column.name = normalizeName path := by
    obtain ⟨value, hvalue⟩ := Option.isSome_iff_exists.mp h
    obtain ⟨column, datum, hcell⟩ := (r.get?_attributes_iff _ _ _).mp hvalue
    exact ⟨value, column, datum, hcell, Column.name_of_infer hcell.infer_eq⟩
  intro path other hpath hother hsame
  obtain ⟨v, c, d, hc, hname⟩ := hattribute hpath
  obtain ⟨v', c', d', hc', hname'⟩ := hattribute hother
  have hcolumns : c.name = c'.name := hname.trans (hsame.trans hname'.symm)
  have htime := Column.mark_append_ne_timestampName
  have hserial := Column.mark_append_ne_serialNumberName
  have hbare : serialNumberName ≠ timestampName := by decide
  cases hc with
  | field hmem hfield =>
    cases hc' with
    | field hmem' hfield' => exact (String.append_right_inj mark).mp hcolumns
    | device => exact absurd hcolumns (hserial _)
    | reported | captured => exact absurd hcolumns (htime _)
  | device =>
    cases hc' with
    | field hmem' hfield' => exact absurd hcolumns.symm (hserial _)
    | device => rfl
    | reported | captured => exact absurd hcolumns hbare
  | reported | captured =>
    cases hc' with
    | field hmem' hfield' => exact absurd hcolumns.symm (htime _)
    | device => exact absurd hcolumns.symm hbare
    | reported | captured => rfl

/-- The row of a report holds what it should, and nothing else. -/
theorem get?_row_iff (r : Report) (destination name : String) (datum : Datum) :
    (r.request destination).row.get? name = some datum ↔ r.Holds name datum := by
  rw [StoreRequest.row, StoreRequest.cells,
    Column.get?_record_iff (r.separate_attributes destination), holds_iff]
  constructor
  · rintro ⟨path, value, kind, hvalue, hinfer, hdatum⟩
    obtain ⟨column, datum', hattribute⟩ := (r.get?_attributes_iff _ _ _).mp hvalue
    obtain rfl : column = ⟨name, kind⟩ :=
      Except.ok.inj (hattribute.infer_eq.symm.trans hinfer)
    obtain rfl : datum' = datum := (hattribute.ofCell_eq _).symm.trans hdatum
    exact ⟨path, value, kind, hattribute⟩
  · rintro ⟨path, value, kind, hattribute⟩
    exact ⟨path, value, kind, (r.get?_attributes_iff _ _ _).mpr ⟨_, _, hattribute⟩,
      hattribute.infer_eq, hattribute.ofCell_eq _⟩

/-! ## Reports that are stored -/

/-- The kind of a report's column of a name. -/
def columnKind (name : String) : ColumnKind :=
  if name = timestampName then .timestamp
  else if name = serialNumberName then .text Column.textLength
  else .integer

theorem Attribute.kind_eq (h : r.Attribute path value column datum) :
    column.kind = columnKind column.name := by
  cases h with
  | field hmem hother =>
    rw [columnKind, if_neg (Column.mark_append_ne_timestampName _),
      if_neg (Column.mark_append_ne_serialNumberName _)]
  | device => rfl
  | reported | captured => rfl

/-- Each column of a report has the kind of its name, and its values fit. -/
theorem steady_request (hdevice : r.device.length ≤ 255) (destination : String) :
    (r.request destination).Steady columnKind where
  kinds c hc := by
    obtain ⟨e, he, rfl⟩ := List.mem_map.mp hc
    obtain ⟨⟨path, value⟩, ha, hinfer, hvalue⟩ := Column.mem_inferAll he
    obtain ⟨column, datum, hattribute⟩ := (r.get?_attributes_iff destination path value).mp
      ((Dict.get?_eq_some_iff _ _ _).mpr ha)
    obtain rfl : column = ⟨e.1, e.2.kind⟩ :=
      Except.ok.inj (hattribute.infer_eq.symm.trans hinfer)
    exact hattribute.kind_eq
  fits a ha := by
    obtain ⟨column, datum, hattribute⟩ := (r.get?_attributes_iff destination a.1 a.2).mp
      ((Dict.get?_eq_some_iff _ _ _).mpr ha)
    exact hattribute.fits hdevice

end Report

/-- Reports from devices with names of at most 255 characters, stored one after
another in a table that is not there at the start.  Where no failure is to come
and nobody else acts, a writer that knows nothing false, such as one that has
just started, stores all of them.  The rows of the table are theirs, in order, and
each holds what it should, and nothing else. -/
theorem visits_reports {destination : String} {w : Writer} {m : Memory} {reports : List Report}
    (hdevices : ∀ report ∈ reports, report.device.length ≤ 255) (hw : w.known.Truthful m)
    (hcalm : m.pending = []) (habsent : m.tables.get? destination = none) :
    let r := w.visits id (reports.map fun report => ⟨report.request destination, [], []⟩) m
    r.1 = List.replicate reports.length (.ok ()) ∧
      List.Forall₂ (fun report row => ∀ name datum,
          row.get? name = some datum ↔ report.Holds name datum)
        reports (r.2.2.rows destination) := by
  have hstart : Writer.Steady Report.columnKind destination w m := by
    refine ⟨hw, hcalm, ?_⟩
    rw [Memory.table_of_absent habsent]
    exact nofun
  have hsteady : ∀ request ∈ reports.map (·.request destination),
      request.destination = destination ∧ request.Steady Report.columnKind := by
    intro request hrequest
    obtain ⟨report, hreport, rfl⟩ := List.mem_map.mp hrequest
    exact ⟨rfl, Report.steady_request (hdevices report hreport) destination⟩
  obtain ⟨hresults, hrows⟩ := hstart.visits hsteady
  have hnone : m.rows destination = [] := by rw [Memory.rows, habsent]
  rw [hnone, List.nil_append, List.map_map, List.map_map] at hrows
  rw [List.length_map, List.map_map] at hresults
  intro r
  have hrows : r.2.2.rows destination = reports.map fun report => (report.request destination).row :=
    hrows
  refine ⟨hresults, ?_⟩
  rw [hrows, List.forall₂_map_right_iff, List.forall₂_same]
  exact fun report _ name datum => report.get?_row_iff destination name datum

/-- A heartbeat that tells its instant. -/
private def datedReport : Report :=
  ⟨.heartbeat (Values.ofNames (fun name =>
      if name = "pv1_temp" then some (.number (-5))
      else if name = "timestamp" then some (.number 4294967295) else none) heartbeatFields),
    "HW51", ⟨7, 0⟩⟩

/-- An item that does not. -/
private def undatedReport : Report :=
  ⟨.power (Values.ofNames (fun name =>
      if name = "pv1_output_power" then some (.number 4294967295) else none) powerFields),
    "R331", ⟨9, 5⟩⟩

theorem visits_reports_mixed :
    (∀ report ∈ [datedReport, undatedReport], report.device.length ≤ 255) ∧
      (Writer.start Counters.empty).known.Truthful Memory.empty ∧
      Memory.empty.pending = [] ∧ Memory.empty.tables.get? "roof" = none ∧
      let r := (Writer.start Counters.empty).visits id
        ([datedReport, undatedReport].map fun report => ⟨report.request "roof", [], []⟩) Memory.empty
      r.1 = [.ok (), .ok ()] ∧
        ∃ first second : Store.Row, r.2.2.rows "roof" = [first, second] ∧
          first.get? "eco_pv1_temp" = some (.integer (some (-5))) ∧
          first.get? "timestamp" = some (.instant ⟨4294967295, 0⟩) ∧
          second.get? "eco_pv1_output_power" = some (.integer (some 4294967295)) ∧
          second.get? "timestamp" = some (.instant ⟨9, 5⟩) := by
  have hdevices : ∀ report ∈ [datedReport, undatedReport], report.device.length ≤ 255 := by decide
  have htruthful : (Writer.start Counters.empty).known.Truthful Memory.empty :=
    Reconciler.Truthful.empty Memory.empty
  have habsent : Memory.empty.tables.get? "roof" = none := rfl
  obtain ⟨hresults, hrows⟩ := visits_reports hdevices htruthful rfl habsent
  refine ⟨hdevices, htruthful, rfl, habsent, hresults, ?_⟩
  obtain ⟨first, rest, hfirst, hrest, hsplit⟩ := List.forall₂_cons_left_iff.mp hrows
  obtain ⟨second, rest', hsecond, hnil, rfl⟩ := List.forall₂_cons_left_iff.mp hrest
  obtain rfl := List.forall₂_nil_left_iff.mp hnil
  have hcold : datedReport.Holds ("eco_" ++ "pv1_temp") (.integer (some (-5))) :=
    .field (by decide +kernel : ("pv1_temp", Scalar.number (-5)) ∈ datedReport.record.present)
      (by decide) rfl
  have hsunny : undatedReport.Holds ("eco_" ++ "pv1_output_power") (.integer (some 4294967295)) :=
    .field (by decide +kernel :
        ("pv1_output_power", Scalar.number 4294967295) ∈ undatedReport.record.present)
      (by decide) rfl
  have hdated : datedReport.Holds "timestamp" (.instant ⟨4294967295, 0⟩) :=
    .reported (by decide +kernel)
  have hundated : undatedReport.Holds "timestamp" (.instant ⟨9, 5⟩) := by
    refine .captured fun x hx => ?_
    have hnone : "timestamp" ∉ undatedReport.record.present.map (·.1) := by decide +kernel
    exact hnone (List.mem_map.mpr ⟨_, hx, rfl⟩)
  exact ⟨first, second, hsplit, (hfirst _ _).mpr hcold, (hfirst _ _).mpr hdated,
    (hsecond _ _).mpr hsunny, (hsecond _ _).mpr hundated⟩

end PowerTelemetry.Frame
