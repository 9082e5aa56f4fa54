import PowerTelemetry.Destination
import PowerTelemetry.Frame.Record
import PowerTelemetry.Proofs.Text.Lowercase
import Mathlib.Data.List.Infix
/-!
# Who shares a table

Unless there is one table for all, the name of a table has three parts: what the stream
puts in front, the serial number in lower case, and the ending of the stream.  The parts
meet at underscores, where words end, so each of them is lowered by itself (`table_eq`).

No ending is the end of another one (`ending_suffix_iff`).  So a name tells its stream,
whatever the serial numbers and the lead are made of, and then it tells the serial number
up to case.  `table_separates` is the result.
-/

namespace PowerTelemetry.Naming

/-! ## Streams -/

/-- The streams of a device: the JSON messages that it pushes, the snapshots that it is
polled for, and two kinds of decoded records. -/
inductive Stream where
  | pushed
  | polled
  | heartbeat
  | power
  deriving DecidableEq, Repr

namespace Stream

/-- The stream of a record. -/
def ofRecord : Frame.Record → Stream
  | .heartbeat _ => heartbeat
  | .power _ => power

/-- What the tables of a stream end with. -/
def ending : Stream → String
  | pushed => "mqtt"
  | polled => "quota"
  | heartbeat => "inverterheartbeat"
  | power => "poweritem"

theorem lowercase_ending (s : Stream) : Text.lowercase s.ending = s.ending := by
  cases s <;> decide +kernel

/-- An ending with its underscore is the end of no other one. -/
theorem ending_suffix_iff (s t : Stream) :
    ('_' :: s.ending.toList) <:+ ('_' :: t.ending.toList) ↔ s = t := by
  cases s <;> cases t <;> decide

end Stream

/-- The table of a stream of a device. -/
def table (n : Naming) (s : Stream) (serialNumber : String) : String :=
  match s with
  | .pushed => n.push serialNumber
  | .polled => n.quota serialNumber
  | .heartbeat => n.record serialNumber "inverterheartbeat"
  | .power => n.record serialNumber "poweritem"

/-- Records go to the tables of their streams. -/
theorem record_kind (n : Naming) (r : Frame.Record) (serialNumber : String) :
    n.record serialNumber r.kind = n.table (.ofRecord r) serialNumber := by
  cases r <;> rfl

/-! ## Names in parts -/

variable {n : Naming}

/-- What a stream puts in front of a serial number. -/
def front (n : Naming) : Stream → String
  | .pushed => ""
  | .polled => "device_"
  | .heartbeat | .power => if n.lead.isEmpty then "" else Text.lowercase n.lead ++ "_"

theorem route_of_unshared (h : n.shared = none) (name : String) :
    n.route name = Text.lowercase name := by
  rw [route, h, Option.getD_none]

theorem push_of_unshared (h : n.shared = none) (serialNumber : String) :
    n.push serialNumber = Text.lowercase serialNumber ++ "_" ++ Text.lowercase "mqtt" := by
  have hparts : serialNumber ++ "_mqtt" = serialNumber ++ "_" ++ "mqtt" := by
    simp [← String.toList_inj]
  rw [push, route_of_unshared h, hparts, Text.lowercase_underscore]

theorem quota_of_unshared (h : n.shared = none) (serialNumber : String) :
    n.quota serialNumber =
      Text.lowercase "device" ++ "_" ++ Text.lowercase serialNumber ++ "_"
        ++ Text.lowercase "quota" := by
  have hparts : "device_" ++ serialNumber ++ "_quota"
      = "device" ++ "_" ++ serialNumber ++ "_" ++ "quota" := by
    simp [← String.toList_inj]
  rw [quota, route_of_unshared h, hparts, Text.lowercase_underscore, Text.lowercase_underscore]

theorem record_of_unshared (h : n.shared = none) (serialNumber kind : String) :
    n.record serialNumber kind =
      (if n.lead.isEmpty then "" else Text.lowercase n.lead ++ "_")
        ++ Text.lowercase serialNumber ++ "_" ++ Text.lowercase kind := by
  simp only [record, route_of_unshared h]
  split
  · rw [Text.lowercase_underscore, String.empty_append]
  · rw [Text.lowercase_underscore, Text.lowercase_underscore]
    simp only [String.append_assoc]

/-- The name of a table has the lower-case form of the serial number between two parts
that do not depend on it. -/
theorem table_eq (h : n.shared = none) (s : Stream) (serialNumber : String) :
    n.table s serialNumber =
      n.front s ++ Text.lowercase serialNumber ++ "_" ++ s.ending := by
  have hending : Text.lowercase s.ending = s.ending := s.lowercase_ending
  have hdevice : Text.lowercase "device" ++ "_" = "device_" := by decide +kernel
  rw [← hending]
  cases s with
  | pushed => rw [table, push_of_unshared h, front, String.empty_append]; rfl
  | polled => rw [table, quota_of_unshared h, front, hdevice]; rfl
  | heartbeat => rw [table, record_of_unshared h]; rfl
  | power => rw [table, record_of_unshared h]; rfl

/-- The ending of a stream is what its tables end with. -/
theorem ending_suffix_table (h : n.shared = none) (s : Stream) (serialNumber : String) :
    ('_' :: s.ending.toList) <:+ (n.table s serialNumber).toList := by
  refine ⟨(n.front s ++ Text.lowercase serialNumber).toList, ?_⟩
  rw [table_eq h]
  simp

/-- A table is of one stream. -/
theorem stream_eq_of_table_eq (h : n.shared = none) {s t : Stream} {a b : String}
    (hname : n.table s a = n.table t b) : s = t := by
  have hs := ending_suffix_table h s a
  have ht := ending_suffix_table h t b
  rw [hname] at hs
  -- one name has two endings, so one of them is the end of the other
  rcases List.suffix_or_suffix_of_suffix hs ht with hin | hin
  · exact (Stream.ending_suffix_iff s t).mp hin
  · exact ((Stream.ending_suffix_iff t s).mp hin).symm

/-- The tables of one stream tell serial numbers apart, up to case. -/
theorem table_inj (h : n.shared = none) (s : Stream) (a b : String) :
    n.table s a = n.table s b ↔ Text.lowercase a = Text.lowercase b := by
  rw [table_eq h, table_eq h]
  simp only [← String.toList_inj, String.toList_append, List.append_cancel_right_eq,
    List.append_cancel_left_eq]

/-! ## All namings -/

theorem lowercase_route (n : Naming) (name : String) :
    Text.lowercase (n.route name) = n.route name :=
  Text.lowercase_lowercase _

theorem route_of_shared {shared : String} (h : n.shared = some shared) (name : String) :
    n.route name = Text.lowercase shared := by
  rw [route, h, Option.getD_some]

theorem exists_route_of_mem {name serialNumber kind : String}
    (h : name ∈ [n.push serialNumber, n.quota serialNumber, n.record serialNumber kind]) :
    ∃ long, name = n.route long := by
  simp only [List.mem_cons, List.not_mem_nil, or_false] at h
  rcases h with rfl | rfl | rfl <;> exact ⟨_, rfl⟩

/-- Two tables have the same name only if they are for the same stream and for serial
numbers that differ in case at most, unless there is one table for all: then every name
is that of this table.  All names are in lower case. -/
theorem table_separates (n : Naming) :
    (n.shared = none → ∀ (s t : Stream) (a b : String),
      n.table s a = n.table t b ↔ s = t ∧ Text.lowercase a = Text.lowercase b) ∧
    ∀ serialNumber kind,
      ∀ name ∈ [n.push serialNumber, n.quota serialNumber, n.record serialNumber kind],
        Text.lowercase name = name ∧
          ∀ shared, n.shared = some shared → name = Text.lowercase shared := by
  refine ⟨fun h s t a b => ⟨fun hname => ?_, ?_⟩, fun serialNumber kind name hname => ?_⟩
  · obtain rfl := stream_eq_of_table_eq h hname
    exact ⟨rfl, (table_inj h s a b).mp hname⟩
  · rintro ⟨rfl, hcase⟩
    exact (table_inj h s a b).mpr hcase
  · obtain ⟨long, rfl⟩ := exists_route_of_mem hname
    exact ⟨n.lowercase_route long, fun shared h => route_of_shared h long⟩

/-- Two devices that a lead and a serial number with underscores could mix up, a sigma
whose lower-case form depends on what follows it, and a table for all. -/
theorem table_separates_lookalikes :
    ((⟨"device", none⟩ : Naming).table .heartbeat "X_QUOTA_ΟΔΟΣ" ≠
        (⟨"device", none⟩ : Naming).table .polled "X" ∧
      (⟨"device", none⟩ : Naming).table .polled "ΟΔΟΣ" =
        (⟨"device", none⟩ : Naming).table .polled "οδος") ∧
    (⟨"device", some "EcoAll"⟩ : Naming).record "X" "mqtt" = "ecoall" := by
  have hunshared := (table_separates ⟨"device", none⟩).1 rfl
  have hshared := (table_separates ⟨"device", some "EcoAll"⟩).2 "X" "mqtt" _
    (List.mem_cons_of_mem _ (List.mem_cons_of_mem _ List.mem_cons_self))
  refine ⟨⟨fun h => ?_, (hunshared _ _ _ _).mpr ⟨rfl, by decide +kernel⟩⟩, ?_⟩
  · exact absurd ((hunshared _ _ _ _).mp h).1 (by decide)
  · rw [hshared.2 "EcoAll" rfl]
    decide +kernel

end PowerTelemetry.Naming
