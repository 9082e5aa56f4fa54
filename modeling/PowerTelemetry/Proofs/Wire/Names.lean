import Mathlib.Algebra.Group.Int.Defs
import Mathlib.Data.List.Nodup
import PowerTelemetry.Proofs.Wire.Writing
/-!
# Fields by their names

`Values.present` lists the fields of a message that are there.  What it lists comes
from the field list (`exists_field_of_mem_present`), no name twice if no two
fields share one (`nodup_names_present`), and takes room among the bytes of the
message: its key (`exists_key_of_mem_present`) and its content
(`length_le_write_of_mem_present`).
-/

namespace PowerTelemetry.Wire

/-- The bytes that a value holds are among those that it is written to. -/
theorem Kind.length_le_write {k : Kind} {x : k.Carrier} {content : List UInt8}
    (h : k.scalar x = .bytes content) : content.length ≤ (k.write x).length := by
  cases k with
  | bytes =>
    obtain rfl := Scalar.bytes.inj h
    exact length_le_writeDelimited x
  | _ => cases h

/-- A number in a field has at most 32 bits, with or without a sign. -/
theorem Kind.number_bounds {k : Kind} {x : k.Carrier} {i : Int} (h : k.scalar x = .number i) :
    -(2 ^ 31) ≤ i ∧ i < 2 ^ 32 := by
  have hsigned : ∀ j : Int32, -(2 ^ 31) ≤ j.toInt ∧ j.toInt < 2 ^ 32 := by
    intro j
    have hle := j.le_toInt
    have hlt := j.toInt_lt
    omega
  cases k with
  | int32 =>
    obtain rfl := Scalar.number.inj h
    exact hsigned x
  | sint32 =>
    obtain rfl := Scalar.number.inj h
    exact hsigned x
  | uint32 =>
    obtain rfl := Scalar.number.inj h
    have hlt := UInt32.toNat_lt x
    omega
  | _ => cases h

namespace Values

theorem mem_of_get? {fs : List Field} {v : Values fs} {name : String} {x : Scalar}
    (h : v.get? name = some x) : (name, x) ∈ present fs v := by
  obtain ⟨before, after, hsplit, _⟩ := List.lookup_eq_some_iff.mp h
  rw [hsplit]
  exact List.mem_append_right before List.mem_cons_self

/-- A field that is there is one of the field list. -/
theorem exists_field_of_mem_present {fs : List Field} {v : Values fs} {name : String} {x : Scalar}
    (h : (name, x) ∈ present fs v) :
    ∃ f ∈ fs, f.name = name ∧ ∃ y : f.kind.Carrier, f.kind.scalar y = x := by
  induction fs with
  | nil => cases h
  | cons f fs ih =>
    obtain ⟨y, w⟩ := v
    have htail : (name, x) ∈ present fs w →
        ∃ g ∈ f :: fs, g.name = name ∧ ∃ z : g.kind.Carrier, g.kind.scalar z = x := by
      intro hw
      obtain ⟨g, hg, hsame⟩ := ih hw
      exact ⟨g, List.mem_cons_of_mem _ hg, hsame⟩
    cases y with
    | none => exact htail h
    | some y =>
      rcases List.mem_cons.mp h with hhead | hw
      · obtain ⟨rfl, rfl⟩ := Prod.mk.inj hhead
        exact ⟨f, List.mem_cons_self, rfl, y, rfl⟩
      · exact htail hw

/-- The names of the fields that are there are some of all names, in their
order. -/
theorem names_present_sublist {fs : List Field} (v : Values fs) :
    ((present fs v).map (·.1)).Sublist (fs.map (·.name)) := by
  induction fs with
  | nil => exact List.Sublist.refl _
  | cons f fs ih =>
    obtain ⟨y, w⟩ := v
    cases y with
    | none => exact (ih w).cons f.name
    | some y => exact (ih w).cons_cons f.name

theorem nodup_names_present {fs : List Field} (h : (fs.map (·.name)).Nodup) (v : Values fs) :
    ((present fs v).map (·.1)).Nodup :=
  h.sublist (names_present_sublist v)

/-- The bytes in a field are among those of the written message. -/
theorem length_le_write_of_mem_present {fs : List Field} {v : Values fs} {name : String}
    {content : List UInt8} (h : (name, .bytes content) ∈ present fs v) :
    content.length ≤ (write fs v).length := by
  induction fs with
  | nil => cases h
  | cons f fs ih =>
    obtain ⟨y, w⟩ := v
    cases y with
    | none => exact ih h
    | some y =>
      simp only [write, List.length_append]
      rcases List.mem_cons.mp h with hhead | htail
      · have hle := Kind.length_le_write (Prod.mk.inj hhead).2.symm
        omega
      · have hle := ih htail
        omega

/-- The key of a field that is there is among the bytes of the written message. -/
theorem exists_key_of_mem_present {fs : List Field} {v : Values fs} {name : String} {x : Scalar}
    (h : (name, x) ∈ present fs v) :
    ∃ f ∈ fs, f.name = name ∧ writeKey f.number f.kind.wire ⊆ write fs v := by
  induction fs with
  | nil => cases h
  | cons f fs ih =>
    obtain ⟨y, w⟩ := v
    cases y with
    | none =>
      obtain ⟨g, hg, hname, hkey⟩ := ih h
      exact ⟨g, List.mem_cons_of_mem f hg, hname, hkey⟩
    | some y =>
      simp only [write, List.append_assoc]
      rcases List.mem_cons.mp h with hhead | htail
      · exact ⟨f, List.mem_cons_self, (Prod.mk.inj hhead).1.symm,
          List.subset_append_left _ _⟩
      · obtain ⟨g, hg, hname, hkey⟩ := ih htail
        refine ⟨g, List.mem_cons_of_mem f hg, hname, ?_⟩
        intro b hb
        exact List.mem_append_right _ (List.mem_append_right _ (hkey hb))

theorem length_bytes_le {fs : List Field} (v : Values fs) (name : String) :
    (v.bytes name).length ≤ (write fs v).length := by
  rw [bytes]
  split
  · rename_i hget
    exact length_le_write_of_mem_present (mem_of_get? hget)
  · exact Nat.zero_le _

end Values

end PowerTelemetry.Wire
