import PowerTelemetry.Column
import PowerTelemetry.Proofs.Text.Lowercase
/-!
# Names of columns

A plain name has small letters, digits and underscores only.  It is lower-case and
without points already, so its column gets the mark in front of it or has the name
itself (`normalizeName_of_isPlain`).
-/

namespace PowerTelemetry.Column

/-- A character of plain names: a small letter, a digit or an underscore. -/
def isPlain (c : Char) : Bool :=
  c.isLower || c.isDigit || c == '_'

theorem toNat_of_isPlain {c : Char} (h : isPlain c) :
    (97 ≤ c.toNat ∧ c.toNat ≤ 122) ∨ (48 ≤ c.toNat ∧ c.toNat ≤ 57) ∨ c.toNat = 95 := by
  have hlower : c.isLower = (decide (c.val ≥ 'a'.val) && decide (c.val ≤ 'z'.val)) := rfl
  simp only [isPlain, hlower, Char.isDigit, Bool.or_eq_true, Bool.and_eq_true, decide_eq_true_eq,
    beq_iff_eq, ge_iff_le, UInt32.le_iff_toNat_le] at h
  rcases h with (h | h) | rfl
  · exact .inl h
  · exact .inr (.inl h)
  · exact .inr (.inr rfl)

theorem isLowered_of_isPlain {c : Char} (h : isPlain c) : Text.IsLowered c := by
  have hrange := toNat_of_isPlain h
  refine ⟨?_, ?_⟩
  · have hnot : ¬ (c.val ≥ 'A'.val ∧ c.val ≤ 'Z'.val) := by
      rw [ge_iff_le, UInt32.le_iff_toNat_le, UInt32.le_iff_toNat_le]
      change ¬ (65 ≤ c.toNat ∧ c.toNat ≤ 90)
      omega
    rw [Text.lowerChar, if_pos (by omega)]
    exact dif_neg hnot
  · rintro rfl
    exact absurd hrange (by decide)

/-- A name without capital letters and points stays as it is. -/
theorem plainName_of_isLowered {s : String} (h : ∀ c ∈ s.toList, Text.IsLowered c ∧ c ≠ '.') :
    plainName s = s := by
  have hdots : s.toList.map (fun c => if c = '.' then '_' else c) = s.toList :=
    (List.map_congr_left fun c hc => if_neg (h c hc).2).trans (List.map_id _)
  rw [plainName, Text.lowercase, Text.lowerAfter_of_isLowered fun c hc => (h c hc).1,
    String.toList_ofList, hdots, String.ofList_toList]

theorem plainName_of_isPlain {s : String} (h : s.toList.all isPlain) : plainName s = s := by
  refine plainName_of_isLowered fun c hc => ?_
  have hplain := List.all_eq_true.mp h c hc
  refine ⟨isLowered_of_isPlain hplain, ?_⟩
  rintro rfl
  exact absurd (toNat_of_isPlain hplain) (by decide)

/-- The column of an attribute with a plain name. -/
theorem normalizeName_of_isPlain {s : String} (h : s.toList.all isPlain) :
    normalizeName s = if isReserved s || isMarked s then s else mark ++ s := by
  rw [normalizeName, plainName_of_isPlain h]

@[simp]
theorem normalizeName_timestampName : normalizeName timestampName = timestampName := by
  rw [normalizeName_of_isPlain (by decide +kernel), isReserved, beq_self_eq_true, Bool.true_or,
    Bool.true_or, if_pos rfl]

@[simp]
theorem normalizeName_serialNumberName : normalizeName serialNumberName = serialNumberName := by
  rw [normalizeName_of_isPlain (by decide +kernel), isReserved, beq_self_eq_true, Bool.or_true,
    Bool.true_or, if_pos rfl]

/-- A marked name is none of the bare ones. -/
theorem mark_append_ne {bare : String} (h : bare.toList.head? ≠ mark.toList.head?) (s : String) :
    mark ++ s ≠ bare := by
  rintro rfl
  rw [String.toList_append] at h
  exact h rfl

theorem mark_append_ne_timestampName (s : String) : mark ++ s ≠ timestampName :=
  mark_append_ne (by decide) s

theorem mark_append_ne_serialNumberName (s : String) : mark ++ s ≠ serialNumberName :=
  mark_append_ne (by decide) s

/-! ## Columns by their names -/

theorem infer_of_timestamp {path : String} (h : normalizeName path = timestampName)
    (value : Value) : infer path value = .ok ⟨timestampName, .timestamp⟩ := by
  rw [infer, h, if_pos rfl]

theorem infer_of_kindOf {path : String} {value : Value} {kind : ColumnKind}
    (h : normalizeName path ≠ timestampName) (hkind : kindOf path value = .ok kind) :
    infer path value = .ok ⟨normalizeName path, kind⟩ := by
  rw [infer, if_neg h, hkind]
  rfl

end PowerTelemetry.Column
