/-!
# Texts as bytes

The UTF-8 bytes of a text, and back.
-/

namespace PowerTelemetry.Text

/-- The UTF-8 bytes of a text. -/
def utf8 (s : String) : List UInt8 :=
  s.toByteArray.data.toList

/-- The text with these UTF-8 bytes, if there is one. -/
def ofUtf8? (bytes : List UInt8) : Option String :=
  String.fromUTF8? ⟨bytes.toArray⟩

/-- The bytes of a text give the text back. -/
@[simp] theorem ofUtf8?_utf8 (s : String) : ofUtf8? (utf8 s) = some s := by
  simp only [ofUtf8?, utf8, Array.toArray_toList]
  unfold String.fromUTF8?
  rw [dif_pos s.isValidUTF8]
  rfl

/-- The bytes of a text are those of its characters. -/
theorem utf8_eq_flatMap (s : String) : utf8 s = s.toList.flatMap String.utf8EncodeChar := by
  rw [utf8, ← s.utf8Encode_toList]
  simp [List.utf8Encode]

/-- Bytes that are a text are those of this text. -/
theorem eq_utf8_of_ofUtf8? {bytes : List UInt8} {s : String} (h : ofUtf8? bytes = some s) :
    bytes = utf8 s := by
  simp only [ofUtf8?, String.fromUTF8?] at h
  split at h
  · obtain rfl := Option.some.inj h
    rfl
  · cases h

/-- A byte below 128 is a character of its own, never a part of a longer one. -/
theorem exists_char_of_mem_utf8 {s : String} {b : UInt8} (hb : b.toNat < 128) (h : b ∈ utf8 s) :
    ∃ c ∈ s.toList, c.toNat = b.toNat := by
  rw [utf8_eq_flatMap, List.mem_flatMap] at h
  obtain ⟨c, hc, hmem⟩ := h
  refine ⟨c, hc, ?_⟩
  have hvalue : c.val.toNat = c.toNat := rfl
  simp only [String.utf8EncodeChar, hvalue] at hmem
  have hlong : ∀ k, 128 ≤ k → k < 256 → b ≠ UInt8.ofNat k := by
    rintro k hle hlt rfl
    rw [UInt8.toNat_ofNat_of_lt' hlt] at hb
    omega
  split at hmem
  · rename_i hshort
    obtain rfl := List.mem_singleton.mp hmem
    rw [UInt8.toNat_ofNat_of_lt' (Nat.lt_of_le_of_lt hshort (by decide))]
  -- In a longer character all bytes are 128 or more.
  all_goals grind

end PowerTelemetry.Text
