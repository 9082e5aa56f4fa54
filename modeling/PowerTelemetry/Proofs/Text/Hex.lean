import PowerTelemetry.Text.Hex
/-!
# Hexadecimal digits
-/

namespace PowerTelemetry.Text

/-- The characters that are digits. -/
theorem hexDigit?_cases {c : Char} {k : Nat} (h : hexDigit? c = some k) :
    '0' ≤ c ∧ c ≤ '9' ∨ 'a' ≤ c ∧ c ≤ 'f' ∨ 'A' ≤ c ∧ c ≤ 'F' := by
  simp only [hexDigit?] at h
  grind

/-- A number is made of digits. -/
theorem exists_hexDigit?_of_hexNumber? {digits : List Char} {k : Nat}
    (h : hexNumber? digits = some k) : ∀ c ∈ digits, ∃ v, hexDigit? c = some v := by
  rw [hexNumber?] at h
  -- The number so far does not matter.
  generalize 0 = sofar at h
  induction digits generalizing sofar with
  | nil => simp
  | cons c digits ih =>
    simp only [List.foldlM_cons, Option.bind_eq_bind, Option.bind_eq_some_iff,
      Option.map_eq_some_iff] at h
    obtain ⟨next, ⟨v, hc, -⟩, hdigits⟩ := h
    intro d hd
    rcases List.mem_cons.mp hd with rfl | hd
    · exact ⟨v, hc⟩
    · exact ih next hdigits d hd

end PowerTelemetry.Text
