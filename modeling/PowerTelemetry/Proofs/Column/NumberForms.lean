import Mathlib.Tactic.NormNum.Eq
import PowerTelemetry.Json.Reader
import PowerTelemetry.Proofs.Column.Numbers
/-!
# The forms of a number

A JSON number keeps the form it was written in, and `JsonNumber.value?` is the rational
number that it denotes.  Readings come as `4` and as `4.0`, so the form should not matter
for the value and the column.

* A double is found again from its number, unless this is zero (`Binary64.eq_of_value?`).
  So numbers that are no integers of 64 bits have one value as well
  (`Value.ofNumber_eq`).
* The least integer of 64 bits is the one exception: as an integer it is one, but the double
  of the same number is not integral, since its magnitude is `2^63`.  `ofJson_forms` puts
  this together, and `not_ofJson_forms_least` shows it in two texts.
-/

namespace PowerTelemetry

/-! ## Doubles of a number -/

namespace Binary64

variable {x y : Binary64} {v : ℚ}

/-- Two doubles of the same number other than zero are the same double. -/
theorem eq_of_value? (hx : x.value? = some v) (hy : y.value? = some v) (hne : v ≠ 0) : x = y := by
  rw [value?_eq_signedSteps (isFinite_of_value? hx), Option.some.injEq] at hx
  rw [value?_eq_signedSteps (isFinite_of_value? hy), Option.some.injEq] at hy
  have hsteps : signedSteps x.key = signedSteps y.key := by
    exact_mod_cast mul_right_cancel₀ step_pos.ne' (hx.trans hy.symm)
  have hkey : x.key = y.key :=
    le_antisymm (signedSteps_le_iff.mp hsteps.le) (signedSteps_le_iff.mp hsteps.ge)
  have hzero : x.key ≠ 0 := by
    intro h
    rw [h] at hx
    exact hne (by rw [← hx]; simp [signedSteps, steps_zero])
  -- The key is the magnitude with its sign, which are all bits unless it is zero.
  have hbits : x.bits.toNat = y.bits.toNat := by
    have hlt := x.bits.toNat_lt
    have hlt' := y.bits.toNat_lt
    simp only [key, negative, pow_sixty_three, decide_eq_true_eq] at hkey hzero
    split at hkey <;> split at hkey <;> omega
  calc x = ⟨x.bits⟩ := rfl
    _ = ⟨y.bits⟩ := congrArg _ (UInt64.toNat_inj.mp hbits)
    _ = y := rfl

/-- The magnitude of a double is one. -/
theorem representable_of_value? (h : x.value? = some v) : Representable |v| := by
  obtain ⟨s, m, q, hmeaning, rfl⟩ := exists_meaning_of_value? h
  have hfield := exponentField_lt_of_isFinite (isFinite_of_value? h)
  obtain ⟨m', q', hmeaning', hm, hq, -⟩ := meaning_of_exponentField_lt hfield
  obtain ⟨-, rfl, rfl⟩ := Meaning.finite.inj (hmeaning.symm.trans hmeaning')
  refine ⟨m, q, hm, by omega, by omega, ?_⟩
  rw [abs_signed, abs_of_nonneg (mul_nonneg (Nat.cast_nonneg _) (zpow_pos two_pos _).le)]

/-- A natural number that some double denotes is rounded to this double. -/
theorem ofNat_eq_of_value? {n : ℕ} (h : x.value? = some (n : ℚ)) (hne : n ≠ 0) : ofNat n = x := by
  have hrepresentable := representable_of_value? h
  rw [Nat.abs_cast] at hrepresentable
  exact eq_of_value? (value?_ofNat hrepresentable) h (Nat.cast_ne_zero.mpr hne)

end Binary64

/-! ## Numbers of JSON -/

namespace JsonNumber

/-- The rational number that a number denotes, in whichever form. -/
def value? : JsonNumber → Option ℚ
  | natural n => some n.toNat
  | negative i => some i.toInt
  | float x => x.value?

/-- Written as a double. -/
def isFloat : JsonNumber → Bool
  | float _ => true
  | natural _ | negative _ => false

end JsonNumber

namespace Value

variable {a b : JsonNumber} {q : ℚ}

/-- A number that denotes an integer below `2^63` in magnitude becomes it. -/
theorem ofNumber_of_integer {i : Int64} (path : String) (h : a.value? = some (i.toInt : ℚ))
    (hlt : i.toInt.natAbs < 2 ^ 63) : ofNumber path a = .ok (.integer i) := by
  cases a with
  | natural n =>
    have hn : (n.toNat : Int) = i.toInt := by exact_mod_cast Option.some.inj h
    have hi : Int64.ofNat n.toNat = i := by
      rw [← Int64.toInt_inj, Int64.toInt_ofNat_of_lt (by omega), hn]
    rw [ofNumber, if_pos (by rw [Binary64.pow_sixty_three]; omega), hi]
  | negative j =>
    have hj : j.toInt = i.toInt := by exact_mod_cast Option.some.inj h
    rw [ofNumber, Int64.toInt_inj.mp hj]
  | float x =>
    have hintegral := (Binary64.isIntegral_iff x).mpr ⟨_, h, hlt⟩
    have hi : x.toInt64 = i := Int64.toInt_inj.mp (Binary64.toInt_toInt64 h hlt)
    rw [ofNumber, Column.ofBinary64_of_isIntegral path hintegral, hi]

/-- A natural number beyond the integers becomes the double that denotes it. -/
theorem ofNumber_natural_eq_float {n : UInt64} {x : Binary64} (path : String)
    (hn : 2 ^ 63 ≤ n.toNat) (hx : x.value? = some (n.toNat : ℚ)) :
    ofNumber path (.natural n) = ofNumber path (.float x) := by
  have hlarge : ¬n.toNat < Nat.pow 2 63 := by rw [Binary64.pow_sixty_three]; omega
  rw [ofNumber, if_neg hlarge, Binary64.ofNat_eq_of_value? hx (by omega), ofNumber]

/-- Numbers that denote the same have the same value, unless they are the least integer in
two forms. -/
theorem ofNumber_eq (path : String) (ha : a.value? = some q) (hb : b.value? = some q)
    (h : a.isFloat = b.isFloat ∨ q ≠ -2 ^ 63) : ofNumber path a = ofNumber path b := by
  by_cases hinteger : ∃ i : Int64, q = (i.toInt : ℚ) ∧ i.toInt.natAbs < 2 ^ 63
  · obtain ⟨i, rfl, hlt⟩ := hinteger
    rw [ofNumber_of_integer path ha hlt, ofNumber_of_integer path hb hlt]
  · -- Naturals are beyond the integers here, and the only integer that is left is the least.
    have hnatural {n : UInt64} (hn : (n.toNat : ℚ) = q) : 2 ^ 63 ≤ n.toNat := by
      by_contra hlt
      have hi : (Int64.ofNat n.toNat).toInt = n.toNat := Int64.toInt_ofNat_of_lt (by omega)
      exact hinteger ⟨.ofNat n.toNat, by rw [hi, ← hn, Int.cast_natCast], by omega⟩
    have hleast {i : Int64} (hi : (i.toInt : ℚ) = q) : i.toInt = -2 ^ 63 := by
      have hlow := i.le_toInt
      have hhigh := i.toInt_lt
      by_contra hne
      exact hinteger ⟨i, hi.symm, by omega⟩
    rcases a with m | i | x <;> rcases b with n | j | y
    case natural.natural =>
      have hsame : m.toNat = n.toNat := by exact_mod_cast Option.some.inj (ha.trans hb.symm)
      rw [UInt64.toNat_inj.mp hsame]
    case natural.float =>
      have hm := Option.some.inj ha
      exact ofNumber_natural_eq_float path (hnatural hm) (hm ▸ hb)
    case float.natural =>
      have hn := Option.some.inj hb
      exact (ofNumber_natural_eq_float path (hnatural hn) (hn ▸ ha)).symm
    case negative.negative =>
      have hsame : i.toInt = j.toInt := by exact_mod_cast Option.some.inj (ha.trans hb.symm)
      rw [Int64.toInt_inj.mp hsame]
    case float.float =>
      have hne : q ≠ 0 := fun hzero => hinteger ⟨0, by simp [hzero], by decide⟩
      rw [Binary64.eq_of_value? ha hb hne]
    case natural.negative =>
      have hm := hnatural (Option.some.inj ha)
      have hj := hleast (Option.some.inj hb)
      have hsame : (m.toNat : Int) = j.toInt := by exact_mod_cast Option.some.inj (ha.trans hb.symm)
      omega
    case negative.natural =>
      have hn := hnatural (Option.some.inj hb)
      have hi := hleast (Option.some.inj ha)
      have hsame : i.toInt = (n.toNat : Int) := by exact_mod_cast Option.some.inj (ha.trans hb.symm)
      omega
    case negative.float =>
      have hq : (i.toInt : ℚ) = q := Option.some.inj ha
      rw [hleast hq] at hq
      exact absurd (by rw [← hq]; norm_cast) (h.resolve_left Bool.false_ne_true)
    case float.negative =>
      have hq : (j.toInt : ℚ) = q := Option.some.inj hb
      rw [hleast hq] at hq
      exact absurd (by rw [← hq]; norm_cast) (h.resolve_left Bool.false_ne_true.symm)

/-! ## Values and columns -/

/-- A value with a kind has a column. -/
theorem exists_infer_of_kindOf {path : String} {value : Value} {kind : ColumnKind}
    (h : Column.kindOf path value = .ok kind) : ∃ column, Column.infer path value = .ok column := by
  by_cases hname : Column.normalizeName path = Column.timestampName
  · exact ⟨_, Column.infer_of_timestamp hname value⟩
  · exact ⟨_, Column.infer_of_kindOf hname h⟩

theorem exists_kindOf_ofBinary64 {x : Binary64} (path : String) (h : x.isFinite) :
    ∃ value kind, ofBinary64 path x = .ok value ∧ Column.kindOf path value = .ok kind := by
  cases hintegral : x.isIntegral with
  | true => exact ⟨_, .integer, Column.ofBinary64_of_isIntegral path hintegral, rfl⟩
  | false =>
    exact ⟨_, _, Column.ofBinary64_of_not_isIntegral path h hintegral,
      Column.kindOf_of_not_isIntegral path h hintegral⟩

/-- What denotes a number has a value and a column. -/
theorem exists_infer_ofNumber (path : String) (h : a.value? = some q) :
    ∃ value column, ofNumber path a = .ok value ∧ Column.infer path value = .ok column := by
  obtain ⟨value, kind, hvalue, hkind⟩ : ∃ value kind,
      ofNumber path a = .ok value ∧ Column.kindOf path value = .ok kind := by
    cases a with
    | natural n =>
      rw [ofNumber]
      split
      · exact ⟨_, .integer, rfl, rfl⟩
      · exact exists_kindOf_ofBinary64 path (Binary64.isFinite_ofNat n.toNat_lt)
    | negative i => exact ⟨_, .integer, rfl, rfl⟩
    | float x => exact exists_kindOf_ofBinary64 path (Binary64.isFinite_of_value? h)
  obtain ⟨column, hcolumn⟩ := exists_infer_of_kindOf hkind
  exact ⟨value, column, hvalue, hcolumn⟩

/-- A double of magnitude `2^63` or more stays a decimal. -/
theorem ofBinary64_of_large {x : Binary64} (path : String) (h : x.value? = some q)
    (hlarge : 2 ^ 63 ≤ |q|) :
    ofBinary64 path x = .ok (.decimal x) ∧ Column.kindOf path (.decimal x) = .ok .decimal := by
  have hintegral : x.isIntegral = false := by
    rw [← Bool.not_eq_true, Binary64.isIntegral_iff]
    rintro ⟨n, hn, hlt⟩
    obtain rfl := Option.some.inj (h.symm.trans hn)
    rw [← Int.cast_abs, Int.abs_eq_natAbs] at hlarge
    have hle : 2 ^ 63 ≤ n.natAbs := by exact_mod_cast hlarge
    omega
  have hfinite := Binary64.isFinite_of_value? h
  exact ⟨Column.ofBinary64_of_not_isIntegral path hfinite hintegral,
    Column.kindOf_of_not_isIntegral path hfinite hintegral⟩

/-- Numbers that denote the same have the same value and the same column, in whichever form
they were written, but for the least integer of 64 bits: written as an integer it is one,
and written as a double it is a decimal. -/
theorem ofJson_forms (path : String) (ha : a.value? = some q) (hb : b.value? = some q) :
    ∃ v w c d, ofJson path (.number a) = .ok v ∧ ofJson path (.number b) = .ok w ∧
      Column.infer path v = .ok c ∧ Column.infer path w = .ok d ∧
      (a.isFloat = b.isFloat ∨ q ≠ -2 ^ 63 → v = w ∧ c = d) ∧
      (a.isFloat = false → b.isFloat = true → q = -2 ^ 63 →
        v = .integer Int64.minValue ∧ (∃ x, b = .float x ∧ w = .decimal x) ∧
        (Column.normalizeName path ≠ Column.timestampName →
          c.kind = .integer ∧ d.kind = .decimal)) := by
  obtain ⟨v, c, hv, hc⟩ := exists_infer_ofNumber path ha
  obtain ⟨w, d, hw, hd⟩ := exists_infer_ofNumber path hb
  refine ⟨v, w, c, d, hv, hw, hc, hd, ?same, ?least⟩
  case same =>
    intro h
    obtain rfl := Except.ok.inj (hv.symm.trans ((ofNumber_eq path ha hb h).trans hw))
    exact ⟨rfl, Except.ok.inj (hc.symm.trans hd)⟩
  case least =>
    rintro hinteger hfloat rfl
    rcases b with n | j | x
    · cases hfloat
    · cases hfloat
    obtain ⟨hdecimal, hkind⟩ := ofBinary64_of_large path hb (by norm_num)
    obtain rfl := Except.ok.inj (hdecimal.symm.trans hw)
    rcases a with m | i | y
    · have hm : (m.toNat : Int) = -2 ^ 63 := by exact_mod_cast Option.some.inj ha
      omega
    · have hi : i = Int64.minValue := by
        rw [← Int64.toInt_inj]
        exact_mod_cast Option.some.inj ha
      obtain rfl : integer i = v := Except.ok.inj hv
      refine ⟨by rw [hi], ⟨x, rfl, rfl⟩, fun hname => ?_⟩
      obtain rfl := Except.ok.inj (hc.symm.trans (Column.infer_of_kindOf hname rfl))
      obtain rfl := Except.ok.inj (hd.symm.trans (Column.infer_of_kindOf hname hkind))
      exact ⟨rfl, rfl⟩
    · cases hinteger

/-- The least power of two that is no integer of 64 bits. -/
theorem ofJson_forms_beyond :
    ∃ v, ofJson "watts" (.number (.natural 9223372036854775808)) = .ok v ∧
      ofJson "watts" (.number (.float ⟨0x43e0000000000000⟩)) = .ok v := by
  have hmeaning : Binary64.meaning ⟨0x43e0000000000000⟩ = .finite false 4503599627370496 11 := by
    decide +kernel
  have hfloat : (JsonNumber.float ⟨0x43e0000000000000⟩).value? = some 9223372036854775808 := by
    rw [JsonNumber.value?, Binary64.value?_of_meaning hmeaning, Binary64.signed,
      if_neg Bool.false_ne_true]
    norm_num
  have hnatural : (JsonNumber.natural 9223372036854775808).value? = some 9223372036854775808 := by
    have hn : UInt64.toNat 9223372036854775808 = 9223372036854775808 := rfl
    rw [JsonNumber.value?, hn]
    norm_num
  obtain ⟨v, w, _, _, hv, hw, _, _, hsame, _⟩ := ofJson_forms "watts" hnatural hfloat
  obtain ⟨rfl, -⟩ := hsame (.inr (by norm_num))
  exact ⟨v, hv, hw⟩

/-- The number that a text is. -/
private def spelled? (s : String) : Option JsonNumber :=
  match Json.parse? s with
  | some (.number n) => some n
  | _ => none

private theorem parse?_of_spelled? {s : String} {n : JsonNumber} (h : spelled? s = some n) :
    Json.parse? s = some (.number n) := by
  rw [spelled?] at h
  split at h
  · rename_i hparse
    rw [hparse, Option.some.inj h]
  · cases h

/-- The least integer of 64 bits does not have one value in all texts that spell it. -/
theorem not_ofJson_forms_least :
    ¬∀ (s t : String) (a b : JsonNumber) (q : ℚ) (path : String),
      Json.parse? s = some (.number a) → Json.parse? t = some (.number b) →
      a.value? = some q → b.value? = some q →
      ofJson path (.number a) = ofJson path (.number b) := by
  intro h
  have hinteger : spelled? "-9223372036854775808" = some (.negative Int64.minValue) := by
    decide +kernel
  have hfloat : spelled? "-9223372036854775808.0" = some (.float ⟨0xc3e0000000000000⟩) := by
    decide +kernel
  have hmeaning : Binary64.meaning ⟨0xc3e0000000000000⟩ = .finite true 4503599627370496 11 := by
    decide +kernel
  have ha : (JsonNumber.negative Int64.minValue).value? = some (-9223372036854775808) := by
    rw [JsonNumber.value?, Int64.toInt_minValue]
    norm_num
  have hb : (JsonNumber.float ⟨0xc3e0000000000000⟩).value? = some (-9223372036854775808) := by
    rw [JsonNumber.value?, Binary64.value?_of_meaning hmeaning, Binary64.signed, if_pos rfl]
    norm_num
  have hsame := h _ _ _ _ _ "watts" (parse?_of_spelled? hinteger) (parse?_of_spelled? hfloat) ha hb
  have hdecimal := (ofBinary64_of_large (x := ⟨0xc3e0000000000000⟩) "watts" hb (by norm_num)).1
  cases (hsame.trans hdecimal : Except.ok (integer _) = Except.ok (decimal _))

end Value

end PowerTelemetry
