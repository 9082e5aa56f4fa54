import PowerTelemetry.Proofs.Binary64.Value
/-!
# Integral doubles

A double is integral if dropping its fraction leaves it as it is and its magnitude
is below `2^63`.  The comparisons are of patterns; `isIntegral_iff` says that they find
exactly the doubles that denote integers of 64 bits, without the least one, and
`toInt_toInt64` that such a double becomes the integer it denotes.  Nothing is
saturated or rounded on the way.
-/

namespace PowerTelemetry.Binary64

/-- The whole part of a magnitude `m · 2^q`. -/
def wholePart (m : Nat) (q : Int) : Nat :=
  (ratio m q).1 / (ratio m q).2

/-- The whole part of a double is a double. -/
theorem representable_wholePart {m : Nat} {q : Int} (hm : m < 2 ^ 53) (hlow : -1074 ≤ q)
    (hhigh : q ≤ 971) : Representable (wholePart m q) := by
  by_cases hq : 0 ≤ q
  · have hdown : (-q).toNat = 0 := by omega
    have hwhole : wholePart m q = m * 2 ^ q.toNat := by
      simp only [wholePart, ratio, hdown, Nat.pow_eq, Nat.pow_zero, Nat.div_one]
    refine ⟨m, q, hm, hlow, hhigh, ?_⟩
    rw [hwhole, Nat.cast_mul, Nat.cast_pow, Nat.cast_two, ← zpow_natCast, Int.toNat_of_nonneg hq]
  · have hup : q.toNat = 0 := by omega
    have hwhole : wholePart m q ≤ m := by
      simp only [wholePart, ratio, hup, Nat.pow_eq, Nat.pow_zero, Nat.mul_one]
      exact Nat.div_le_self _ _
    exact representable_natCast (Nat.lt_of_le_of_lt hwhole hm)

/-- A magnitude is a whole number if it is its whole part. -/
theorem wholePart_eq_iff {m : Nat} {q : Int} :
    (wholePart m q : ℚ) = m * 2 ^ q ↔ ∃ n : ℕ, (m * 2 ^ q : ℚ) = n := by
  constructor
  · intro h
    exact ⟨_, h.symm⟩
  · rintro ⟨n, hn⟩
    have hpos : 0 < (ratio m q).2 := Nat.pow_pos (by decide)
    have hne : ((ratio m q).2 : ℚ) ≠ 0 := by exact_mod_cast Nat.ne_of_gt hpos
    have hproduct : (ratio m q).1 = n * (ratio m q).2 := by
      rw [← ratio_div, div_eq_iff hne] at hn
      exact_mod_cast hn
    rw [hn, wholePart, hproduct, Nat.mul_div_cancel _ hpos]

/-- The magnitude of an integer. -/
theorem magnitude_eq_natAbs {s : Bool} {m : Nat} {q n : Int} (h : signed s (m * 2 ^ q) = n) :
    (m * 2 ^ q : ℚ) = n.natAbs := by
  have hpos : (0 : ℚ) ≤ m * 2 ^ q := mul_nonneg (Nat.cast_nonneg _) (zpow_pos two_pos _).le
  calc (m * 2 ^ q : ℚ) = |signed s (m * 2 ^ q)| := by rw [abs_signed, abs_of_nonneg hpos]
    _ = |(n : ℚ)| := by rw [h]
    _ = n.natAbs := by rw [Nat.cast_natAbs, Int.cast_abs]

/-! ## The fraction dropped -/

theorem value?_truncated {x : Binary64} {s : Bool} {m : Nat} {q : Int}
    (h : x.meaning = .finite s m q) : x.truncated.value? = some (signed s (wholePart m q)) := by
  have hvalue := value?_of_meaning h
  have hfield := exponentField_lt_of_isFinite (isFinite_of_value? hvalue)
  obtain ⟨m', q', hmeaning, hm, hq, -⟩ := meaning_of_exponentField_lt hfield
  obtain ⟨-, rfl, rfl⟩ := Meaning.finite.inj (h.symm.trans hmeaning)
  have hquotient : ((wholePart m q : ℚ) / (1 : ℕ)) = wholePart m q := by simp
  have hwhole := representable_wholePart hm (show -1074 ≤ q by omega) (by omega)
  rw [truncated, h]
  refine (value?_ofRatio s Nat.one_pos ?_).trans ?_
  · exact hquotient.symm ▸ hwhole
  · exact congrArg (fun v => some (signed s v)) hquotient

/-- A number that stays as it is without its fraction is an integer. -/
theorem truncated_same_iff {x : Binary64} {v : ℚ} (h : x.value? = some v) :
    x.truncated.same x ↔ ∃ n : ℤ, v = n := by
  obtain ⟨s, m, q, hmeaning, rfl⟩ := exists_meaning_of_value? h
  rw [same_iff_of_value? (value?_truncated hmeaning) h, signed_inj, wholePart_eq_iff]
  constructor
  · rintro ⟨n, hn⟩
    rw [hn]
    cases s with
    | true => exact ⟨-n, by simp [signed]⟩
    | false => exact ⟨n, by simp [signed]⟩
  · rintro ⟨n, hn⟩
    exact ⟨n.natAbs, magnitude_eq_natAbs hn⟩

/-- The bound is two to the sixty-third. -/
theorem value?_wholeBound : wholeBound.value? = some (2 ^ 63 : ℚ) := by
  have hpower : ((Nat.pow 2 63 : ℕ) : ℚ) = 2 ^ 63 := by rw [Nat.pow_eq]; push_cast; rfl
  have hbound : Representable (Nat.pow 2 63 : ℕ) :=
    ⟨1, 63, by decide, by decide, by decide, by rw [hpower, Nat.cast_one, one_mul]; norm_num⟩
  rw [wholeBound, value?_ofNat hbound, hpower]

/-! ## Integers -/

/-- The integral doubles are those that denote an integer below `2^63` in magnitude. -/
theorem isIntegral_iff (x : Binary64) :
    x.isIntegral ↔ ∃ n : ℤ, x.value? = some (n : ℚ) ∧ n.natAbs < 2 ^ 63 := by
  cases hvalue : x.value? with
  | none =>
    have hfinite : x.isFinite = false := by rw [← isSome_value?, hvalue, Option.isSome_none]
    simp [isIntegral, hfinite]
  | some v =>
    have hfinite : x.isFinite = true := isFinite_of_value? hvalue
    have hbelow (n : ℤ) : |(n : ℚ)| < 2 ^ 63 ↔ n.natAbs < 2 ^ 63 := by
      rw [← Int.cast_abs, Int.abs_eq_natAbs]
      exact_mod_cast Iff.rfl
    rw [isIntegral, hfinite, Bool.true_and, Bool.and_eq_true, truncated_same_iff hvalue,
      lt_iff_of_value? (value?_abs hvalue) value?_wholeBound]
    constructor
    · rintro ⟨⟨n, rfl⟩, hlt⟩
      exact ⟨n, rfl, (hbelow n).mp hlt⟩
    · rintro ⟨n, hn, hlt⟩
      obtain rfl := Option.some.inj hn
      exact ⟨⟨n, rfl⟩, (hbelow n).mpr hlt⟩

theorem toInt64_of_meaning {x : Binary64} {s : Bool} {m : Nat} {q : Int}
    (h : x.meaning = .finite s m q) :
    x.toInt64 = saturated (if s then -(wholePart m q : Int) else wholePart m q) := by
  rw [toInt64, h]
  rfl

/-- An integral double becomes the integer that it denotes. -/
theorem toInt_toInt64 {x : Binary64} {n : ℤ} (h : x.value? = some (n : ℚ))
    (hlt : n.natAbs < 2 ^ 63) : x.toInt64.toInt = n := by
  obtain ⟨s, m, q, hmeaning, hn⟩ := exists_meaning_of_value? h
  have hmagnitude := magnitude_eq_natAbs hn.symm
  have hwhole : wholePart m q = n.natAbs := by
    have hpart := wholePart_eq_iff.mpr ⟨_, hmagnitude⟩
    rw [hmagnitude] at hpart
    exact_mod_cast hpart
  have hsign : (if s then -(n.natAbs : ℤ) else n.natAbs) = n := by
    rw [hmagnitude] at hn
    cases s with
    | true =>
      have hnegative : (-(n.natAbs : ℤ) : ℚ) = n := hn.symm
      exact_mod_cast hnegative
    | false =>
      have hpositive : ((n.natAbs : ℤ) : ℚ) = n := hn.symm
      exact_mod_cast hpositive
  rw [toInt64_of_meaning hmeaning, hwhole, hsign]
  exact toInt_saturated (by omega) (by omega)

end PowerTelemetry.Binary64
