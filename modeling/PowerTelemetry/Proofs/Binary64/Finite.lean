import PowerTelemetry.Proofs.Binary64.Whole
/-!
# Doubles that stay finite

A double is finite as long as its exponent field is not full.  Rounding a quotient
raises the exponent by one at most, and dividing by a double that is at least one does
not raise the quotient.  So a few such divisions of a number of moderate size cannot
end at an infinity.

* `exponentField_ofRatio_le` bounds the exponent of a rounded quotient and
  `exponentField_div_le` that of a division.
* `isFinite_ofNat` and `isFinite_neg` are what this says of numbers of 64 bits.
-/

namespace PowerTelemetry.Binary64

theorem pow_eleven : Nat.pow 2 11 = 2048 := rfl

/-! ## Exponents -/

theorem isFinite_of_exponentField_lt {x : Binary64} (h : x.exponentField < 2047) : x.isFinite := by
  rw [isFinite, bne_iff_ne]
  omega

/-- The exponent of a magnitude is what stands above its fraction. -/
theorem exponentField_ofMagnitude (negative : Bool) {magnitude : Nat} (h : magnitude < 2 ^ 63) :
    (ofMagnitude negative magnitude).exponentField = magnitude / 2 ^ 52 := by
  rw [exponentField, ofMagnitude, UInt64.toNat_ofNat', pow_fifty_two, pow_eleven, pow_sixty_three]
  cases negative with
  | true => rw [if_pos rfl]; omega
  | false => rw [if_neg Bool.false_ne_true]; omega

/-- Rounding goes up by less than one. -/
theorem roundToEven_le {n d c : Nat} (h : n < d * c) : roundToEven n d ≤ c := by
  have hfloor : n / d < c := Nat.div_lt_of_lt_mul h
  rw [roundToEven]
  split <;> omega

/-- A quotient below a power of two is below the greater ones. -/
theorem lt_two_pow_of_le {n d : Nat} {k l : Int} (h : n * 2 ^ (-k).toNat < d * 2 ^ k.toNat)
    (hle : k ≤ l) : n * 2 ^ (-l).toNat < d * 2 ^ l.toNat := by
  have hpos {i : Int} : 0 < 2 ^ (-i).toNat := Nat.pow_pos (by decide)
  refine (Nat.mul_lt_mul_right (hpos (i := k))).mp ?_
  calc n * 2 ^ (-l).toNat * 2 ^ (-k).toNat
      = n * 2 ^ (-k).toNat * 2 ^ (-l).toNat := Nat.mul_right_comm _ _ _
    _ < d * 2 ^ k.toNat * 2 ^ (-l).toNat := (Nat.mul_lt_mul_right hpos).mpr h
    _ = d * (2 ^ k.toNat * 2 ^ (-l).toNat) := Nat.mul_assoc _ _ _
    _ ≤ d * (2 ^ l.toNat * 2 ^ (-k).toNat) := Nat.mul_le_mul_left d (two_pow_le_two_pow hle)
    _ = d * 2 ^ l.toNat * 2 ^ (-k).toNat := (Nat.mul_assoc _ _ _).symm

/-- A power of two on the right may be part of the exponent. -/
theorem lt_mul_two_pow {n d c : Nat} {q : Int}
    (h : n * 2 ^ (-(q + c)).toNat < d * 2 ^ (q + c).toNat) :
    n * 2 ^ (-q).toNat < d * 2 ^ q.toNat * 2 ^ c := by
  obtain ⟨s, hup, hdown⟩ : ∃ s, (-q).toNat = (-(q + c)).toNat + s ∧
      q.toNat + c = (q + c).toNat + s :=
    ⟨(-q).toNat - (-(q + c)).toNat, by omega, by omega⟩
  calc n * 2 ^ (-q).toNat
      = n * 2 ^ (-(q + c)).toNat * 2 ^ s := by rw [hup, Nat.pow_add, Nat.mul_assoc]
    _ < d * 2 ^ (q + c).toNat * 2 ^ s := (Nat.mul_lt_mul_right (Nat.pow_pos (by decide))).mpr h
    _ = d * 2 ^ q.toNat * 2 ^ c := by
      rw [Nat.mul_assoc, ← Nat.pow_add, ← hdown, Nat.pow_add, Nat.mul_assoc]

/-- A quotient below `2 ^ (k + 1)` is rounded to a double below `2 ^ (k + 2)`. -/
theorem exponentField_ofRatio_le (negative : Bool) {n d k : Nat} (hd : 0 < d) (hk : k ≤ 1022)
    (h : n < d * 2 ^ (k + 1)) : (ofRatio negative n d).exponentField ≤ k + 1024 := by
  by_cases hn : n = 0
  · rw [ofRatio, if_pos hn, exponentField_ofMagnitude _ (by decide)]
    omega
  · have hfloor := isFloorLog2_floorLog2 (Nat.pos_of_ne_zero hn) hd
    have hle : floorLog2 n d ≤ k := by
      refine le_of_below_of_above hfloor.below ?_
      have hup : (-((k : Int) + 1)).toNat = 0 := by omega
      have hdown : ((k : Int) + 1).toNat = k + 1 := by omega
      rw [hup, hdown, Nat.pow_zero, Nat.mul_one]
      exact h
    obtain ⟨q, hq⟩ : ∃ q, q = max (floorLog2 n d - 52) (-1074) := ⟨_, rfl⟩
    -- The significand has fifty-three bits, or carries into one more.
    have hround : roundToEven (n * Nat.pow 2 (-q).toNat) (d * Nat.pow 2 q.toNat) ≤ 2 ^ 53 := by
      have habove :=
        lt_two_pow_of_le hfloor.above (show floorLog2 n d + 1 ≤ q + (53 : Nat) by omega)
      exact roundToEven_le (lt_mul_two_pow habove)
    rw [ofRatio, if_neg hn]
    simp only [← hq]
    have hmagnitude : min ((q + 1074).toNat * Nat.pow 2 52
        + roundToEven (n * Nat.pow 2 (-q).toNat) (d * Nat.pow 2 q.toNat)) infiniteMagnitude
        ≤ (k + 1024) * 2 ^ 52 := by
      refine Nat.le_trans (Nat.min_le_left _ _) ?_
      rw [pow_fifty_two]
      omega
    rw [exponentField_ofMagnitude _ (by omega)]
    omega

/-! ## Numbers of 64 bits and signs -/

theorem exponentField_ofNat_le {n : Nat} (h : n < 2 ^ 64) : (ofNat n).exponentField ≤ 1087 := by
  have hlt : n < 1 * 2 ^ (63 + 1) := by omega
  exact exponentField_ofRatio_le false Nat.one_pos (by decide) hlt

theorem isFinite_ofNat {n : Nat} (h : n < 2 ^ 64) : (ofNat n).isFinite :=
  isFinite_of_exponentField_lt (Nat.lt_of_le_of_lt (exponentField_ofNat_le h) (by decide))

/-- The sign is no part of the exponent. -/
@[simp] theorem exponentField_neg (x : Binary64) : x.neg.exponentField = x.exponentField := by
  have hlt := x.bits.toNat_lt
  have hmagnitude : x.bits.toNat % Nat.pow 2 63 < 2 ^ 63 := Nat.mod_lt _ (by decide)
  rw [neg, exponentField_ofMagnitude _ hmagnitude, exponentField, pow_fifty_two,
    pow_eleven, pow_sixty_three]
  omega

@[simp] theorem isFinite_neg (x : Binary64) : x.neg.isFinite = x.isFinite := by
  rw [isFinite, isFinite, exponentField_neg]

/-! ## Division -/

/-- What a finite pattern denotes: a significand of at most fifty-three bits, at an
exponent that is in the pattern. -/
theorem meaning_of_exponentField_lt {x : Binary64} (h : x.exponentField < 2047) :
    ∃ m q, x.meaning = .finite x.negative m q ∧ m < 2 ^ 53 ∧
      q = max (x.exponentField : Int) 1 - 1075 ∧ (0 < x.exponentField → 2 ^ 52 ≤ m) := by
  have hfraction : x.fractionField < 4503599627370496 := Nat.mod_lt _ (by decide)
  rw [meaning, if_neg (Nat.ne_of_lt h)]
  by_cases hzero : x.exponentField = 0
  · rw [if_pos hzero]
    exact ⟨_, _, rfl, by omega, by omega, by omega⟩
  · rw [if_neg hzero, pow_fifty_two]
    exact ⟨_, _, rfl, by omega, by omega, by omega⟩

/-- Divided by a double that is at least one, a double is at most as large as it was, up
to rounding. -/
theorem exponentField_div_le {x y : Binary64} {k : Nat} (hx : x.exponentField ≤ k + 1023)
    (hk : k ≤ 1022) (hlow : 1023 ≤ y.exponentField) (hhigh : y.exponentField < 2047) :
    (x.div y).exponentField ≤ k + 1024 := by
  obtain ⟨m, q, hmeaning, hm, hq, -⟩ :=
    meaning_of_exponentField_lt (x := x) (by omega)
  obtain ⟨n, r, hmeaning', -, hr, hn⟩ := meaning_of_exponentField_lt hhigh
  have hn : 2 ^ 52 ≤ n := hn (by omega)
  rw [div, hmeaning, hmeaning']
  simp only [ratio]
  rw [if_neg (by omega)]
  have hpos : 0 < Nat.pow 2 (-(q - r)).toNat := Nat.pow_pos (by decide)
  refine exponentField_ofRatio_le _ (Nat.mul_pos hpos (by omega)) hk ?_
  have hexponent : (q - r).toNat ≤ (-(q - r)).toNat + k := by omega
  calc m * 2 ^ (q - r).toNat
      < 2 ^ 53 * 2 ^ (q - r).toNat := (Nat.mul_lt_mul_right (Nat.pow_pos (by decide))).mpr hm
    _ ≤ 2 * n * 2 ^ ((-(q - r)).toNat + k) :=
      Nat.mul_le_mul (by omega) (Nat.pow_le_pow_right (by decide) hexponent)
    _ = 2 ^ (-(q - r)).toNat * n * 2 ^ (k + 1) := by
      rw [Nat.pow_add, Nat.pow_succ]
      ring

end PowerTelemetry.Binary64
