import PowerTelemetry.Proofs.Binary64.Rounding
/-!
# Natural numbers as doubles

A natural number below `2 ^ 53` is a double exactly.  This module says what that
double is, and that what is done with such doubles is what is done with the
numbers.

* `toNat_bits_ofNat` gives the pattern and `meaning_ofNat` what it denotes.
* `mul_ofNat` says that products are exact, `toInt_roundToInt64_ofNat` that the number
  is found again.
* `le_ofNat_iff` compares any number below `2 ^ 63` with one below `2 ^ 53`, and
  finds their order.
-/

namespace PowerTelemetry.Binary64

/-! ## The pattern -/

theorem pow_fifty_two : Nat.pow 2 52 = 4503599627370496 := rfl

theorem pow_sixty_three : Nat.pow 2 63 = 9223372036854775808 := rfl

@[simp] theorem bits_ofNat_zero : (ofNat 0).bits = 0 := rfl

/-- The pattern of a magnitude that leaves the sign bit alone. -/
theorem toNat_bits_ofMagnitude {magnitude : Nat} (h : magnitude < 2 ^ 63) :
    (ofMagnitude false magnitude).bits.toNat = magnitude := by
  have hlt : magnitude < 2 ^ 64 := by omega
  simpa [ofMagnitude, UInt64.toNat_ofNat'] using hlt

/-- The significand that a number has when its highest bit is moved to the
fifty-third. -/
def significand (n : Nat) : Nat :=
  n * 2 ^ (52 - n.log2)

/-- The significand of a number below `2 ^ 53` has fifty-three bits. -/
theorem significand_bounds {n : Nat} (hn : 0 < n) (hlt : n < 2 ^ 53) :
    2 ^ 52 ≤ significand n ∧ significand n < 2 ^ 53 := by
  have hlog : n.log2 < 53 := (Nat.log2_lt (Nat.ne_of_gt hn)).mpr hlt
  have hlow := Nat.log2_self_le (Nat.ne_of_gt hn)
  have hhigh := Nat.lt_log2_self (n := n)
  constructor
  · calc 2 ^ 52 = 2 ^ n.log2 * 2 ^ (52 - n.log2) := by
          rw [← Nat.pow_add]
          congr 1
          omega
      _ ≤ significand n := Nat.mul_le_mul_right _ hlow
  · calc significand n < 2 ^ (n.log2 + 1) * 2 ^ (52 - n.log2) :=
          (Nat.mul_lt_mul_right (Nat.pow_pos (by decide))).mpr hhigh
      _ = 2 ^ 53 := by
          rw [← Nat.pow_add]
          congr 1
          omega

/-- The pattern of a positive number below `2 ^ 53`: its significand, above which
the exponent is counted. -/
theorem toNat_bits_ofNat {n : Nat} (hn : 0 < n) (hlt : n < 2 ^ 53) :
    (ofNat n).bits.toNat = (n.log2 + 1022) * 2 ^ 52 + significand n := by
  have hlog : n.log2 < 53 := (Nat.log2_lt (Nat.ne_of_gt hn)).mpr hlt
  have hbounds := significand_bounds hn hlt
  have hq : max ((n.log2 : Int) - 52) (-1074) = (n.log2 : Int) - 52 := by omega
  have hup : (-((n.log2 : Int) - 52)).toNat = 52 - n.log2 := by omega
  have hdown : ((n.log2 : Int) - 52).toNat = 0 := by omega
  have hfield : ((n.log2 : Int) - 52 + 1074).toNat = n.log2 + 1022 := by omega
  have hround : roundToEven (n * Nat.pow 2 (52 - n.log2)) (1 * Nat.pow 2 0) = significand n :=
    roundToEven_one _
  rw [ofNat, ofRatio, if_neg (Nat.ne_of_gt hn)]
  simp only [floorLog2_one hn, hq, hup, hdown, hfield, hround, infiniteMagnitude, pow_fifty_two]
  rw [toNat_bits_ofMagnitude] <;> omega

/-- A number above has a pattern that counts its exponent at least. -/
theorem toNat_bits_ofNat_bounds {n : Nat} (hge : 2 ^ 53 ≤ n) (hlt : n < 2 ^ 63) :
    1076 * 2 ^ 52 ≤ (ofNat n).bits.toNat ∧ (ofNat n).bits.toNat ≤ 2047 * 2 ^ 52 := by
  have hn : 0 < n := by omega
  have hlow : 53 ≤ n.log2 := (Nat.le_log2 (Nat.ne_of_gt hn)).mpr hge
  have hhigh : n.log2 < 63 := (Nat.log2_lt (Nat.ne_of_gt hn)).mpr hlt
  have hq : max ((n.log2 : Int) - 52) (-1074) = (n.log2 : Int) - 52 := by omega
  have hup : (-((n.log2 : Int) - 52)).toNat = 0 := by omega
  have hdown : ((n.log2 : Int) - 52).toNat = n.log2 - 52 := by omega
  have hfield : ((n.log2 : Int) - 52 + 1074).toNat = n.log2 + 1022 := by omega
  have hround : 2 ^ 52 ≤ roundToEven (n * Nat.pow 2 0) (1 * Nat.pow 2 (n.log2 - 52)) := by
    refine le_trans ?_ (le_roundToEven _ _)
    have hself := Nat.log2_self_le (Nat.ne_of_gt hn)
    have hpow : 2 ^ 52 * (1 * Nat.pow 2 (n.log2 - 52)) = 2 ^ n.log2 := by
      rw [Nat.one_mul, Nat.pow_eq, ← Nat.pow_add]
      congr 1
      omega
    have hpos : 0 < 1 * Nat.pow 2 (n.log2 - 52) := Nat.mul_pos Nat.one_pos (Nat.pow_pos (by decide))
    refine (Nat.le_div_iff_mul_le hpos).mpr ?_
    rw [hpow, Nat.pow_eq, Nat.pow_zero, Nat.mul_one]
    exact hself
  rw [ofNat, ofRatio, if_neg (Nat.ne_of_gt hn)]
  simp only [floorLog2_one hn, hq, hup, hdown, hfield, infiniteMagnitude, pow_fifty_two]
  rw [toNat_bits_ofMagnitude] <;> omega

/-! ## What the pattern denotes -/

theorem negative_eq_false {x : Binary64} (h : x.bits.toNat < 2 ^ 63) : x.negative = false := by
  rw [negative, pow_sixty_three]
  exact decide_eq_false (by omega)

theorem exponentField_ofNat {n : Nat} (hn : 0 < n) (hlt : n < 2 ^ 53) :
    (ofNat n).exponentField = n.log2 + 1023 := by
  have hlog : n.log2 < 53 := (Nat.log2_lt (Nat.ne_of_gt hn)).mpr hlt
  have hbounds := significand_bounds hn hlt
  have hmod : Nat.pow 2 11 = 2048 := rfl
  rw [exponentField, toNat_bits_ofNat hn hlt, pow_fifty_two, hmod]
  omega

theorem fractionField_ofNat {n : Nat} (hn : 0 < n) (hlt : n < 2 ^ 53) :
    (ofNat n).fractionField = significand n - 2 ^ 52 := by
  have hbounds := significand_bounds hn hlt
  rw [fractionField, toNat_bits_ofNat hn hlt, pow_fifty_two]
  omega

/-- A positive number below `2 ^ 53` is its significand times a power of two. -/
theorem meaning_ofNat {n : Nat} (hn : 0 < n) (hlt : n < 2 ^ 53) :
    (ofNat n).meaning = .finite false (significand n) ((n.log2 : Int) - 52) := by
  have hlog : n.log2 < 53 := (Nat.log2_lt (Nat.ne_of_gt hn)).mpr hlt
  have hbounds := significand_bounds hn hlt
  have hbits := toNat_bits_ofNat hn hlt
  have hsign : (ofNat n).negative = false := negative_eq_false (by omega)
  have hfraction : Nat.pow 2 52 + (significand n - 2 ^ 52) = significand n := by
    rw [pow_fifty_two]
    omega
  have hexponent : ((n.log2 + 1023 : Nat) : Int) - 1075 = (n.log2 : Int) - 52 := by omega
  rw [meaning, exponentField_ofNat hn hlt, fractionField_ofNat hn hlt, if_neg (by omega),
    if_neg (by omega), hsign, hfraction, hexponent]

/-! ## Arithmetic -/

/-- The product of two numbers below `2 ^ 53` is the double nearest to their
product. -/
theorem mul_ofNat {a b : Nat} (ha : 0 < a) (ha' : a < 2 ^ 53) (hb : 0 < b) (hb' : b < 2 ^ 53) :
    (ofNat a).mul (ofNat b) = ofNat (a * b) := by
  have hla : a.log2 < 53 := (Nat.log2_lt (Nat.ne_of_gt ha)).mpr ha'
  have hlb : b.log2 < 53 := (Nat.log2_lt (Nat.ne_of_gt hb)).mpr hb'
  have hup : ((a.log2 : Int) - 52 + ((b.log2 : Int) - 52)).toNat = 0 := by omega
  have hdown : (-((a.log2 : Int) - 52 + ((b.log2 : Int) - 52))).toNat
      = (52 - a.log2) + (52 - b.log2) := by omega
  have hnumerator : significand a * significand b * Nat.pow 2 0
      = a * b * 2 ^ ((52 - a.log2) + (52 - b.log2)) := by
    rw [significand, significand, Nat.pow_add, Nat.pow_eq, Nat.pow_zero]
    ring
  have hdenominator : Nat.pow 2 ((52 - a.log2) + (52 - b.log2))
      = 1 * 2 ^ ((52 - a.log2) + (52 - b.log2)) := by
    rw [Nat.one_mul, Nat.pow_eq]
  rw [mul, meaning_ofNat ha ha', meaning_ofNat hb hb']
  simp only [ratio, hup, hdown, hnumerator, hdenominator, bne_self_eq_false]
  exact ofRatio_scale false (a * b) Nat.one_pos (Nat.pow_pos (by decide))

/-- An integer within the 64-bit range stays as it is. -/
theorem toInt_saturated {i : Int} (hlow : -2 ^ 63 ≤ i) (hhigh : i < 2 ^ 63) :
    (saturated i).toInt = i := by
  rw [saturated, pow_sixty_three, Int64.toInt_ofInt_of_le] <;> omega

/-- A number below `2 ^ 53` is found again. -/
theorem toInt_roundToInt64_ofNat {n : Nat} (hlt : n < 2 ^ 53) :
    (ofNat n).roundToInt64.toInt = n := by
  rcases Nat.eq_zero_or_pos n with rfl | hn
  · decide +kernel
  · have hlog : n.log2 < 53 := (Nat.log2_lt (Nat.ne_of_gt hn)).mpr hlt
    have hup : ((n.log2 : Int) - 52).toNat = 0 := by omega
    have hdown : (-((n.log2 : Int) - 52)).toNat = 52 - n.log2 := by omega
    have hpos : 0 < 2 ^ (52 - n.log2) := Nat.pow_pos (by decide)
    have hquotient : (2 * (significand n * Nat.pow 2 0) + Nat.pow 2 (52 - n.log2))
        / (2 * Nat.pow 2 (52 - n.log2)) = n := by
      rw [Nat.pow_eq, Nat.pow_eq, Nat.pow_zero, Nat.mul_one, significand]
      have hswap : n * (2 * 2 ^ (52 - n.log2)) = 2 * (n * 2 ^ (52 - n.log2)) := by ring
      rw [Nat.div_eq_iff (by omega), hswap]
      omega
    rw [roundToInt64, meaning_ofNat hn hlt]
    simp only [ratio, hup, hdown, hquotient, Bool.false_eq_true, if_false]
    exact toInt_saturated (by omega) (by omega)

/-! ## Order -/

/-- A pattern without a sign compares as a number. -/
theorem key_eq_toNat_bits {x : Binary64} (h : x.bits.toNat < 2 ^ 63) : x.key = x.bits.toNat := by
  simp only [key, negative_eq_false h, pow_sixty_three, Bool.false_eq_true, if_false]
  omega

theorem isNaN_eq_false {x : Binary64} (h : x.bits.toNat ≤ 2047 * 2 ^ 52) : x.isNaN = false := by
  have hmod : Nat.pow 2 11 = 2048 := rfl
  rw [isNaN, exponentField, fractionField, pow_fifty_two, hmod]
  simp only [Bool.and_eq_false_iff, beq_eq_false_iff_ne, bne_eq_false_iff_eq]
  omega

/-- Two patterns without a sign compare as their numbers do. -/
theorem le_eq_decide {x y : Binary64} (hx : x.bits.toNat ≤ 2047 * 2 ^ 52)
    (hy : y.bits.toNat ≤ 2047 * 2 ^ 52) : x.le y = decide (x.bits.toNat ≤ y.bits.toNat) := by
  rw [le, isNaN_eq_false hx, isNaN_eq_false hy, key_eq_toNat_bits (by omega),
    key_eq_toNat_bits (by omega)]
  simp

theorem toNat_bits_ofNat_lt_bound {n : Nat} (hlt : n < 2 ^ 53) :
    (ofNat n).bits.toNat < 1076 * 2 ^ 52 := by
  rcases Nat.eq_zero_or_pos n with rfl | hn
  · decide
  · have hlog : n.log2 < 53 := (Nat.log2_lt (Nat.ne_of_gt hn)).mpr hlt
    have hbounds := significand_bounds hn hlt
    rw [toNat_bits_ofNat hn hlt]
    omega

theorem toNat_bits_ofNat_le {n : Nat} (hlt : n < 2 ^ 63) :
    (ofNat n).bits.toNat ≤ 2047 * 2 ^ 52 := by
  by_cases hge : 2 ^ 53 ≤ n
  · exact (toNat_bits_ofNat_bounds hge hlt).2
  · have hbound := toNat_bits_ofNat_lt_bound (Nat.lt_of_not_le hge)
    omega

/-- Numbers below `2 ^ 53` are ordered as their patterns. -/
theorem toNat_bits_ofNat_lt {m n : Nat} (h : m < n) (hlt : n < 2 ^ 53) :
    (ofNat m).bits.toNat < (ofNat n).bits.toNat := by
  have hn : 0 < n := by omega
  have hbounds := significand_bounds hn hlt
  rw [toNat_bits_ofNat hn hlt]
  rcases Nat.eq_zero_or_pos m with rfl | hm
  · rw [bits_ofNat_zero, UInt64.toNat_zero]
    omega
  · have hbounds' := significand_bounds hm (by omega)
    rw [toNat_bits_ofNat hm (by omega)]
    have hlog : m.log2 ≤ n.log2 :=
      (Nat.le_log2 (Nat.ne_of_gt hn)).mpr ((Nat.log2_self_le (Nat.ne_of_gt hm)).trans h.le)
    rcases Nat.lt_or_eq_of_le hlog with hlog | hlog
    · omega
    · have hsignificand : significand m < significand n := by
        simp only [significand, hlog]
        exact (Nat.mul_lt_mul_right (Nat.pow_pos (by decide))).mpr h
      omega

/-- A number below `2 ^ 63` compares with one below `2 ^ 53` as a double does. -/
theorem le_ofNat_iff {m n : Nat} (hm : m < 2 ^ 63) (hn : n < 2 ^ 53) :
    (ofNat m).le (ofNat n) ↔ m ≤ n := by
  rw [le_eq_decide (toNat_bits_ofNat_le hm) (toNat_bits_ofNat_le (by omega)), decide_eq_true_eq]
  constructor
  · intro h
    by_contra hlt
    by_cases hge : 2 ^ 53 ≤ m
    · -- Such a number may be rounded, but its exponent stays above that of `n`.
      have hbounds := (toNat_bits_ofNat_bounds hge hm).1
      have hbound := toNat_bits_ofNat_lt_bound hn
      omega
    · have hgt := toNat_bits_ofNat_lt (Nat.lt_of_not_le hlt) (by omega)
      omega
  · intro h
    rcases Nat.lt_or_eq_of_le h with hlt | rfl
    · exact (toNat_bits_ofNat_lt hlt hn).le
    · exact le_refl _

end PowerTelemetry.Binary64
