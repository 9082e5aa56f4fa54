import Mathlib.Algebra.Order.Field.Power
import Mathlib.Data.Rat.Cast.Order
import Mathlib.Order.Monotone.Basic
import Mathlib.Tactic.FieldSimp
import Mathlib.Tactic.Positivity
import PowerTelemetry.Proofs.Binary64.Finite
/-!
# The rational numbers that doubles denote

A finite pattern denotes `± m · 2^q`, which is a rational number.  This module says
what the operations on patterns are on these numbers.

* `value?` is the number.  It is a multiple of `2^-1074`, and `steps` says of which
  integer: it grows with the `key` of the pattern, so that comparing patterns is
  comparing numbers (`le_iff_of_value?`).
* `Representable` magnitudes are those of doubles.  Rounding leaves them as they are
  (`value?_ofRatio`), so that integers below `2^53` and quotients that are representable
  are exact (`value?_ofInt`, `value?_div`).
-/

namespace PowerTelemetry.Binary64

/-! ## The number -/

/-- A magnitude with a sign. -/
def signed (negative : Bool) (v : ℚ) : ℚ :=
  if negative then -v else v

/-- The number that a pattern denotes. -/
def value? (x : Binary64) : Option ℚ :=
  match x.meaning with
  | .finite s m q => some (signed s (m * 2 ^ q))
  | _ => none

@[simp] theorem signed_zero (s : Bool) : signed s 0 = 0 := by
  cases s <;> simp [signed]

theorem signed_inj {s : Bool} {v w : ℚ} : signed s v = signed s w ↔ v = w := by
  cases s <;> simp [signed]

theorem abs_signed (s : Bool) (v : ℚ) : |signed s v| = |v| := by
  cases s <;> simp [signed]

theorem value?_of_meaning {x : Binary64} {s : Bool} {m : Nat} {q : Int}
    (h : x.meaning = .finite s m q) : x.value? = some (signed s (m * 2 ^ q)) := by
  rw [value?, h]

theorem exists_meaning_of_value? {x : Binary64} {v : ℚ} (h : x.value? = some v) :
    ∃ s m q, x.meaning = .finite s m q ∧ v = signed s (m * 2 ^ q) := by
  rw [value?] at h
  cases hmeaning : x.meaning with
  | finite s m q =>
    rw [hmeaning] at h
    exact ⟨s, m, q, rfl, (Option.some.inj h).symm⟩
  | infinite s => simp [hmeaning] at h
  | nan => simp [hmeaning] at h

theorem exponentField_lt_of_isFinite {x : Binary64} (h : x.isFinite) : x.exponentField < 2047 := by
  have hlt : x.exponentField < 2048 := Nat.mod_lt _ (by decide)
  rw [isFinite, bne_iff_ne] at h
  omega

/-- A finite pattern denotes a number, and no other one does. -/
theorem isSome_value? (x : Binary64) : x.value?.isSome = x.isFinite := by
  cases hfinite : x.isFinite with
  | true =>
    obtain ⟨m, q, hmeaning, -⟩ := meaning_of_exponentField_lt (exponentField_lt_of_isFinite hfinite)
    rw [value?_of_meaning hmeaning, Option.isSome_some]
  | false =>
    have hfull : x.exponentField = 2047 := by simpa [isFinite] using hfinite
    rw [value?, meaning, if_pos hfull]
    by_cases hzero : x.fractionField = 0
    · rw [if_pos hzero, Option.isSome_none]
    · rw [if_neg hzero, Option.isSome_none]

theorem isFinite_of_value? {x : Binary64} {v : ℚ} (h : x.value? = some v) : x.isFinite := by
  rw [← isSome_value?, h, Option.isSome_some]

/-! ## Steps -/

/-- The least positive number of all. -/
def step : ℚ :=
  2 ^ (-1074 : ℤ)

theorem step_pos : 0 < step :=
  zpow_pos two_pos _

/-- How many steps a pattern without its sign is away from zero. -/
def steps (magnitude : Nat) : Nat :=
  let exponent := magnitude / 2 ^ 52
  let fraction := magnitude % 2 ^ 52
  if exponent = 0 then fraction else (2 ^ 52 + fraction) * 2 ^ (exponent - 1)

theorem steps_zero : steps 0 = 0 := rfl

/-- A significand above its exponent. -/
theorem steps_add {e m : Nat} (hm : m < 2 ^ 53) (h : 2 ^ 52 ≤ m ∨ e = 0) :
    steps (e * 2 ^ 52 + m) = m * 2 ^ e := by
  rw [steps]
  by_cases hlow : 2 ^ 52 ≤ m
  · have hexponent : (e * 2 ^ 52 + m) / 2 ^ 52 = e + 1 := by omega
    have hfraction : (e * 2 ^ 52 + m) % 2 ^ 52 = m - 2 ^ 52 := by omega
    have hsum : 2 ^ 52 + (m - 2 ^ 52) = m := by omega
    simp only [hexponent, hfraction, hsum, Nat.add_sub_cancel]
    rw [if_neg (Nat.succ_ne_zero e)]
  · obtain rfl := h.resolve_left hlow
    have hexponent : (0 * 2 ^ 52 + m) / 2 ^ 52 = 0 := by omega
    have hfraction : (0 * 2 ^ 52 + m) % 2 ^ 52 = m := by omega
    simp only [hexponent, hfraction]
    rw [if_pos trivial, Nat.pow_zero, Nat.mul_one]

/-- The next pattern is greater, also where the exponent goes on. -/
theorem steps_lt_succ (p : Nat) : steps p < steps (p + 1) := by
  obtain ⟨e, f, rfl, hf⟩ : ∃ e f, p = e * 2 ^ 52 + f ∧ f < 2 ^ 52 :=
    ⟨p / 2 ^ 52, p % 2 ^ 52, by omega, by omega⟩
  cases e with
  | zero =>
    rw [Nat.add_assoc, steps_add (by omega) (.inr rfl), steps_add (by omega) (.inr rfl)]
    omega
  | succ e =>
    have hpos : 0 < 2 ^ e := Nat.pow_pos (by decide)
    have hhere : steps ((e + 1) * 2 ^ 52 + f) = (2 ^ 52 + f) * 2 ^ e := by
      have hsum : (e + 1) * 2 ^ 52 + f = e * 2 ^ 52 + (2 ^ 52 + f) := by omega
      rw [hsum]
      exact steps_add (by omega) (.inl (by omega))
    by_cases hlast : f + 1 < 2 ^ 52
    · have hnext : steps ((e + 1) * 2 ^ 52 + f + 1) = (2 ^ 52 + (f + 1)) * 2 ^ e := by
        have hsum : (e + 1) * 2 ^ 52 + f + 1 = e * 2 ^ 52 + (2 ^ 52 + (f + 1)) := by omega
        rw [hsum]
        exact steps_add (by omega) (.inl (by omega))
      rw [hhere, hnext]
      exact (Nat.mul_lt_mul_right hpos).mpr (by omega)
    · have hnext : steps ((e + 1) * 2 ^ 52 + f + 1) = 2 ^ 53 * 2 ^ e := by
        have hsum : (e + 1) * 2 ^ 52 + f + 1 = (e + 1) * 2 ^ 52 + 2 ^ 52 := by omega
        rw [hsum, steps_add (by omega) (.inl (le_refl _)), Nat.pow_succ 2 e, Nat.mul_comm (2 ^ e)]
        exact (Nat.mul_assoc _ _ _).symm
      rw [hhere, hnext]
      exact (Nat.mul_lt_mul_right hpos).mpr (by omega)

theorem steps_strictMono : StrictMono steps :=
  strictMono_nat_of_lt_succ steps_lt_succ

/-- The steps of a pattern with its sign. -/
def signedSteps (key : Int) : Int :=
  if key < 0 then -(steps key.natAbs : Int) else steps key.natAbs

theorem signedSteps_lt {k l : Int} (hlt : k < l) : signedSteps k < signedSteps l := by
  have hpos {i : Int} (hi : i ≠ 0) : 0 < steps i.natAbs := by
    have h := steps_strictMono (show 0 < i.natAbs by omega)
    rwa [steps_zero] at h
  rw [signedSteps, signedSteps]
  by_cases hk : k < 0
  · rw [if_pos hk]
    have hsteps := hpos (i := k) (by omega)
    by_cases hl : l < 0
    · have h := steps_strictMono (show l.natAbs < k.natAbs by omega)
      rw [if_pos hl]
      omega
    · rw [if_neg hl]
      omega
  · have h := steps_strictMono (show k.natAbs < l.natAbs by omega)
    rw [if_neg hk, if_neg (by omega)]
    omega

theorem signedSteps_le_iff {k l : Int} : signedSteps k ≤ signedSteps l ↔ k ≤ l := by
  have hmono : StrictMono signedSteps := fun _ _ => signedSteps_lt
  exact hmono.le_iff_le

theorem exponentField_eq (x : Binary64) :
    x.exponentField = x.bits.toNat % Nat.pow 2 63 / 2 ^ 52 := by
  rw [exponentField, pow_fifty_two, pow_eleven, pow_sixty_three]
  omega

theorem fractionField_eq (x : Binary64) :
    x.fractionField = x.bits.toNat % Nat.pow 2 63 % 2 ^ 52 := by
  rw [fractionField, pow_fifty_two, pow_sixty_three]
  omega

/-- The number of a finite pattern in steps. -/
theorem value?_eq_steps {x : Binary64} (h : x.isFinite) :
    x.value? = some (signed x.negative (steps (x.bits.toNat % Nat.pow 2 63) * step)) := by
  have hne : x.exponentField ≠ 2047 := Nat.ne_of_lt (exponentField_lt_of_isFinite h)
  have htwo : (2 : ℚ) ≠ 0 := by norm_num
  rw [value?, meaning, if_neg hne]
  by_cases hzero : x.exponentField = 0
  · rw [if_pos hzero]
    simp only
    rw [steps, ← exponentField_eq, ← fractionField_eq]
    simp only [hzero, if_true]
    rfl
  · rw [if_neg hzero]
    simp only
    rw [steps, ← exponentField_eq, ← fractionField_eq]
    simp only [hzero, if_false]
    have hexponent : ((x.exponentField : Int) - 1075) = ((x.exponentField - 1 : Nat) : Int) + -1074 := by
      omega
    rw [hexponent, zpow_add₀ htwo, zpow_natCast, ← mul_assoc, pow_fifty_two, ← step]
    push_cast
    rfl

theorem value?_eq_signedSteps {x : Binary64} (h : x.isFinite) :
    x.value? = some (signedSteps x.key * step) := by
  rw [value?_eq_steps h, signedSteps, key]
  cases x.negative with
  | false =>
    simp only [signed, Bool.false_eq_true, if_false]
    rw [if_neg (by omega), Int.natAbs_natCast, Int.cast_natCast]
  | true =>
    simp only [signed, if_true]
    by_cases hzero : x.bits.toNat % Nat.pow 2 63 = 0
    · rw [hzero, steps_zero]
      simp [steps_zero]
    · rw [if_pos (by omega), Int.natAbs_neg, Int.natAbs_natCast]
      rw [Int.cast_neg, Int.cast_natCast, neg_mul]

/-! ## Order -/

theorem isNaN_of_isFinite {x : Binary64} (h : x.isFinite) : x.isNaN = false := by
  rw [isFinite, bne_iff_ne] at h
  simp [isNaN, h]

/-- Finite patterns compare as the numbers that they denote. -/
theorem le_iff_of_value? {x y : Binary64} {v w : ℚ} (hx : x.value? = some v)
    (hy : y.value? = some w) : x.le y ↔ v ≤ w := by
  have hx' := isFinite_of_value? hx
  have hy' := isFinite_of_value? hy
  rw [value?_eq_signedSteps hx', Option.some.injEq] at hx
  rw [value?_eq_signedSteps hy', Option.some.injEq] at hy
  rw [le, isNaN_of_isFinite hx', isNaN_of_isFinite hy', ← hx, ← hy]
  simp only [Bool.not_false, Bool.true_and, decide_eq_true_eq]
  rw [mul_le_mul_iff_of_pos_right step_pos, Int.cast_le, signedSteps_le_iff]

theorem same_iff_of_value? {x y : Binary64} {v w : ℚ} (hx : x.value? = some v)
    (hy : y.value? = some w) : x.same y ↔ v = w := by
  rw [same, Bool.and_eq_true, le_iff_of_value? hx hy, le_iff_of_value? hy hx, le_antisymm_iff]

theorem lt_iff_of_value? {x y : Binary64} {v w : ℚ} (hx : x.value? = some v)
    (hy : y.value? = some w) : x.lt y ↔ v < w := by
  rw [lt, Bool.and_eq_true, Bool.not_eq_true', ← Bool.not_eq_true, le_iff_of_value? hx hy,
    le_iff_of_value? hy hx, not_le]
  exact ⟨fun h => h.2, fun h => ⟨h.le, h⟩⟩

/-! ## Signs -/

theorem negative_ofMagnitude (s : Bool) {magnitude : Nat} (h : magnitude < 2 ^ 63) :
    (ofMagnitude s magnitude).negative = s := by
  rw [negative, ofMagnitude, UInt64.toNat_ofNat', pow_sixty_three]
  cases s with
  | true => simp only [if_true]; exact decide_eq_true (by omega)
  | false => simp only [Bool.false_eq_true, if_false]; exact decide_eq_false (by omega)

theorem magnitude_ofMagnitude (s : Bool) {magnitude : Nat} (h : magnitude < 2 ^ 63) :
    (ofMagnitude s magnitude).bits.toNat % Nat.pow 2 63 = magnitude := by
  rw [ofMagnitude, UInt64.toNat_ofNat', pow_sixty_three]
  cases s with
  | true => simp only [if_true]; omega
  | false => simp only [Bool.false_eq_true, if_false]; omega

/-- The number of a pattern put together from its sign and the rest. -/
theorem value?_ofMagnitude (s : Bool) {magnitude : Nat} (h : magnitude < infiniteMagnitude) :
    (ofMagnitude s magnitude).value? = some (signed s (steps magnitude * step)) := by
  rw [infiniteMagnitude, pow_fifty_two] at h
  have hlt : magnitude < 2 ^ 63 := by omega
  have hfinite : (ofMagnitude s magnitude).isFinite := by
    refine isFinite_of_exponentField_lt ?_
    rw [exponentField_ofMagnitude s hlt]
    omega
  rw [value?_eq_steps hfinite, negative_ofMagnitude s hlt, magnitude_ofMagnitude s hlt]

theorem value?_abs {x : Binary64} {v : ℚ} (h : x.value? = some v) : x.abs.value? = some |v| := by
  have hfinite := isFinite_of_value? h
  have hmagnitude : x.bits.toNat % Nat.pow 2 63 < infiniteMagnitude := by
    have hlt := exponentField_lt_of_isFinite hfinite
    rw [exponentField_eq] at hlt
    rw [infiniteMagnitude, pow_fifty_two]
    omega
  rw [value?_eq_steps hfinite, Option.some.injEq] at h
  rw [abs, value?_ofMagnitude false hmagnitude, ← h, abs_signed, signed, if_neg Bool.false_ne_true]
  congr 1
  exact (abs_of_nonneg (mul_nonneg (Nat.cast_nonneg _) step_pos.le)).symm

/-! ## Exact results -/

/-- A magnitude that some double has. -/
def Representable (v : ℚ) : Prop :=
  ∃ (m : ℕ) (q : ℤ), m < 2 ^ 53 ∧ -1074 ≤ q ∧ q ≤ 971 ∧ v = m * 2 ^ q

theorem representable_natCast {n : ℕ} (h : n < 2 ^ 53) : Representable n :=
  ⟨n, 0, h, by decide, by decide, by simp⟩

/-- The quotient of natural numbers that is a number times a power of two. -/
theorem ratio_div (m : Nat) (q : Int) : ((ratio m q).1 : ℚ) / (ratio m q).2 = m * 2 ^ q := by
  have htwo : (2 : ℚ) ≠ 0 := by norm_num
  have hpowers : (2 : ℚ) ^ q = 2 ^ q.toNat / 2 ^ (-q).toNat := by
    rw [← zpow_natCast, ← zpow_natCast, ← zpow_sub₀ htwo]
    congr 1
    omega
  rw [ratio, hpowers]
  simp only [Nat.pow_eq]
  push_cast
  exact mul_div_assoc _ _ _

theorem mul_two_pow_bounds {m : Nat} (k : Nat) (hpos : 0 < m) :
    2 ^ (m.log2 + k) ≤ m * 2 ^ k ∧ m * 2 ^ k < 2 ^ (m.log2 + 1 + k) := by
  have hself := Nat.log2_self_le (Nat.ne_of_gt hpos)
  have habove := Nat.lt_log2_self (n := m)
  rw [Nat.pow_add, Nat.pow_add 2 (m.log2 + 1)]
  exact ⟨Nat.mul_le_mul_right _ hself, (Nat.mul_lt_mul_right (Nat.pow_pos (by decide))).mpr habove⟩

theorem floorLog2_ratio {m : Nat} (q : Int) (hpos : 0 < m) :
    floorLog2 (ratio m q).1 (ratio m q).2 = m.log2 + q := by
  refine (isFloorLog2_floorLog2 (Nat.mul_pos hpos (Nat.pow_pos (by decide)))
    (Nat.pow_pos (by decide))).unique ⟨?_, ?_⟩
  · calc 2 ^ (-q).toNat * 2 ^ (m.log2 + q).toNat
        = 2 ^ (m.log2 + (q.toNat + (-(m.log2 + q)).toNat)) := by
          rw [← Nat.pow_add]
          congr 1
          omega
      _ ≤ m * 2 ^ (q.toNat + (-(m.log2 + q)).toNat) := (mul_two_pow_bounds _ hpos).1
      _ = m * 2 ^ q.toNat * 2 ^ (-(m.log2 + q)).toNat := by rw [Nat.pow_add, Nat.mul_assoc]
  · calc m * 2 ^ q.toNat * 2 ^ (-((m.log2 : Int) + q + 1)).toNat
        = m * 2 ^ (q.toNat + (-((m.log2 : Int) + q + 1)).toNat) := by
          rw [Nat.pow_add, Nat.mul_assoc]
      _ < 2 ^ (m.log2 + 1 + (q.toNat + (-((m.log2 : Int) + q + 1)).toNat)) :=
        (mul_two_pow_bounds _ hpos).2
      _ = 2 ^ (-q).toNat * 2 ^ ((m.log2 : Int) + q + 1).toNat := by
          rw [← Nat.pow_add]
          congr 1
          omega

/-- At an exponent below its own, a significand is only moved. -/
theorem roundToEven_ratio {m : Nat} {p q : Int} (h : p ≤ q) :
    roundToEven ((ratio m q).1 * 2 ^ (-p).toNat) ((ratio m q).2 * 2 ^ p.toNat)
      = m * 2 ^ (q - p).toNat := by
  have hnumerator : (ratio m q).1 * 2 ^ (-p).toNat
      = m * 2 ^ (q - p).toNat * 2 ^ ((-q).toNat + p.toNat) := by
    simp only [ratio, Nat.pow_eq]
    rw [Nat.mul_assoc, Nat.mul_assoc, ← Nat.pow_add, ← Nat.pow_add]
    congr 2
    omega
  have hdenominator : (ratio m q).2 * 2 ^ p.toNat = 1 * 2 ^ ((-q).toNat + p.toNat) := by
    simp only [ratio, Nat.pow_eq]
    rw [← Nat.pow_add, Nat.one_mul]
  rw [hnumerator, hdenominator, roundToEven_scale _ _ (Nat.pow_pos (by decide)), roundToEven_one]

/-- A double comes out of rounding as it is. -/
theorem ofRatio_ratio (s : Bool) {m : Nat} {q : Int} (hpos : 0 < m) (hm : m < 2 ^ 53)
    (hlow : -1074 ≤ q) (hhigh : q ≤ 971) :
    ∃ e l : Nat, ofRatio s (ratio m q).1 (ratio m q).2 = ofMagnitude s (e * 2 ^ 52 + m * 2 ^ l) ∧
      e * 2 ^ 52 + m * 2 ^ l < infiniteMagnitude ∧ m * 2 ^ l < 2 ^ 53 ∧
      (2 ^ 52 ≤ m * 2 ^ l ∨ e = 0) ∧ (e : Int) + l = q + 1074 := by
  have hlog : m.log2 < 53 := (Nat.log2_lt (Nat.ne_of_gt hpos)).mpr hm
  -- The exponent at which the significand is rounded is at most `q`, so nothing is lost.
  obtain ⟨p, hp⟩ : ∃ p : Int, p = max ((m.log2 : Int) + q - 52) (-1074) := ⟨_, rfl⟩
  have hround := roundToEven_ratio (m := m) (show p ≤ q by omega)
  have hbounds := mul_two_pow_bounds (q - p).toNat hpos
  have hlt : m * 2 ^ (q - p).toNat < 2 ^ 53 :=
    Nat.lt_of_lt_of_le hbounds.2 (Nat.pow_le_pow_right (by decide) (by omega))
  have hnormal : 2 ^ 52 ≤ m * 2 ^ (q - p).toNat ∨ (p + 1074).toNat = 0 := by
    by_cases hleast : p = -1074
    · exact .inr (by omega)
    · exact .inl (Nat.le_trans (Nat.pow_le_pow_right (by decide) (by omega)) hbounds.1)
  have hroom : (p + 1074).toNat * 2 ^ 52 + m * 2 ^ (q - p).toNat < infiniteMagnitude := by
    rw [infiniteMagnitude, pow_fifty_two]
    omega
  refine ⟨(p + 1074).toNat, (q - p).toNat, ?_, hroom, hlt, hnormal, by omega⟩
  have hne : (ratio m q).1 ≠ 0 := Nat.ne_of_gt (Nat.mul_pos hpos (Nat.pow_pos (by decide)))
  rw [ofRatio, if_neg hne, floorLog2_ratio q hpos]
  simp only [Nat.pow_eq, ← hp, hround, Nat.min_eq_left hroom.le]

/-- A representable quotient is not rounded. -/
theorem value?_ofRatio (s : Bool) {n d : Nat} (hd : 0 < d) (h : Representable (n / d)) :
    (ofRatio s n d).value? = some (signed s (n / d)) := by
  obtain ⟨m, q, hm, hlow, hhigh, hvalue⟩ := h
  have htwo : (2 : ℚ) ≠ 0 := by norm_num
  have hd' : (d : ℚ) ≠ 0 := by exact_mod_cast Nat.ne_of_gt hd
  rcases Nat.eq_zero_or_pos m with rfl | hpos
  · have hn : n = 0 := by simpa [hd'] using hvalue
    rw [ofRatio, if_pos hn, value?_ofMagnitude s (by decide), hn, steps_zero]
    simp
  · obtain ⟨e, l, hrounded, hroom, hlt, hnormal, hexponent⟩ :=
      ofRatio_ratio s hpos hm hlow hhigh
    -- The quotient is the one of `m · 2^q`, written with other numbers.
    have hb : 0 < (ratio m q).2 := Nat.pow_pos (by decide)
    have hcross : n * (ratio m q).2 = (ratio m q).1 * d := by
      have hb' : ((ratio m q).2 : ℚ) ≠ 0 := by exact_mod_cast Nat.ne_of_gt hb
      rw [← ratio_div, div_eq_div_iff hd' hb'] at hvalue
      exact_mod_cast hvalue
    have hsame : ofRatio s n d = ofRatio s (ratio m q).1 (ratio m q).2 := by
      rw [← ofRatio_scale s n hd hb, hcross, Nat.mul_comm d, ofRatio_scale s _ hb hd]
    rw [hsame, hrounded, value?_ofMagnitude s hroom, steps_add hlt hnormal, hvalue]
    congr 2
    have hq : q = (l : Int) + e + -1074 := by omega
    rw [hq, zpow_add₀ htwo, zpow_add₀ htwo, zpow_natCast, zpow_natCast, ← step]
    push_cast
    rw [mul_assoc, mul_assoc, mul_assoc]

theorem value?_ofNat {n : Nat} (h : Representable n) : (ofNat n).value? = some (n : ℚ) := by
  have hquotient : ((n : ℚ) / (1 : ℕ)) = n := by simp
  have hvalue := value?_ofRatio false (n := n) Nat.one_pos (by rwa [hquotient])
  rwa [hquotient] at hvalue

/-- An integer below `2^53` in magnitude is a double. -/
theorem value?_ofInt {i : Int} (h : i.natAbs < 2 ^ 53) : (ofInt i).value? = some (i : ℚ) := by
  have hquotient : ((i.natAbs : ℚ) / (1 : ℕ)) = i.natAbs := by simp
  have hvalue := value?_ofRatio (decide (i < 0)) (n := i.natAbs) Nat.one_pos
    (by rw [hquotient]; exact representable_natCast h)
  rw [ofInt, hvalue, hquotient, Nat.cast_natAbs, signed]
  congr 1
  by_cases hi : i < 0
  · simp [hi, abs_of_neg hi]
  · simp [hi, abs_of_nonneg (Int.not_lt.mp hi)]

/-- A quotient that some double is, is exact. -/
theorem value?_div {x y : Binary64} {v w : ℚ} (hx : x.value? = some v) (hy : y.value? = some w)
    (hw : w ≠ 0) (h : Representable |v / w|) : (x.div y).value? = some (v / w) := by
  obtain ⟨s, m, q, hmeaning, rfl⟩ := exists_meaning_of_value? hx
  obtain ⟨t, n, r, hmeaning', rfl⟩ := exists_meaning_of_value? hy
  have htwo : (2 : ℚ) ≠ 0 := by norm_num
  have hn : n ≠ 0 := by
    rintro rfl
    simp at hw
  have hn' : (n : ℚ) ≠ 0 := by exact_mod_cast hn
  have hb : 0 < (ratio m (q - r)).2 * n :=
    Nat.mul_pos (Nat.pow_pos (by decide)) (Nat.pos_of_ne_zero hn)
  have hquotient : ((ratio m (q - r)).1 : ℚ) / ((ratio m (q - r)).2 * n : ℕ)
      = m * 2 ^ q / (n * 2 ^ r) := by
    rw [Nat.cast_mul, ← div_div, ratio_div, zpow_sub₀ htwo]
    field_simp
  have hmagnitude : |signed s (m * 2 ^ q) / signed t (n * 2 ^ r)| = m * 2 ^ q / (n * 2 ^ r) := by
    rw [abs_div, abs_signed, abs_signed, abs_of_nonneg (by positivity), abs_of_nonneg (by positivity)]
  rw [hmagnitude, ← hquotient] at h
  have hvalue := value?_ofRatio (s != t) hb h
  rw [div, hmeaning, hmeaning']
  simp only [if_neg hn]
  rw [hvalue, hquotient]
  cases s <;> cases t <;> simp [signed, neg_div, div_neg]

end PowerTelemetry.Binary64
