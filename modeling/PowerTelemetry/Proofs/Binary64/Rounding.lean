import Mathlib.Algebra.Order.Ring.Nat
import Mathlib.Tactic.Ring
import PowerTelemetry.Binary64
/-!
# Rounding depends on the quotient alone

`Binary64.ofRatio` rounds a quotient of natural numbers.  The same quotient may
come as other numbers, so every part of the rounding is shown to stay as it is
when both numbers are multiplied by a third one.

* `roundToEven_scale` and `roundToEven_one`, with `le_roundToEven` for a bound.
* `IsFloorLog2` says what the exponent of a quotient is; `isFloorLog2_floorLog2`
  and `IsFloorLog2.unique` make it the one that is computed.
* `ofRatio_scale` is the result.
-/

namespace PowerTelemetry.Binary64

/-! ## The nearest whole number -/

theorem roundToEven_scale (n d : Nat) {c : Nat} (hc : 0 < c) :
    roundToEven (n * c) (d * c) = roundToEven n d := by
  have htwice : 2 * (n % d * c) = 2 * (n % d) * c := by ring
  simp only [roundToEven, Nat.mul_div_mul_right _ _ hc, Nat.mul_mod_mul_right, htwice, gt_iff_lt,
    Nat.mul_lt_mul_right hc, Nat.mul_left_inj (Nat.ne_of_gt hc)]

@[simp] theorem roundToEven_one (n : Nat) : roundToEven n 1 = n := by
  simp [roundToEven, Nat.mod_one]

/-- Rounding goes down to the quotient at most. -/
theorem le_roundToEven (n d : Nat) : n / d ≤ roundToEven n d := by
  rw [roundToEven]
  split <;> omega

/-! ## The exponent -/

/-- `2 ^ k` is at most `n / d`, and `2 ^ (k + 1)` is above it. -/
structure IsFloorLog2 (n d : Nat) (k : Int) : Prop where
  below : d * 2 ^ k.toNat ≤ n * 2 ^ (-k).toNat
  above : n * 2 ^ (-(k + 1)).toNat < d * 2 ^ (k + 1).toNat

/-- A greater exponent has the greater power. -/
theorem two_pow_le_two_pow {k l : Int} (h : k ≤ l) :
    2 ^ k.toNat * 2 ^ (-l).toNat ≤ 2 ^ l.toNat * 2 ^ (-k).toNat := by
  rw [← Nat.pow_add, ← Nat.pow_add]
  exact Nat.pow_le_pow_right (by decide) (by omega)

/-- A quotient with `2 ^ (k + 1)` above it and `2 ^ l` at most it has `l ≤ k`. -/
theorem le_of_below_of_above {n d : Nat} {k l : Int} (hl : d * 2 ^ l.toNat ≤ n * 2 ^ (-l).toNat)
    (hk : n * 2 ^ (-(k + 1)).toNat < d * 2 ^ (k + 1).toNat) : l ≤ k := by
  by_contra hlt
  have hpow := two_pow_le_two_pow (show k + 1 ≤ l by omega)
  have hpos : 0 < 2 ^ (-l).toNat := Nat.pow_pos (by decide)
  refine Nat.lt_irrefl (n * 2 ^ (-(k + 1)).toNat * 2 ^ (-l).toNat) ?_
  calc n * 2 ^ (-(k + 1)).toNat * 2 ^ (-l).toNat
      < d * 2 ^ (k + 1).toNat * 2 ^ (-l).toNat := (Nat.mul_lt_mul_right hpos).mpr hk
    _ = d * (2 ^ (k + 1).toNat * 2 ^ (-l).toNat) := by ring
    _ ≤ d * (2 ^ l.toNat * 2 ^ (-(k + 1)).toNat) := Nat.mul_le_mul_left d hpow
    _ = d * 2 ^ l.toNat * 2 ^ (-(k + 1)).toNat := by ring
    _ ≤ n * 2 ^ (-l).toNat * 2 ^ (-(k + 1)).toNat := Nat.mul_le_mul_right _ hl
    _ = n * 2 ^ (-(k + 1)).toNat * 2 ^ (-l).toNat := by ring

/-- A quotient has one exponent. -/
theorem IsFloorLog2.unique {n d : Nat} {k l : Int} (hk : IsFloorLog2 n d k)
    (hl : IsFloorLog2 n d l) : k = l :=
  le_antisymm (le_of_below_of_above hk.below hl.above) (le_of_below_of_above hl.below hk.above)

/-- The exponent that is computed is the exponent. -/
theorem isFloorLog2_floorLog2 {n d : Nat} (hn : 0 < n) (hd : 0 < d) :
    IsFloorLog2 n d (floorLog2 n d) := by
  have hnlow := Nat.log2_self_le (Nat.pos_iff_ne_zero.mp hn)
  have hdlow := Nat.log2_self_le (Nat.pos_iff_ne_zero.mp hd)
  have hnhigh := Nat.lt_log2_self (n := n)
  have hdhigh := Nat.lt_log2_self (n := d)
  -- The logarithms of both numbers leave two exponents, and the comparison picks one.
  obtain ⟨k, hk⟩ : ∃ k : Int, k = (n.log2 : Int) - d.log2 := ⟨_, rfl⟩
  have hfloor : floorLog2 n d
      = if n * 2 ^ (-k).toNat < d * 2 ^ k.toNat then k - 1 else k := by
    rw [hk]
    rfl
  rw [hfloor]
  split
  · rename_i hlt
    refine ⟨?_, by simpa using hlt⟩
    calc d * 2 ^ (k - 1).toNat
        ≤ 2 ^ (d.log2 + 1) * 2 ^ (k - 1).toNat := Nat.mul_le_mul_right _ hdhigh.le
      _ = 2 ^ n.log2 * 2 ^ (-(k - 1)).toNat := by
        rw [← Nat.pow_add, ← Nat.pow_add]
        congr 1
        omega
      _ ≤ n * 2 ^ (-(k - 1)).toNat := Nat.mul_le_mul_right _ hnlow
  · rename_i hge
    refine ⟨Nat.le_of_not_lt hge, ?_⟩
    calc n * 2 ^ (-(k + 1)).toNat
        < 2 ^ (n.log2 + 1) * 2 ^ (-(k + 1)).toNat :=
          (Nat.mul_lt_mul_right (Nat.pow_pos (by decide))).mpr hnhigh
      _ = 2 ^ d.log2 * 2 ^ (k + 1).toNat := by
        rw [← Nat.pow_add, ← Nat.pow_add]
        congr 1
        omega
      _ ≤ d * 2 ^ (k + 1).toNat := Nat.mul_le_mul_right _ hdlow

theorem IsFloorLog2.scale {n d : Nat} {k : Int} (h : IsFloorLog2 n d k) {c : Nat} (hc : 0 < c) :
    IsFloorLog2 (n * c) (d * c) k where
  below := by
    have hbelow := Nat.mul_le_mul_right c h.below
    calc d * c * 2 ^ k.toNat = d * 2 ^ k.toNat * c := by ring
      _ ≤ n * 2 ^ (-k).toNat * c := hbelow
      _ = n * c * 2 ^ (-k).toNat := by ring
  above := by
    have habove := (Nat.mul_lt_mul_right hc).mpr h.above
    calc n * c * 2 ^ (-(k + 1)).toNat = n * 2 ^ (-(k + 1)).toNat * c := by ring
      _ < d * 2 ^ (k + 1).toNat * c := habove
      _ = d * c * 2 ^ (k + 1).toNat := by ring

theorem floorLog2_scale {n d c : Nat} (hn : 0 < n) (hd : 0 < d) (hc : 0 < c) :
    floorLog2 (n * c) (d * c) = floorLog2 n d :=
  (isFloorLog2_floorLog2 (Nat.mul_pos hn hc) (Nat.mul_pos hd hc)).unique
    ((isFloorLog2_floorLog2 hn hd).scale hc)

/-- The exponent of a natural number is its logarithm. -/
theorem floorLog2_one {n : Nat} (hn : 0 < n) : floorLog2 n 1 = n.log2 := by
  refine (isFloorLog2_floorLog2 hn Nat.one_pos).unique ⟨?_, ?_⟩
  · have hlow := Nat.log2_self_le (Nat.pos_iff_ne_zero.mp hn)
    simpa using hlow
  · have hhigh := Nat.lt_log2_self (n := n)
    have hneg : (-((n.log2 : Int) + 1)).toNat = 0 := by omega
    have hpos : ((n.log2 : Int) + 1).toNat = n.log2 + 1 := by omega
    rw [hneg, hpos]
    simpa using hhigh

/-! ## The double -/

/-- A quotient is rounded in the same way however it is written. -/
theorem ofRatio_scale (negative : Bool) (n : Nat) {d c : Nat} (hd : 0 < d) (hc : 0 < c) :
    ofRatio negative (n * c) (d * c) = ofRatio negative n d := by
  by_cases hn : n = 0
  · subst hn
    rw [Nat.zero_mul, ofRatio, ofRatio, if_pos rfl, if_pos rfl]
  · have hpos : 0 < n := Nat.pos_of_ne_zero hn
    have hnc : n * c ≠ 0 := Nat.ne_of_gt (Nat.mul_pos hpos hc)
    rw [ofRatio, ofRatio, if_neg hnc, if_neg hn]
    simp only [floorLog2_scale hpos hd hc, Nat.mul_right_comm _ c, roundToEven_scale _ _ hc]

end PowerTelemetry.Binary64
