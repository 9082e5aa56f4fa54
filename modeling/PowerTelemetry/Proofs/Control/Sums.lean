import PowerTelemetry.Control.Decision
/-!
# Sums of 64-bit numbers

A sum that is found is the 64-bit number that differs from it by a multiple of `2^64`
(`narrow_eq_ok`), and the sum itself if it fits (`narrow_of_fits`).  Checked and wrapping
sums differ only in that the first ones may not be found (`narrow_of_found`).

A number that is taken away and added again leaves no trace, however far the difference
goes beyond the range (`bmod_add_sub`).
-/

namespace PowerTelemetry.Control

variable {a : Arithmetic} {i j : Int}

/-- The number of 64-bit numbers. -/
theorem pow_sixty_four_eq : Nat.pow 2 64 = 18446744073709551616 := rfl

theorem fits_iff : fits i ↔ -9223372036854775808 ≤ i ∧ i < 9223372036854775808 := by
  have hpow : Nat.pow 2 63 = 9223372036854775808 := rfl
  rw [fits, decide_eq_true_eq, hpow]
  omega

/-- Numbers up to `2^62` in magnitude are of 64 bits. -/
theorem fits_of_natAbs_le (h : i.natAbs ≤ 4611686018427387904) : fits i := by
  rw [fits_iff]
  omega

theorem bmod_of_fits (h : fits i) : i.bmod (Nat.pow 2 64) = i := by
  rw [fits_iff] at h
  rw [pow_sixty_four_eq]
  exact Int.bmod_eq_of_le (by omega) (by omega)

theorem fits_bmod (i : Int) : fits (i.bmod (Nat.pow 2 64)) := by
  have hlow := Int.le_bmod (x := i) (m := Nat.pow 2 64) (by decide)
  have hhigh := Int.bmod_lt (x := i) (m := Nat.pow 2 64) (by decide)
  rw [fits_iff]
  rw [pow_sixty_four_eq] at *
  omega

theorem bmod_add_sub (i j : Int) :
    (j + (i - j).bmod (Nat.pow 2 64)).bmod (Nat.pow 2 64) = i.bmod (Nat.pow 2 64) := by
  rw [Int.add_bmod_bmod]
  congr 1
  omega

namespace Arithmetic

theorem narrow_of_found (h : a = .wrapping ∨ fits i) :
    a.narrow i = .ok (i.bmod (Nat.pow 2 64)) := by
  cases a with
  | wrapping => rfl
  | checked =>
    have hfits : fits i := by simpa using h
    rw [narrow, if_pos hfits, bmod_of_fits hfits]

theorem narrow_of_fits (a : Arithmetic) (h : fits i) : a.narrow i = .ok i := by
  rw [narrow_of_found (.inr h), bmod_of_fits h]

theorem narrow_of_not_fits (h : fits i = false) : checked.narrow i = .error .overflow := by
  rw [narrow, h, if_neg Bool.false_ne_true]

theorem narrow_eq_ok (h : a.narrow i = .ok j) : j = i.bmod (Nat.pow 2 64) := by
  cases hfits : fits i with
  | true =>
    rw [narrow_of_fits a hfits] at h
    rw [bmod_of_fits hfits]
    exact (Except.ok.inj h).symm
  | false =>
    cases a with
    | wrapping => exact (Except.ok.inj h).symm
    | checked =>
      rw [narrow_of_not_fits hfits] at h
      cases h

end Arithmetic

end PowerTelemetry.Control
