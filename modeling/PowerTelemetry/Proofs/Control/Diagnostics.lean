import Mathlib.Data.List.Sort
import Mathlib.Order.Bounds.Basic
import Mathlib.Tactic.Linarith
import PowerTelemetry.Proofs.Binary64.Value
import PowerTelemetry.Proofs.Control.Request
import PowerTelemetry.Proofs.Control.Sums
/-!
# What a window looks like

A decision reports the least and the greatest power of its window and the median.

* `sorted_perm`, `sorted_pairwise` and `sorted_eq_of_perm` say that powers are put in
  ascending order, which depends on nothing but how often each of them occurs.
* `Middle` says what is in the middle of a list.  `median?_odd` and `median?_even` are the
  two ways to it, and `exists_median?_middle` says that it is found exactly as long as the
  sum of two numbers is a double.
* `diagnostics` puts this together for lists and for windows.
-/

namespace PowerTelemetry.Control

variable {a : Arithmetic} {s values : List Int}

/-! ## Ascending order -/

theorem sorted_perm (values : List Int) : (sorted values).Perm values :=
  List.mergeSort_perm _ _

theorem sorted_pairwise (values : List Int) : (sorted values).Pairwise (· ≤ ·) :=
  List.pairwise_mergeSort' (· ≤ ·) values

theorem sorted_eq_of_perm {other : List Int} (h : other.Perm values) :
    sorted other = sorted values :=
  ((sorted_perm other).trans (h.trans (sorted_perm values).symm)).eq_of_pairwise'
    (sorted_pairwise other) (sorted_pairwise values)

theorem sorted_ne_nil (h : values ≠ []) : sorted values ≠ [] := by
  intro hnil
  have hperm := sorted_perm values
  rw [hnil] at hperm
  exact h hperm.symm.eq_nil

/-- The first number in ascending order is the least one. -/
theorem isLeast_headD_sorted (h : values ≠ []) :
    IsLeast {v | v ∈ values} ((sorted values).headD 0) := by
  obtain ⟨first, rest, hsorted⟩ := List.exists_cons_of_ne_nil (sorted_ne_nil h)
  have hmem (v : Int) : v ∈ values ↔ v ∈ first :: rest := by
    rw [← hsorted, (sorted_perm values).mem_iff]
  have hpairwise := sorted_pairwise values
  rw [hsorted, List.pairwise_cons] at hpairwise
  rw [hsorted]
  refine ⟨(hmem _).mpr List.mem_cons_self, fun v hv => ?_⟩
  rcases List.mem_cons.mp ((hmem v).mp hv) with rfl | hv
  · exact le_refl _
  · exact hpairwise.1 v hv

/-- The last number in ascending order is the greatest one. -/
theorem isGreatest_getLastD_sorted (h : values ≠ []) :
    IsGreatest {v | v ∈ values} ((sorted values).getLastD 0) := by
  obtain ⟨rest, last, hsorted⟩ :=
    (List.eq_nil_or_concat' (sorted values)).resolve_left (sorted_ne_nil h)
  have hmem (v : Int) : v ∈ values ↔ v ∈ rest ++ [last] := by
    rw [← hsorted, (sorted_perm values).mem_iff]
  have hpairwise := sorted_pairwise values
  rw [hsorted, List.pairwise_append] at hpairwise
  have hlast : (sorted values).getLastD 0 = last := by
    rw [hsorted, List.getLastD_concat]
  rw [hlast]
  refine ⟨(hmem _).mpr (by simp), fun v hv => ?_⟩
  rcases List.mem_append.mp ((hmem v).mp hv) with hv | hv
  · exact hpairwise.2.2 v hv last (List.mem_singleton_self last)
  · exact (List.mem_singleton.mp hv).le

/-! ## The middle -/

/-- What is in the middle of a list: the middle number, or the mean of the two middle
ones. -/
inductive Middle (s : List Int) : ℚ → Prop where
  | odd {k : Nat} {v : Int} (hlength : s.length = 2 * k + 1) (hv : s[k]? = some v) : Middle s v
  | even {k : Nat} {v w : Int} (hlength : s.length = 2 * k + 2) (hv : s[k]? = some v)
      (hw : s[k + 1]? = some w) : Middle s ((v + w) / 2)

theorem Middle.le_of_forall {q : ℚ} (h : Middle s q) {l : Int} (hl : ∀ v ∈ s, l ≤ v) :
    (l : ℚ) ≤ q := by
  cases h with
  | odd hlength hv => exact_mod_cast hl _ (List.mem_of_getElem? hv)
  | even hlength hv hw =>
    have hv' : (l : ℚ) ≤ _ := Int.cast_le.mpr (hl _ (List.mem_of_getElem? hv))
    have hw' : (l : ℚ) ≤ _ := Int.cast_le.mpr (hl _ (List.mem_of_getElem? hw))
    linarith

theorem Middle.ge_of_forall {q : ℚ} (h : Middle s q) {g : Int} (hg : ∀ v ∈ s, v ≤ g) :
    q ≤ g := by
  cases h with
  | odd hlength hv => exact_mod_cast hg _ (List.mem_of_getElem? hv)
  | even hlength hv hw =>
    have hv' : _ ≤ (g : ℚ) := Int.cast_le.mpr (hg _ (List.mem_of_getElem? hv))
    have hw' : _ ≤ (g : ℚ) := Int.cast_le.mpr (hg _ (List.mem_of_getElem? hw))
    linarith

/-- A list with numbers has one in the middle, or two. -/
theorem middle_cases (h : s ≠ []) :
    (∃ k v, s.length = 2 * k + 1 ∧ s[k]? = some v) ∨
      ∃ k v w, s.length = 2 * k + 2 ∧ s[k]? = some v ∧ s[k + 1]? = some w := by
  have hpos := List.length_pos_iff.mpr h
  rcases Nat.even_or_odd' (s.length - 1) with ⟨k, hk | hk⟩
  · have hlt : k < s.length := by omega
    exact .inl ⟨k, s[k], by omega, List.getElem?_eq_getElem hlt⟩
  · have hlt : k < s.length := by omega
    have hlt' : k + 1 < s.length := by omega
    exact .inr ⟨k, s[k], s[k + 1], by omega, List.getElem?_eq_getElem hlt,
      List.getElem?_eq_getElem hlt'⟩

namespace Arithmetic

theorem median?_odd (a : Arithmetic) {k : Nat} {v : Int} (hlength : s.length = 2 * k + 1)
    (hv : s[k]? = some v) : a.median? s = .ok (some (Binary64.ofInt v)) := by
  have hempty : s.isEmpty = false :=
    List.isEmpty_eq_false_iff_exists_mem.mpr ⟨v, List.mem_of_getElem? hv⟩
  have hhalf : s.length / 2 = k := by omega
  have hodd : ¬s.length % 2 = 0 := by omega
  simp only [median?, hempty, Bool.false_eq_true, if_false, hhalf, if_neg hodd,
    List.getD_eq_getElem?_getD, hv, Option.getD_some]

theorem median?_even (a : Arithmetic) {k : Nat} {v w : Int} (hlength : s.length = 2 * k + 2)
    (hv : s[k]? = some v) (hw : s[k + 1]? = some w) :
    a.median? s = do
      let sum ← a.narrow (v + w)
      return some ((Binary64.ofInt sum).div (Binary64.ofNat 2)) := by
  have hempty : s.isEmpty = false :=
    List.isEmpty_eq_false_iff_exists_mem.mpr ⟨v, List.mem_of_getElem? hv⟩
  have hhalf : s.length / 2 = k + 1 := by omega
  have heven : s.length % 2 = 0 := by omega
  simp only [median?, hempty, Bool.false_eq_true, if_false, hhalf, if_pos heven,
    Nat.add_sub_cancel, List.getD_eq_getElem?_getD, hv, hw, Option.getD_some]

/-- The sums of moderate numbers are the same in every arithmetic. -/
theorem median?_eq (a b : Arithmetic) (hbound : ∀ v ∈ s, v.natAbs ≤ 2 ^ 61) :
    a.median? s = b.median? s := by
  by_cases hne : s = []
  · rw [hne]
    rfl
  rcases middle_cases hne with ⟨k, v, hlength, hv⟩ | ⟨k, v, w, hlength, hv, hw⟩
  · rw [a.median?_odd hlength hv, b.median?_odd hlength hv]
  · have hv' := hbound v (List.mem_of_getElem? hv)
    have hw' := hbound w (List.mem_of_getElem? hw)
    have hfits : fits (v + w) := fits_of_natAbs_le (by omega)
    rw [a.median?_even hlength hv hw, b.median?_even hlength hv hw, a.narrow_of_fits hfits,
      b.narrow_of_fits hfits]

/-- With sums that wrap there is always a median. -/
theorem exists_median? (hne : s ≠ []) : ∃ m, wrapping.median? s = .ok (some m) := by
  rcases middle_cases hne with ⟨k, v, hlength, hv⟩ | ⟨k, v, w, hlength, hv, hw⟩
  · exact ⟨_, wrapping.median?_odd hlength hv⟩
  · rw [wrapping.median?_even hlength hv hw]
    exact ⟨_, rfl⟩

end Arithmetic

/-- Half an integer below `2^53` in magnitude is a double. -/
theorem value?_half {i : Int} (h : i.natAbs < 2 ^ 53) :
    ((Binary64.ofInt i).div (Binary64.ofNat 2)).value? = some ((i : ℚ) / 2) := by
  have htwo : (Binary64.ofNat 2).value? = some 2 := by
    exact_mod_cast Binary64.value?_ofNat (Binary64.representable_natCast (show 2 < 2 ^ 53 by decide))
  refine Binary64.value?_div (Binary64.value?_ofInt h) htwo two_ne_zero ?_
  refine ⟨i.natAbs, -1, h, by decide, by decide, ?_⟩
  rw [abs_div, abs_two, zpow_neg_one, div_eq_mul_inv, Nat.cast_natAbs, Int.cast_abs]

/-- The median of numbers that leave room for their sums is exactly what is in the
middle. -/
theorem exists_median?_middle (a : Arithmetic) (hne : s ≠ [])
    (hbound : ∀ v ∈ s, v.natAbs ≤ 2 ^ 51) :
    ∃ m q, a.median? s = .ok (some m) ∧ m.value? = some q ∧ Middle s q := by
  rcases middle_cases hne with ⟨k, v, hlength, hv⟩ | ⟨k, v, w, hlength, hv, hw⟩
  · have hv' := hbound v (List.mem_of_getElem? hv)
    exact ⟨_, _, a.median?_odd hlength hv, Binary64.value?_ofInt (by omega), .odd hlength hv⟩
  · have hv' := hbound v (List.mem_of_getElem? hv)
    have hw' := hbound w (List.mem_of_getElem? hw)
    have hfits : fits (v + w) := fits_of_natAbs_le (by omega)
    refine ⟨_, _, ?_, value?_half (i := v + w) (by omega), ?_⟩
    · rw [a.median?_even hlength hv hw, a.narrow_of_fits hfits]
      rfl
    · rw [Int.cast_add]
      exact .even hlength hv hw

/-! ## Windows -/

/-- Of the readings before the newest one, a decision sees nothing but which powers there
are. -/
theorem decide?_eq_of_perm {limits : Limits} {newest : Reading} {older other : List Reading}
    (h : other.Perm older) :
    a.decide? limits (newest :: other) = a.decide? limits (newest :: older) := by
  have hpowers : sorted ((newest :: other).map (·.currentPower))
      = sorted ((newest :: older).map (·.currentPower)) :=
    sorted_eq_of_perm ((h.cons newest).map _)
  simp only [Arithmetic.decide?, hpowers]

/-- With sums that wrap, only limits that leave nothing between them stop a decision. -/
theorem exists_decide?_wrapping {limits : Limits} (hlimits : limits.floor ≤ limits.ceiling)
    (newest : Reading) (older : List Reading) :
    ∃ d, Arithmetic.wrapping.decide? limits (newest :: older) = .ok (some d) := by
  obtain ⟨working, hworking⟩ : ∃ working,
      Arithmetic.wrapping.workingRequest limits newest = .ok working := by
    rw [Arithmetic.workingRequest, Arithmetic.reduced]
    split <;> exact ⟨_, rfl⟩
  obtain ⟨median, hmedian⟩ := Arithmetic.exists_median?
    (s := sorted ((newest :: older).map (·.currentPower))) (sorted_ne_nil (by simp))
  obtain ⟨d, hdecides, -⟩ := exists_decides hworking hmedian
    (newRequest_of_found hlimits (.inl rfl) (.inl rfl))
  exact ⟨d, decide?_eq_some_iff.mpr hdecides⟩

/-- Medians and what decisions report of their windows are order statistics.

Sorting is an ascending permutation, and the median is exactly what is in its middle,
between the least and the greatest number; no other order of the same numbers changes it.
A decision reports the least and the greatest power and the median of all powers of its
window, and the order of the readings before the newest one changes nothing in it. -/
theorem diagnostics (a : Arithmetic) :
    (∀ values : List Int, values ≠ [] → (∀ v ∈ values, v.natAbs ≤ 2 ^ 51) →
      (sorted values).Perm values ∧ (sorted values).Pairwise (· ≤ ·) ∧
      ∃ m q, a.median? (sorted values) = .ok (some m) ∧ m.value? = some q ∧
        Middle (sorted values) q ∧
        (∀ least, IsLeast {v | v ∈ values} least → (least : ℚ) ≤ q) ∧
        (∀ greatest, IsGreatest {v | v ∈ values} greatest → q ≤ greatest) ∧
        ∀ other : List Int, other.Perm values →
          sorted other = sorted values ∧ a.median? (sorted other) = .ok (some m)) ∧
    ∀ (limits : Limits) (newest : Reading) (older : List Reading),
      (∀ r ∈ newest :: older, r.currentPower.natAbs ≤ 2 ^ 51) →
        (limits.floor ≤ limits.ceiling →
          ∃ d, Arithmetic.wrapping.decide? limits (newest :: older) = .ok (some d)) ∧
        (∀ d, a.decide? limits (newest :: older) = .ok (some d) →
          IsLeast {p | p ∈ (newest :: older).map (·.currentPower)} d.least ∧
          IsGreatest {p | p ∈ (newest :: older).map (·.currentPower)} d.greatest ∧
          ∃ q, d.median.value? = some q ∧
            Middle (sorted ((newest :: older).map (·.currentPower))) q ∧
            (d.least : ℚ) ≤ q ∧ q ≤ d.greatest) ∧
        ∀ other : List Reading, other.Perm older →
          a.decide? limits (newest :: other) = a.decide? limits (newest :: older) := by
  -- What is in the middle is between the ends, since all numbers are.
  have hends {values : List Int} {q : ℚ} (hmiddle : Middle (sorted values) q) :
      (∀ least, IsLeast {v | v ∈ values} least → (least : ℚ) ≤ q) ∧
        ∀ greatest, IsGreatest {v | v ∈ values} greatest → q ≤ greatest :=
    ⟨fun _ h => hmiddle.le_of_forall fun v hv => h.2 ((sorted_perm values).mem_iff.mp hv),
      fun _ h => hmiddle.ge_of_forall fun v hv => h.2 ((sorted_perm values).mem_iff.mp hv)⟩
  have hmedian {values : List Int} (hne : values ≠ []) (hbound : ∀ v ∈ values, v.natAbs ≤ 2 ^ 51) :=
    exists_median?_middle a (sorted_ne_nil hne)
      fun v hv => hbound v ((sorted_perm values).mem_iff.mp hv)
  refine ⟨fun values hne hbound => ?list, fun limits newest older hbound => ?window⟩
  case list =>
    obtain ⟨m, q, hm, hq, hmiddle⟩ := hmedian hne hbound
    refine ⟨sorted_perm values, sorted_pairwise values, m, q, hm, hq, hmiddle,
      (hends hmiddle).1, (hends hmiddle).2, fun other hperm => ?_⟩
    rw [sorted_eq_of_perm hperm]
    exact ⟨rfl, hm⟩
  case window =>
    refine ⟨fun hlimits => exists_decide?_wrapping hlimits newest older, fun d hd => ?_,
      fun other hperm => decide?_eq_of_perm hperm⟩
    have hne : (newest :: older).map (·.currentPower) ≠ [] := by simp
    have hdecides := decide?_eq_some_iff.mp hd
    obtain ⟨m, q, hm, hq, hmiddle⟩ := hmedian hne (by simpa using hbound)
    obtain rfl : m = d.median := by simpa using hm.symm.trans hdecides.median
    have hleast := isLeast_headD_sorted hne
    have hgreatest := isGreatest_getLastD_sorted hne
    rw [← hdecides.least] at hleast
    rw [← hdecides.greatest] at hgreatest
    exact ⟨hleast, hgreatest, q, hq, hmiddle, (hends hmiddle).1 _ hleast,
      (hends hmiddle).2 _ hgreatest⟩

/-- Two numbers in the middle, and a mean that is no whole number. -/
theorem diagnostics_halfway :
    ∃ m, median? (sorted [7, -2, 9, 2]) = .ok (some m) ∧ m.value? = some (9 / 2) := by
  have hsorted : sorted [7, -2, 9, 2] = [-2, 2, 7, 9] := by
    have hperm : [7, -2, 9, 2].Perm [(-2 : Int), 2, 7, 9] := by decide
    rw [sorted_eq_of_perm hperm]
    exact List.mergeSort_of_pairwise (by decide)
  have hbound : ∀ v ∈ [(7 : Int), -2, 9, 2], v.natAbs ≤ 2 ^ 51 := by simp
  obtain ⟨-, -, m, q, hm, hq, hmiddle, -⟩ :=
    (diagnostics .checked).1 [7, -2, 9, 2] (by decide) hbound
  refine ⟨m, hm, hq.trans (congrArg some ?_)⟩
  rw [hsorted] at hmiddle
  cases hmiddle with
  | odd hlength hv => simp at hlength; omega
  | @even k v w hlength hv hw =>
    obtain rfl : k = 1 := by simp at hlength; omega
    obtain rfl : 2 = v := Option.some.inj hv
    obtain rfl : 7 = w := Option.some.inj hw
    norm_num

end PowerTelemetry.Control
