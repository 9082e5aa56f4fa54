import PowerTelemetry.Proofs.Binary64.Integral
import PowerTelemetry.Proofs.Column.Names
import PowerTelemetry.Sql.Datum
/-!
# Numbers in columns

A double is looked at three times: when it comes in as a value, when its column gets a
kind, and when it is bound to a statement.  All three ask whether it is integral.

* `ofBinary64_of_isIntegral`, `kindOf_of_isIntegral`, `ofCell_of_isIntegral` and the
  lemmas beside them say what each of them does.
* `numbers_agree` says what this is in terms of the number that the double denotes.
  Attributes of the timestamp column are apart: this column holds instants whatever
  comes, so there even an infinity has a column (`not_refuses_infinity`).
-/

namespace PowerTelemetry.Column

open Sql (Datum)

variable {x : Binary64}

/-! ## Integral doubles -/

theorem isFinite_of_isIntegral (h : x.isIntegral) : x.isFinite := by
  rw [Binary64.isIntegral, Bool.and_eq_true, Bool.and_eq_true] at h
  exact h.1.1

theorem int64?_of_isIntegral (h : x.isIntegral) : x.int64? = some x.toInt64 := by
  rw [Binary64.int64?, if_pos h]

theorem ofBinary64_of_isIntegral (path : String) (h : x.isIntegral) :
    Value.ofBinary64 path x = .ok (.integer x.toInt64) := by
  rw [Value.ofBinary64, isFinite_of_isIntegral h, int64?_of_isIntegral h]
  rfl

theorem kindOf_of_isIntegral (path : String) (h : x.isIntegral) :
    kindOf path (.decimal x) = .ok .integer := by
  simp only [kindOf, isFinite_of_isIntegral h, h, Bool.not_true, Bool.false_eq_true, if_false,
    if_true]

theorem ofCell_of_isIntegral (capturedAt : Instant) {kind : ColumnKind} (hkind : kind ≠ .timestamp)
    (h : x.isIntegral) :
    Datum.ofCell capturedAt ⟨kind, .decimal x⟩ = .integer (some x.toInt64) := by
  simp only [Datum.ofCell, if_neg hkind, int64?_of_isIntegral h]

/-! ## Other doubles -/

theorem int64?_of_not_isIntegral (h : x.isIntegral = false) : x.int64? = none := by
  rw [Binary64.int64?, if_neg (by simp [h])]

theorem ofBinary64_of_not_isIntegral (path : String) (hfinite : x.isFinite)
    (h : x.isIntegral = false) : Value.ofBinary64 path x = .ok (.decimal x) := by
  rw [Value.ofBinary64, hfinite, int64?_of_not_isIntegral h]
  rfl

theorem kindOf_of_not_isIntegral (path : String) (hfinite : x.isFinite)
    (h : x.isIntegral = false) : kindOf path (.decimal x) = .ok .decimal := by
  simp only [kindOf, hfinite, h, Bool.not_true, Bool.false_eq_true, if_false]

theorem ofCell_of_not_isIntegral (capturedAt : Instant) {kind : ColumnKind}
    (hkind : kind ≠ .timestamp) (h : x.isIntegral = false) :
    Datum.ofCell capturedAt ⟨kind, .decimal x⟩ = .float (some x) := by
  simp only [Datum.ofCell, if_neg hkind, int64?_of_not_isIntegral h]

/-! ## No numbers -/

theorem ofBinary64_of_not_isFinite (path : String) (h : x.isFinite = false) :
    Value.ofBinary64 path x = .error (.nonFinite path x) := by
  rw [Value.ofBinary64, h]
  rfl

theorem infer_of_not_isFinite {path : String} (hname : normalizeName path ≠ timestampName)
    (h : x.isFinite = false) : infer path (.decimal x) = .error (.nonFinite path x) := by
  rw [infer, if_neg hname, kindOf, h]
  rfl

/-- The three looks at a double agree, and follow the number that it denotes.  A double
that denotes an integer below `2^63` in magnitude is this integer, in an integer column;
any other finite one stays a decimal; and what is no real number is refused.  Only a
timestamp column holds instants instead, and takes every double. -/
theorem numbers_agree (x : Binary64) (path : String) (capturedAt : Instant) :
    (x.isIntegral ↔ ∃ n : ℤ, x.value? = some (n : ℚ) ∧ n.natAbs < 2 ^ 63) ∧
      (∀ n : ℤ, x.value? = some (n : ℚ) → n.natAbs < 2 ^ 63 →
        ∃ i : Int64, i.toInt = n ∧
          Value.ofBinary64 path x = .ok (.integer i) ∧
          (normalizeName path ≠ timestampName →
            infer path (.decimal x) = .ok ⟨normalizeName path, .integer⟩) ∧
          ∀ kind, kind ≠ .timestamp →
            Datum.ofCell capturedAt ⟨kind, .integer i⟩ = .integer (some i) ∧
            Datum.ofCell capturedAt ⟨kind, .decimal x⟩ = .integer (some i)) ∧
      (x.isFinite → (¬∃ n : ℤ, x.value? = some (n : ℚ) ∧ n.natAbs < 2 ^ 63) →
        Value.ofBinary64 path x = .ok (.decimal x) ∧
        (normalizeName path ≠ timestampName →
          infer path (.decimal x) = .ok ⟨normalizeName path, .decimal⟩) ∧
        ∀ kind, kind ≠ .timestamp →
          Datum.ofCell capturedAt ⟨kind, .decimal x⟩ = .float (some x)) ∧
      (x.isFinite = false →
        x.value? = none ∧
        Value.ofBinary64 path x = .error (.nonFinite path x) ∧
        (normalizeName path ≠ timestampName →
          infer path (.decimal x) = .error (.nonFinite path x))) ∧
      (normalizeName path = timestampName →
        infer path (.decimal x) = .ok ⟨timestampName, .timestamp⟩ ∧
        Datum.ofCell capturedAt ⟨.timestamp, .decimal x⟩ = .instant capturedAt) := by
  refine ⟨Binary64.isIntegral_iff x, ?integer, ?decimal, ?none, ?timestamp⟩
  case integer =>
    intro n hvalue hlt
    have hintegral := (Binary64.isIntegral_iff x).mpr ⟨n, hvalue, hlt⟩
    refine ⟨x.toInt64, Binary64.toInt_toInt64 hvalue hlt, ofBinary64_of_isIntegral path hintegral,
      fun hname => infer_of_kindOf hname (kindOf_of_isIntegral path hintegral),
      fun kind hkind => ⟨?_, ofCell_of_isIntegral capturedAt hkind hintegral⟩⟩
    simp only [Datum.ofCell, if_neg hkind]
  case decimal =>
    intro hfinite hnot
    have hintegral : x.isIntegral = false := by
      rw [← Bool.not_eq_true, Binary64.isIntegral_iff]
      exact hnot
    exact ⟨ofBinary64_of_not_isIntegral path hfinite hintegral,
      fun hname => infer_of_kindOf hname (kindOf_of_not_isIntegral path hfinite hintegral),
      fun kind hkind => ofCell_of_not_isIntegral capturedAt hkind hintegral⟩
  case none =>
    intro hnot
    have hvalue : x.value? = none := by
      rw [← Option.not_isSome_iff_eq_none, Binary64.isSome_value?, hnot]
      exact Bool.false_ne_true
    exact ⟨hvalue, ofBinary64_of_not_isFinite path hnot, fun hname => infer_of_not_isFinite hname hnot⟩
  case timestamp =>
    intro hname
    exact ⟨infer_of_timestamp hname _, rfl⟩

/-- The greatest odd integer that a double can be. -/
private def oddest : Binary64 := ⟨0x433fffffffffffff⟩

/-- It is a whole number of watts, bound as such. -/
theorem numbers_agree_oddest :
    ∃ i : Int64, i.toInt = 9007199254740991 ∧
      Value.ofBinary64 "watts" oddest = .ok (.integer i) ∧
      Datum.ofCell ⟨0, 0⟩ ⟨.integer, .decimal oddest⟩ = .integer (some i) := by
  have hmeaning : oddest.meaning = .finite false 9007199254740991 0 := by decide +kernel
  have hvalue : oddest.value? = some ((9007199254740991 : ℤ) : ℚ) := by
    rw [Binary64.value?_of_meaning hmeaning, Binary64.signed, if_neg Bool.false_ne_true, zpow_zero,
      mul_one]
    norm_num
  obtain ⟨i, hi, hvalue', -, hbound⟩ :=
    (numbers_agree oddest "watts" ⟨0, 0⟩).2.1 9007199254740991 hvalue (by decide)
  exact ⟨i, hi, hvalue', (hbound .integer (by decide)).2⟩

/-- An infinity is not refused everywhere: the timestamp column takes it. -/
theorem not_refuses_infinity :
    ¬∀ (x : Binary64) (path : String), x.isFinite = false →
      infer path (.decimal x) = .error (.nonFinite path x) := by
  intro h
  have hrefused := h (Binary64.infinity false) timestampName (by decide +kernel)
  rw [infer_of_timestamp normalizeName_timestampName] at hrefused
  cases hrefused

end PowerTelemetry.Column
