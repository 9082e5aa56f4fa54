import PowerTelemetry.Proofs.Binary64.Whole
import PowerTelemetry.Settings.Source
/-!
# Settings that are read fulfil the rules

Whatever text settings come from, they have passed all rules
(`Settings.holds_of_ofText`).  For the throttle this bounds the limits of its
controller (`Settings.throttle_bounds_of_ofText`).
-/

namespace PowerTelemetry

/-- A positive integer as a double is the natural number as a double. -/
theorem Binary64.ofInt_natCast (n : Nat) : Binary64.ofInt n = Binary64.ofNat n := by
  have hsign : decide ((n : Int) < 0) = false := decide_eq_false (by omega)
  rw [ofInt, ofNat, hsign, Int.natAbs_natCast]

namespace Settings

/-- All rules are looked at. -/
theorem mem_rules (r : Rule) : r ∈ Rule.all := by
  cases r <;> decide

/-- Settings that break no rule fulfil each of them. -/
theorem holds_of_broken? {s : Settings} (h : s.broken? = none) (r : Rule) : r.holds s := by
  have hfind := List.find?_eq_none.mp h r (mem_rules r)
  simpa using hfind

theorem eq_of_checked {s t : Settings} (h : s.checked = .ok t) : s = t ∧ t.broken? = none := by
  rw [checked] at h
  split at h
  · cases h
  · rename_i hbroken
    obtain rfl := Except.ok.inj h
    exact ⟨rfl, hbroken⟩

/-- Settings that are read fulfil every rule. -/
theorem holds_of_ofText {env : Environment} {text : String} {s : Settings}
    (h : ofText env text = .ok s) (r : Rule) : r.holds s := by
  rw [ofText] at h
  split at h
  · rw [ofExpanded] at h
    split at h
    · exact holds_of_broken? (eq_of_checked h).2 r
    · cases h
  · cases h

/-- The limits of the throttle lie within the set-points that devices take. -/
theorem throttle_bounds_of_ofText {env : Environment} {text : String} {s : Settings}
    (h : ofText env text = .ok s) :
    0 ≤ s.throttle.baseWatts.toInt ∧ s.throttle.baseWatts.toInt ≤ s.throttle.maxWatts.toInt ∧
      s.throttle.maxWatts.toInt ≤ 6000 := by
  have hbase := holds_of_ofText h .baseWatts
  have hmax := holds_of_ofText h .maxWatts
  simp only [Rule.holds, Bool.and_eq_true, decide_eq_true_eq, Int64.le_iff_toInt_le,
    Int64.toInt_zero] at hbase
  obtain ⟨hfloor, horder⟩ := hbase
  refine ⟨hfloor, horder, ?_⟩
  have hceiling := s.throttle.maxWatts.toInt_lt
  obtain ⟨n, hn⟩ := Int.eq_ofNat_of_zero_le (hfloor.trans horder)
  rw [Rule.holds, hn, Binary64.ofInt_natCast] at hmax
  have hle := (Binary64.le_ofNat_iff (by omega) (by decide)).mp hmax
  omega

end Settings

end PowerTelemetry
