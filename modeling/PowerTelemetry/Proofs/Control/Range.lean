import PowerTelemetry.Proofs.Control.Demand
import PowerTelemetry.Proofs.Settings.Rules
/-!
# Decisions without overflow

The rules bound the limits of a throttle, but not its margin.  This module says how much
room readings of 32 bits leave for it.

* With such a margin (`Limits.HasRoom`) every sum of a decision is one of 64 bits, so that
  checked and wrapping sums come to the same decision (`exists_decides_of_narrow`).
* With any other margin there is a reading whose sums go beyond the range
  (`exists_overflow`).

`decide?_of_ofText` puts this together for the settings that are read from a text.
-/

namespace PowerTelemetry.Control

variable {limits : Limits} {newest : Reading} {older : List Reading}

/-! ## Readings of 32 bits -/

/-- A number of 32 bits. -/
def Narrow (i : Int) : Prop :=
  -2 ^ 31 ≤ i ∧ i < 2 ^ 31

instance (i : Int) : Decidable (Narrow i) :=
  inferInstanceAs (Decidable (_ ∧ _))

/-- All whole numbers of a reading have 32 bits. -/
structure Reading.IsNarrow (r : Reading) : Prop where
  solarGeneration : Narrow r.solarGeneration
  houseInput : Narrow r.houseInput
  requested : Narrow r.requested
  batteryFillRequest : Narrow r.batteryFillRequest
  currentPower : Narrow r.currentPower
  outgoingPower : Narrow r.outgoingPower
  batteryFill : Narrow r.batteryFill

/-- A margin that can be taken away from every difference of 32-bit numbers, and leaves a
request that can be taken away from every sum of two. -/
def Limits.HasRoom (limits : Limits) : Prop :=
  -2 ^ 63 + 2 ^ 32 + 2 ^ 31 - 2 ≤ limits.margin ∧ limits.margin ≤ 2 ^ 63 - 2 ^ 32 + 1

instance (limits : Limits) : Decidable limits.HasRoom :=
  inferInstanceAs (Decidable (_ ∧ _))

/-! ## Enough room -/

theorem Reading.IsNarrow.fits_demand {r : Reading} (h : r.IsNarrow) : fits r.demand := by
  obtain ⟨hhouse, hhouse'⟩ := h.houseInput
  obtain ⟨hpower, hpower'⟩ := h.currentPower
  rw [fits_iff, demand]
  omega

theorem Limits.HasRoom.workingRequest (hroom : limits.HasRoom) (a : Arithmetic) {r : Reading}
    (h : r.IsNarrow) : a.workingRequest limits r = .ok (limits.start r) := by
  obtain ⟨hlow, hhigh⟩ := hroom
  obtain ⟨hrequested, hrequested'⟩ := h.requested
  obtain ⟨houtgoing, houtgoing'⟩ := h.outgoingPower
  refine workingRequest_of_fits a fun hgoes => ?_
  rw [fits_iff, fits_iff]
  omega

/-- The request to work from can be taken away from the demand. -/
theorem Limits.HasRoom.fits_difference (hroom : limits.HasRoom) (hfloor : limits.floor.natAbs ≤ 6000)
    {r : Reading} (h : r.IsNarrow) : fits (r.demand - limits.start r) := by
  obtain ⟨hlow, hhigh⟩ := hroom
  obtain ⟨hhouse, hhouse'⟩ := h.houseInput
  obtain ⟨hpower, hpower'⟩ := h.currentPower
  obtain ⟨hrequested, hrequested'⟩ := h.requested
  obtain ⟨houtgoing, houtgoing'⟩ := h.outgoingPower
  rw [fits_iff, Reading.demand, Limits.start]
  split
  · omega
  · split <;> omega

/-- The powers of narrow readings have one median in all arithmetics. -/
theorem exists_median?_of_narrow (hreadings : ∀ r ∈ newest :: older, r.IsNarrow) :
    ∃ median, ∀ a : Arithmetic,
      a.median? (sorted ((newest :: older).map (·.currentPower))) = .ok (some median) := by
  obtain ⟨median, hmedian⟩ := Arithmetic.exists_median?
    (s := sorted ((newest :: older).map (·.currentPower))) (sorted_ne_nil (by simp))
  refine ⟨median, fun a => (Arithmetic.median?_eq a .wrapping fun v hv => ?_).trans hmedian⟩
  obtain ⟨r, hr, rfl⟩ := List.mem_map.mp ((sorted_perm _).mem_iff.mp hv)
  obtain ⟨hpower, hpower'⟩ := (hreadings r hr).currentPower
  omega

/-- All arithmetics come to one decision, in which no sum goes beyond the range. -/
theorem exists_decides_of_narrow (hroom : limits.HasRoom) (hfloor : limits.floor.natAbs ≤ 6000)
    (hlimits : limits.floor ≤ limits.ceiling) (hreadings : ∀ r ∈ newest :: older, r.IsNarrow) :
    ∃ d, (∀ a : Arithmetic, a.decide? limits (newest :: older) = .ok (some d)) ∧
      d.working = limits.start newest ∧ d.request = limits.nearest newest.demand := by
  have hnewest : newest.IsNarrow := hreadings newest List.mem_cons_self
  have hdemand := hnewest.fits_demand
  obtain ⟨median, hmedian⟩ := exists_median?_of_narrow hreadings
  have hrequest (a : Arithmetic) :
      a.newRequest limits newest (limits.start newest) = .ok (limits.nearest newest.demand) := by
    have hdifference := hroom.fits_difference hfloor hnewest
    rw [newRequest_of_found hlimits (.inr hdemand), bmod_of_fits hdemand]
    rw [bmod_of_fits hdemand]
    exact .inr hdifference
  obtain ⟨d, hdecides, hworking, hd⟩ :=
    exists_decides (hroom.workingRequest .wrapping hnewest) (hmedian .wrapping) (hrequest .wrapping)
  refine ⟨d, fun a => decide?_eq_some_iff.mpr ?_, hworking, hd⟩
  obtain rfl : median = d.median := by simpa using (hmedian .wrapping).symm.trans hdecides.median
  exact ⟨hworking ▸ hroom.workingRequest a hnewest, hmedian a, hdecides.least, hdecides.greatest,
    hworking ▸ hd ▸ hrequest a, hdecides.setpoint⟩

/-! ## Too little room -/

/-- The house feeds in all it can while the inverter is asked for all it can. -/
def feedingIn : Reading :=
  { (default : Reading) with
    houseInput := -2 ^ 31, requested := 2 ^ 31 - 1, currentPower := -2 ^ 31, outgoingPower := 1 }

/-- More goes out than a request of 32 bits can be reduced by. -/
def goingOut : Reading :=
  { (default : Reading) with requested := -2 ^ 31, outgoingPower := 2 ^ 31 - 1 }

theorem isNarrow_feedingIn : feedingIn.IsNarrow := by
  constructor <;> decide

theorem isNarrow_goingOut : goingOut.IsNarrow := by
  constructor <;> decide

/-- A difference from which the margin cannot be taken away. -/
theorem decide?_overflow_of_margin (hgoes : 0 < newest.outgoingPower)
    (hfirst : fits (newest.requested - newest.outgoingPower))
    (hsecond : fits (newest.requested - newest.outgoingPower - limits.margin) = false) :
    decide? limits (newest :: older) = .error .overflow := by
  have hworking : Arithmetic.checked.workingRequest limits newest = .error .overflow := by
    rw [Arithmetic.workingRequest, Arithmetic.reduced, if_pos hgoes,
      Arithmetic.narrow_of_fits _ hfirst, ok_bind, Arithmetic.narrow_of_not_fits hsecond]
    rfl
  rw [decide?, Arithmetic.decide?, hworking]
  rfl

theorem not_fits_iff {i : Int} :
    fits i = false ↔ i < -9223372036854775808 ∨ 9223372036854775808 ≤ i := by
  rw [← Bool.not_eq_true, fits_iff]
  omega

/-- Any other margin is too much for one of two readings. -/
theorem exists_overflow (hroom : ¬limits.HasRoom) :
    ∃ r : Reading, r.IsNarrow ∧ decide? limits [r] = .error .overflow := by
  by_cases hhigh : limits.margin ≤ 2 ^ 63 - 2 ^ 32 + 1
  · have hlow : limits.margin < -2 ^ 63 + 2 ^ 32 + 2 ^ 31 - 2 := by
      by_contra hge
      exact hroom ⟨by omega, hhigh⟩
    refine ⟨feedingIn, isNarrow_feedingIn, ?_⟩
    have hgoes : feedingIn.requested - feedingIn.outgoingPower = 2 ^ 31 - 2 := rfl
    by_cases hsecond : fits (feedingIn.requested - feedingIn.outgoingPower - limits.margin)
    · have hreadings : ∀ r ∈ [feedingIn], r.IsNarrow := by simpa using isNarrow_feedingIn
      obtain ⟨median, hmedian⟩ := exists_median?_of_narrow hreadings
      have hfirst : fits (feedingIn.requested - feedingIn.outgoingPower) := by decide
      have hstart : limits.start feedingIn
          = max (feedingIn.requested - feedingIn.outgoingPower - limits.margin) limits.floor := rfl
      have hdemand : feedingIn.demand = -2 ^ 32 := rfl
      refine decide?_overflow_of_difference
        (workingRequest_of_fits .checked fun _ => ⟨hfirst, hsecond⟩) (hmedian .checked)
        isNarrow_feedingIn.fits_demand ?_
      rw [not_fits_iff, hstart, hgoes, hdemand]
      omega
    · exact decide?_overflow_of_margin (by decide) (by decide) (by simpa using hsecond)
  · refine ⟨goingOut, isNarrow_goingOut, decide?_overflow_of_margin (by decide) (by decide) ?_⟩
    have hgoes : goingOut.requested - goingOut.outgoingPower = -2 ^ 32 + 1 := rfl
    rw [not_fits_iff, hgoes]
    omega

/-! ## Settings -/

/-- Whatever settings are read, readings of 32 bits cannot make a sum of a decision overflow
if the margin leaves room for them: checked sums come to a decision, and wrapping sums to the
same one, which has the request to work from and the new request as they are over the
integers.  With any other margin there is a reading that makes a checked sum overflow. -/
theorem decide?_of_ofText {env : Environment} {text : String} {s : Settings}
    (h : Settings.ofText env text = .ok s) :
    (s.throttle.limits.HasRoom →
      ∀ newest older, (∀ r ∈ newest :: older, r.IsNarrow) →
        ∃ d, (∀ a : Arithmetic, a.decide? s.throttle.limits (newest :: older) = .ok (some d)) ∧
          d.working = s.throttle.limits.start newest ∧
          d.request = s.throttle.limits.nearest newest.demand) ∧
    (¬s.throttle.limits.HasRoom →
      ∃ r : Reading, r.IsNarrow ∧
        decide? s.throttle.limits [r] = .error .overflow) := by
  obtain ⟨hfloor, hlimits, hceiling⟩ := Settings.throttle_bounds_of_ofText h
  have hsmall : s.throttle.limits.floor.natAbs ≤ 6000 := by
    rw [ThrottleSettings.limits]
    simp only
    omega
  exact ⟨fun hroom newest older => exists_decides_of_narrow hroom hsmall hlimits,
    exists_overflow⟩

/-- A throttle with a margin. -/
private def marginText (margin : String) : String :=
  "mqtt:\n  host: h\n  port: 1\ndatabase:\n  url: postgres://h/d\nthrottle:\n  margin_watts: "
    ++ margin

private theorem ofText_marginText (margin : String) (limits : Limits)
    (h : (Settings.ofText (fun _ => none) (marginText margin)).toOption.map (·.throttle.limits)
      = some limits) :
    ∃ s, Settings.ofText (fun _ => none) (marginText margin) = .ok s ∧
      s.throttle.limits = limits := by
  obtain ⟨s, hs, hlimits⟩ := Option.map_eq_some_iff.mp h
  cases htext : Settings.ofText (fun _ => none) (marginText margin) with
  | error e =>
    rw [htext] at hs
    cases hs
  | ok found =>
    rw [htext] at hs
    exact ⟨s, congrArg Except.ok (Option.some.inj hs), hlimits⟩

/-- The greatest margin that can be taken away from all that goes out. -/
theorem decide?_of_ofText_greatestMargin :
    ∃ d, decide? ⟨170, 250, 2 ^ 63 - 2 ^ 32 + 1⟩ [goingOut] = .ok (some d) ∧
      d.working = 170 := by
  obtain ⟨s, hs, hlimits⟩ := ofText_marginText "9223372032559808513"
    ⟨170, 250, 2 ^ 63 - 2 ^ 32 + 1⟩ (by decide +kernel)
  have hroom : s.throttle.limits.HasRoom := by
    rw [hlimits]
    decide
  obtain ⟨d, hd, hworking, -⟩ :=
    (decide?_of_ofText hs).1 hroom goingOut [] (by simpa using isNarrow_goingOut)
  rw [hlimits] at hd hworking
  exact ⟨d, hd .checked, hworking.trans (by decide)⟩

/-- Two watts go out that nobody asked for. -/
def trickle : Reading :=
  { (default : Reading) with outgoingPower := 2 }

/-- The rules do not keep a margin from making a sum overflow. -/
theorem not_decide?_of_anyMargin :
    ¬∀ (env : Environment) (text : String) (s : Settings) (newest : Reading)
        (older : List Reading),
      Settings.ofText env text = .ok s → (∀ r ∈ newest :: older, r.IsNarrow) →
      ∃ d, decide? s.throttle.limits (newest :: older) = .ok (some d) := by
  intro h
  obtain ⟨s, hs, hlimits⟩ := ofText_marginText "9223372036854775807"
    ⟨170, 250, 2 ^ 63 - 1⟩ (by decide +kernel)
  have hnarrow : trickle.IsNarrow := by constructor <;> decide
  obtain ⟨d, hd⟩ := h _ _ s trickle [] hs (by simpa using hnarrow)
  rw [hlimits, decide?_overflow_of_margin (by decide) (by decide) (by decide)] at hd
  cases hd

end PowerTelemetry.Control
