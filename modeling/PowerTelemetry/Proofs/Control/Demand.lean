import PowerTelemetry.Proofs.Control.Diagnostics
/-!
# Requests follow the demand

The request to work from is taken away from the demand and added again, so the new request
is the number within the limits that is nearest to the demand, and nothing else in the
window or the margin has an effect on it.

* `Limits.start` is the request to work from, and `workingRequest_of_moderate` says that it
  is the one that is computed.
* `Decides.request_eq` and `Decides.same_request` say what the new request follows;
  `Decides.checked` and `decide?_overflow` say when checked sums come to the same
  decision and when to none.  `request_follows_demand` puts this together.
* A house that takes nothing from the inverter is no exception: the floor, which is then the
  request to work from, is lost as well (`request_without_house_input`).
-/

namespace PowerTelemetry.Control

variable {a : Arithmetic} {limits : Limits} {newest : Reading} {older : List Reading}

/-- Readings whose sums are far from the ends of the range. -/
structure Reading.Moderate (r : Reading) : Prop where
  houseInput : r.houseInput.natAbs ≤ 2 ^ 60
  requested : r.requested.natAbs ≤ 2 ^ 60
  currentPower : r.currentPower.natAbs ≤ 2 ^ 60
  outgoingPower : r.outgoingPower.natAbs ≤ 2 ^ 60

instance (r : Reading) : Decidable r.Moderate :=
  decidable_of_iff
    (r.houseInput.natAbs ≤ 2 ^ 60 ∧ r.requested.natAbs ≤ 2 ^ 60 ∧
      r.currentPower.natAbs ≤ 2 ^ 60 ∧ r.outgoingPower.natAbs ≤ 2 ^ 60)
    ⟨fun ⟨hhouse, hrequested, hpower, houtgoing⟩ => ⟨hhouse, hrequested, hpower, houtgoing⟩,
      fun h => ⟨h.houseInput, h.requested, h.currentPower, h.outgoingPower⟩⟩

theorem Reading.Moderate.fits_demand {r : Reading} (h : r.Moderate) : fits r.demand := by
  have hhouse := h.houseInput
  have hpower := h.currentPower
  rw [demand]
  exact fits_of_natAbs_le (by omega)

/-! ## The request to work from -/

/-- The request to work from: the floor if the house takes nothing and more is asked for,
and otherwise the request that is in force, reduced by what goes out. -/
def Limits.start (limits : Limits) (r : Reading) : Int :=
  if r.houseInput = 0 ∧ limits.floor < r.requested then limits.floor
  else if 0 < r.outgoingPower then max (r.requested - r.outgoingPower - limits.margin) limits.floor
  else r.requested

/-- The request to work from is the one that is computed, if the reduced request is one of
64 bits. -/
theorem workingRequest_of_fits (a : Arithmetic) {r : Reading}
    (h : 0 < r.outgoingPower → fits (r.requested - r.outgoingPower) ∧
      fits (r.requested - r.outgoingPower - limits.margin)) :
    a.workingRequest limits r = .ok (limits.start r) := by
  have hreduced : a.reduced limits r
      = .ok (if 0 < r.outgoingPower then
          max (r.requested - r.outgoingPower - limits.margin) limits.floor
        else r.requested) := by
    rw [Arithmetic.reduced]
    split
    · rename_i hgoes
      obtain ⟨hfirst, hsecond⟩ := h hgoes
      rw [a.narrow_of_fits hfirst, ok_bind, a.narrow_of_fits hsecond, ok_bind]
      split
      · exact congrArg Except.ok (max_eq_left (by omega)).symm
      · exact congrArg Except.ok (max_eq_right (by omega)).symm
    · rfl
  rw [Arithmetic.workingRequest, hreduced, ok_bind, Limits.start]
  rfl

theorem workingRequest_of_moderate (a : Arithmetic) {r : Reading}
    (hmargin : limits.margin.natAbs ≤ 2 ^ 60) (h : r.Moderate) :
    a.workingRequest limits r = .ok (limits.start r) := by
  have hrequested := h.requested
  have houtgoing := h.outgoingPower
  exact workingRequest_of_fits a fun _ => ⟨fits_of_natAbs_le (by omega), fits_of_natAbs_le (by omega)⟩

/-- Without house input the request to work from is the floor if more is asked for. -/
theorem workingRequest_without_house_input {r : Reading} {working : Int}
    (hhouse : r.houseInput = 0) (habove : limits.floor < r.requested)
    (h : a.workingRequest limits r = .ok working) : working = limits.floor := by
  obtain ⟨reduced, _, h⟩ := exists_of_bind_eq_ok h
  rw [if_pos ⟨hhouse, habove⟩] at h
  exact (Except.ok.inj h).symm

/-! ## The new request -/

/-- A decision requests what is nearest to the demand. -/
theorem Decides.request_eq {d : Decision} (h : Decides a limits newest older d)
    (hdemand : fits newest.demand) : d.request = limits.nearest newest.demand := by
  rw [request_of_newRequest h.request, bmod_of_fits hdemand]

theorem Decides.working_eq {d : Decision} (h : Decides a limits newest older d)
    (hmargin : limits.margin.natAbs ≤ 2 ^ 60) (hnewest : newest.Moderate) :
    d.working = limits.start newest := by
  have hworking := h.working
  rw [workingRequest_of_moderate a hmargin hnewest] at hworking
  exact (Except.ok.inj hworking).symm

/-- Decisions of the same demand request the same, whatever their margins and their
arithmetics are. -/
theorem Decides.same_request {b : Arithmetic} {margin : Int} {newest' : Reading}
    {older' : List Reading} {d d' : Decision} (h : Decides a limits newest older d)
    (h' : Decides b { limits with margin := margin } newest' older' d')
    (hdemand : fits newest.demand) (hsame : newest'.demand = newest.demand) :
    d'.request = d.request ∧ d'.setpoint = d.setpoint := by
  have hrequest : d'.request = d.request := by
    rw [h'.request_eq (hsame ▸ hdemand), h.request_eq hdemand, hsame]
    rfl
  refine ⟨hrequest, ?_⟩
  rw [h'.setpoint, h.setpoint, hrequest]

/-! ## Checked sums -/

theorem median?_of_moderate (a b : Arithmetic) (h : ∀ r ∈ newest :: older, r.Moderate) :
    a.median? (sorted ((newest :: older).map (·.currentPower)))
      = b.median? (sorted ((newest :: older).map (·.currentPower))) := by
  refine Arithmetic.median?_eq a b fun v hv => ?_
  obtain ⟨r, hr, rfl⟩ := List.mem_map.mp ((sorted_perm _).mem_iff.mp hv)
  have hpower := (h r hr).currentPower
  omega

/-- Checked sums come to the same decision if the request to work from can be taken away. -/
theorem Decides.checked {d : Decision} (h : Decides a limits newest older d)
    (hlimits : limits.floor ≤ limits.ceiling) (hmargin : limits.margin.natAbs ≤ 2 ^ 60)
    (hreadings : ∀ r ∈ newest :: older, r.Moderate)
    (hfits : fits (newest.demand - limits.start newest)) :
    Decides .checked limits newest older d := by
  have hnewest : newest.Moderate := hreadings newest List.mem_cons_self
  have hdemand := hnewest.fits_demand
  have hworking := h.working_eq hmargin hnewest
  have hfound : Arithmetic.checked.newRequest limits newest d.working
      = .ok (limits.nearest (newest.demand.bmod (Nat.pow 2 64))) := by
    refine newRequest_of_found hlimits (.inr hdemand) (.inr ?_)
    rwa [bmod_of_fits hdemand, hworking]
  rw [bmod_of_fits hdemand, ← h.request_eq hdemand] at hfound
  exact ⟨hworking ▸ workingRequest_of_moderate .checked hmargin hnewest,
    (median?_of_moderate .checked a hreadings).trans h.median, h.least, h.greatest, hfound,
    h.setpoint⟩

theorem exists_decide?_checked (hlimits : limits.floor ≤ limits.ceiling)
    (hmargin : limits.margin.natAbs ≤ 2 ^ 60) (hreadings : ∀ r ∈ newest :: older, r.Moderate)
    (hfits : fits (newest.demand - limits.start newest)) :
    ∃ d, decide? limits (newest :: older) = .ok (some d) := by
  obtain ⟨d, hd⟩ := exists_decide?_wrapping hlimits newest older
  have hdecides := (decide?_eq_some_iff.mp hd).checked hlimits hmargin hreadings hfits
  exact ⟨d, decide?_eq_some_iff.mpr hdecides⟩

/-- Checked sums come to no decision if the request to work from cannot be taken away. -/
theorem decide?_overflow_of_difference {working : Int} {median : Binary64}
    (hworking : Arithmetic.checked.workingRequest limits newest = .ok working)
    (hmedian : Arithmetic.checked.median? (sorted ((newest :: older).map (·.currentPower)))
      = .ok (some median))
    (hdemand : fits newest.demand) (hfits : fits (newest.demand - working) = false) :
    decide? limits (newest :: older) = .error .overflow := by
  rw [decide?, Arithmetic.decide?, hworking, ok_bind]
  simp only
  rw [hmedian, ok_bind]
  simp only
  rw [Arithmetic.newRequest, ← Reading.demand, Arithmetic.narrow_of_fits _ hdemand, ok_bind,
    Arithmetic.narrow_of_not_fits hfits]
  rfl

theorem decide?_overflow (hmargin : limits.margin.natAbs ≤ 2 ^ 60)
    (hreadings : ∀ r ∈ newest :: older, r.Moderate)
    (hfits : fits (newest.demand - limits.start newest) = false) :
    decide? limits (newest :: older) = .error .overflow := by
  have hnewest : newest.Moderate := hreadings newest List.mem_cons_self
  obtain ⟨median, hmedian⟩ := Arithmetic.exists_median?
    (s := sorted ((newest :: older).map (·.currentPower))) (sorted_ne_nil (by simp))
  exact decide?_overflow_of_difference (workingRequest_of_moderate .checked hmargin hnewest)
    ((median?_of_moderate .checked .wrapping hreadings).trans hmedian) hnewest.fits_demand hfits

/-- The difference is one of 64 bits unless the floor is far outside. -/
theorem Reading.Moderate.fits_difference {r : Reading} (h : r.Moderate)
    (hmargin : limits.margin.natAbs ≤ 2 ^ 60) (hfloor : limits.floor.natAbs ≤ 2 ^ 62) :
    fits (r.demand - limits.start r) := by
  have hhouse := h.houseInput
  have hpower := h.currentPower
  have hrequested := h.requested
  have houtgoing := h.outgoingPower
  rw [fits_iff, Reading.demand, Limits.start]
  split
  · omega
  · split <;> omega

/-! ## Moderate windows -/

/-- The decision of moderate readings follows the demand: the request to work from is
reported, and leaves no trace in the new request.

With sums that wrap there is a decision for all limits.  Checked sums come to the same one,
if the difference of the demand and the request to work from is one of 64 bits; only a floor
far outside can keep it from that.  Other windows whose newest readings have the same house
input and current power request the same with all margins: sums that wrap come to a decision
there as well, and any sums that come to one come to this request. -/
theorem request_follows_demand (hlimits : limits.floor ≤ limits.ceiling)
    (hmargin : limits.margin.natAbs ≤ 2 ^ 60) (hreadings : ∀ r ∈ newest :: older, r.Moderate) :
    (∃ d, Arithmetic.wrapping.decide? limits (newest :: older) = .ok (some d) ∧
      d.working = limits.start newest ∧
      d.request = limits.nearest newest.demand ∧
      d.setpoint = (if limits.floor < d.request then some d.request else none) ∧
      (∀ (margin : Int) (newest' : Reading) (older' : List Reading),
        newest'.houseInput = newest.houseInput → newest'.currentPower = newest.currentPower →
        (∃ d', Arithmetic.wrapping.decide? { limits with margin := margin } (newest' :: older')
          = .ok (some d')) ∧
        ∀ (a : Arithmetic) (d' : Decision),
          a.decide? { limits with margin := margin } (newest' :: older') = .ok (some d') →
          d'.request = d.request ∧ d'.setpoint = d.setpoint) ∧
      (fits (newest.demand - limits.start newest) →
        decide? limits (newest :: older) = .ok (some d))) ∧
    (fits (newest.demand - limits.start newest) = false →
      decide? limits (newest :: older) = .error .overflow) ∧
    (limits.floor.natAbs ≤ 2 ^ 62 → fits (newest.demand - limits.start newest)) := by
  have hnewest : newest.Moderate := hreadings newest List.mem_cons_self
  refine ⟨?decision, decide?_overflow hmargin hreadings, hnewest.fits_difference hmargin⟩
  obtain ⟨d, hd⟩ := exists_decide?_wrapping hlimits newest older
  have hdecides := decide?_eq_some_iff.mp hd
  refine ⟨d, hd, hdecides.working_eq hmargin hnewest, hdecides.request_eq hnewest.fits_demand,
    hdecides.setpoint, ?others, ?checked⟩
  case others =>
    intro margin newest' older' hhouse hpower
    have hlimits' : { limits with margin := margin }.floor ≤ limits.ceiling := hlimits
    refine ⟨exists_decide?_wrapping hlimits' newest' older', fun a d' hd' => ?_⟩
    have hsame : newest'.demand = newest.demand := by
      rw [Reading.demand, Reading.demand, hhouse, hpower]
    exact hdecides.same_request (decide?_eq_some_iff.mp hd') hnewest.fits_demand hsame
  case checked =>
    intro hfits
    exact decide?_eq_some_iff.mpr (hdecides.checked hlimits hmargin hreadings hfits)

/-- A house that takes power from the inverter and from the grid. -/
def evening : Reading :=
  { (default : Reading) with
    houseInput := 120, requested := 180, currentPower := 90, outgoingPower := 15 }

/-- The readings before it. -/
def afternoon : List Reading :=
  [{ evening with houseInput := 0, currentPower := 240 },
    { evening with requested := 240, currentPower := -30 }]

/-- A demand between the limits is requested, and so it is with another margin, another
request in force and no readings before, where one works from another request.  At the least
floor a house that takes nothing from the inverter leaves checked sums without a decision. -/
theorem request_follows_demand_evening :
    (∃ d d', decide? ⟨170, 250, 10⟩ (evening :: afternoon) = .ok (some d) ∧
      decide? ⟨170, 250, -500⟩ [{ evening with requested := 240 }] = .ok (some d') ∧
      d.working = 170 ∧ d'.working = 725 ∧
      (d.request = 210 ∧ d.setpoint = some 210) ∧ d'.request = 210 ∧ d'.setpoint = some 210) ∧
    decide? ⟨-2 ^ 63, 250, 10⟩ ({ evening with houseInput := 0 } :: afternoon)
      = .error .overflow := by
  have hlimits : (⟨170, 250, 10⟩ : Limits).floor ≤ (⟨170, 250, 10⟩ : Limits).ceiling := by
    decide
  obtain ⟨⟨d, -, hworking, hrequest, hsetpoint, hothers, hchecked⟩, -, hfits⟩ :=
    @request_follows_demand _ evening afternoon hlimits (by decide) (by decide)
  replace hrequest : d.request = 210 := hrequest.trans (by decide)
  replace hsetpoint : d.setpoint = some 210 := by
    rw [hsetpoint, hrequest]
    rfl
  obtain ⟨⟨d', -, hworking', -, -, -, hchecked'⟩, -, hfits'⟩ :=
    @request_follows_demand ⟨170, 250, -500⟩ { evening with requested := 240 } [] hlimits
      (by decide) (by decide)
  have hd' := hchecked' (hfits' (by decide))
  have hsame := (hothers (-500) { evening with requested := 240 } [] rfl rfl).2 .checked d' hd'
  refine ⟨⟨d, d', hchecked (hfits (by decide)), hd', hworking.trans (by decide),
    hworking'.trans (by decide), ⟨hrequest, hsetpoint⟩, hsame.1.trans hrequest,
    hsame.2.trans hsetpoint⟩, ?_⟩
  obtain ⟨-, hoverflow, -⟩ := @request_follows_demand ⟨-2 ^ 63, 250, 10⟩
    { evening with houseInput := 0 } afternoon (by decide) (by decide) (by decide)
  exact hoverflow (by decide)

/-! ## Without house input -/

/-- A decision without house input requests what is nearest to the power from the grid.  It
falls back to the floor only if that power does not reach beyond the floor, or no request
does.  Sums that wrap always come to a decision, and checked ones do unless numbers are far
outside. -/
theorem request_without_house_input (hlimits : limits.floor ≤ limits.ceiling)
    (hhouse : newest.houseInput = 0) (habove : limits.floor < newest.requested)
    (hpower : fits newest.currentPower) :
    (∃ d, Arithmetic.wrapping.decide? limits (newest :: older) = .ok (some d)) ∧
      (limits.margin.natAbs ≤ 2 ^ 60 → limits.floor.natAbs ≤ 2 ^ 62 →
        (∀ r ∈ newest :: older, r.Moderate) →
        ∃ d, decide? limits (newest :: older) = .ok (some d)) ∧
      ∀ d, a.decide? limits (newest :: older) = .ok (some d) →
        d.working = limits.floor ∧
        d.request = limits.nearest newest.currentPower ∧
        (d.request = limits.floor ∧ d.setpoint = none ↔
          newest.currentPower ≤ limits.floor ∨ limits.ceiling = limits.floor) := by
  refine ⟨exists_decide?_wrapping hlimits newest older, ?checked, fun d hd => ?_⟩
  case checked =>
    intro hmargin hfloor hreadings
    have hnewest : newest.Moderate := hreadings newest List.mem_cons_self
    exact exists_decide?_checked hlimits hmargin hreadings
      (hnewest.fits_difference hmargin hfloor)
  have hdecides := decide?_eq_some_iff.mp hd
  have hdemand : newest.demand = newest.currentPower := by
    rw [Reading.demand, hhouse]
    omega
  have hrequest : d.request = limits.nearest newest.currentPower := by
    rw [hdecides.request_eq (hdemand ▸ hpower), hdemand]
  refine ⟨workingRequest_without_house_input hhouse habove hdecides.working, hrequest, ?_⟩
  have hfloor : d.request = limits.floor ↔
      newest.currentPower ≤ limits.floor ∨ limits.ceiling = limits.floor := by
    rw [hrequest, Limits.nearest]
    omega
  rw [hdecides.setpoint, ← hfloor]
  constructor
  · exact fun h => h.1
  · intro h
    rw [if_neg (by omega)]
    exact ⟨h, rfl⟩

/-- A house that takes everything from the grid. -/
def onGrid : Reading :=
  { (default : Reading) with requested := 200, currentPower := 230 }

theorem request_without_house_input_onGrid :
    ∃ d, decide? ⟨170, 250, 10⟩ [onGrid] = .ok (some d) ∧ d.working = 170 ∧ d.request = 230 ∧
      ¬(d.request = 170 ∧ d.setpoint = none) := by
  have hlimits : (⟨170, 250, 10⟩ : Limits).floor ≤ (⟨170, 250, 10⟩ : Limits).ceiling := by decide
  have hhouse : onGrid.houseInput = 0 := rfl
  have hpower : fits onGrid.currentPower := by decide
  obtain ⟨-, hexists, hall⟩ := @request_without_house_input .checked _ _ [] hlimits hhouse
    (by decide) hpower
  obtain ⟨d, hd⟩ := hexists (by decide) (by decide) (by decide)
  obtain ⟨hworking, hrequest, hfloor⟩ := hall d hd
  exact ⟨d, hd, hworking, hrequest, fun h => absurd (hfloor.mp h) (by decide)⟩

/-- The fallback to the floor is lost: a house that takes everything from the grid is fed
from the inverter. -/
theorem not_falls_back :
    ¬∀ (limits : Limits) (newest : Reading) (older : List Reading),
      limits.floor ≤ limits.ceiling → newest.houseInput = 0 → limits.floor < newest.requested →
      (∀ r ∈ newest :: older, r.Moderate) →
      ∃ d, decide? limits (newest :: older) = .ok (some d) ∧
        d.request = limits.floor ∧ d.setpoint = none := by
  intro h
  obtain ⟨d, hd, hfloor, -⟩ :=
    h ⟨170, 250, 10⟩ onGrid [] (by decide) rfl (by decide) (by decide)
  have hrequest := (decide?_eq_some_iff.mp hd).request_eq (show fits onGrid.demand by decide)
  exact absurd (hfloor.symm.trans hrequest) (by decide)

end PowerTelemetry.Control
