import PowerTelemetry.Proofs.Control.Sums
import PowerTelemetry.Proofs.Outcome
/-!
# What a decision requests

A decision comes from a window with readings, and `Decides` says what it is made of
(`decide?_eq_some_iff`).

* Its request lies within the limits (`request_bounds`).  It asks for a set-point exactly
  if its request is above the floor, and then for this request (`setpoint_eq`).
* The new request is the number within the limits that is nearest to what the house takes
  (`newRequest_of_found`, `request_of_newRequest`): the request to work from is taken away
  and added again.
-/

namespace PowerTelemetry.Control

variable {a : Arithmetic} {limits : Limits} {window : List Reading}

/-! ## The new request -/

/-- What the house takes, from the inverter and from the grid. -/
def Reading.demand (r : Reading) : Int :=
  r.houseInput + r.currentPower

/-- The number within the limits that is nearest to a number. -/
def Limits.nearest (limits : Limits) (i : Int) : Int :=
  max limits.floor (min i limits.ceiling)

theorem clamp_eq_nearest (h : limits.floor ≤ limits.ceiling) (i : Int) :
    clamp limits i = .ok (limits.nearest i) := by
  rw [clamp, if_neg (by omega), Limits.nearest]
  split
  · congr 1
    omega
  · split <;>
    · congr 1
      omega

/-- A number that was moved into the limits lies within them. -/
theorem clamp_bounds {i j : Int} (h : clamp limits i = .ok j) :
    limits.floor ≤ j ∧ j ≤ limits.ceiling := by
  by_cases hlimits : limits.floor ≤ limits.ceiling
  · rw [clamp_eq_nearest hlimits, Limits.nearest] at h
    obtain rfl := Except.ok.inj h
    omega
  · rw [clamp, if_pos (by omega)] at h
    cases h

/-- The new request is nearest to the demand, whatever the request to work from is: only
whether the difference of the two is found depends on it. -/
theorem newRequest_of_found {r : Reading} {working : Int} (hlimits : limits.floor ≤ limits.ceiling)
    (hdemand : a = .wrapping ∨ fits r.demand)
    (h : a = .wrapping ∨ fits (r.demand.bmod (Nat.pow 2 64) - working)) :
    a.newRequest limits r working = .ok (limits.nearest (r.demand.bmod (Nat.pow 2 64))) := by
  have hback (i : Int) : working + (i - working) = i := by omega
  have hfound : a = .wrapping ∨ fits (working
      + (r.demand.bmod (Nat.pow 2 64) - working).bmod (Nat.pow 2 64)) := by
    refine h.imp_right fun hfits => ?_
    rw [bmod_of_fits hfits, hback]
    exact fits_bmod r.demand
  rw [Arithmetic.newRequest, ← Reading.demand, Arithmetic.narrow_of_found hdemand, ok_bind,
    Arithmetic.narrow_of_found h, ok_bind, Arithmetic.narrow_of_found hfound, ok_bind,
    bmod_add_sub, Int.bmod_bmod, clamp_eq_nearest hlimits]

/-- A new request that is found is nearest to the demand. -/
theorem request_of_newRequest {r : Reading} {working request : Int}
    (h : a.newRequest limits r working = .ok request) :
    request = limits.nearest (r.demand.bmod (Nat.pow 2 64)) := by
  obtain ⟨demand, hdemand, h⟩ := exists_of_bind_eq_ok h
  obtain ⟨delta, hdelta, h⟩ := exists_of_bind_eq_ok h
  obtain ⟨sum, hsum, h⟩ := exists_of_bind_eq_ok h
  have hlimits : limits.floor ≤ limits.ceiling :=
    Int.le_trans (clamp_bounds h).1 (clamp_bounds h).2
  rw [Arithmetic.narrow_eq_ok hsum, Arithmetic.narrow_eq_ok hdelta, Arithmetic.narrow_eq_ok hdemand,
    bmod_add_sub, Int.bmod_bmod, clamp_eq_nearest hlimits] at h
  exact (Except.ok.inj h).symm

theorem newRequest_bounds {r : Reading} {working request : Int}
    (h : a.newRequest limits r working = .ok request) :
    limits.floor ≤ request ∧ request ≤ limits.ceiling := by
  obtain ⟨_, _, h⟩ := exists_of_bind_eq_ok h
  obtain ⟨_, _, h⟩ := exists_of_bind_eq_ok h
  obtain ⟨_, _, h⟩ := exists_of_bind_eq_ok h
  exact clamp_bounds h

/-! ## Decisions -/

/-- What a decision is made of: the request to work from and the new request follow from
the newest reading, everything else from the powers in ascending order. -/
structure Decides (a : Arithmetic) (limits : Limits) (newest : Reading) (older : List Reading)
    (d : Decision) : Prop where
  working : a.workingRequest limits newest = .ok d.working
  median : a.median? (sorted ((newest :: older).map (·.currentPower))) = .ok (some d.median)
  least : d.least = (sorted ((newest :: older).map (·.currentPower))).headD 0
  greatest : d.greatest = (sorted ((newest :: older).map (·.currentPower))).getLastD 0
  request : a.newRequest limits newest d.working = .ok d.request
  setpoint : d.setpoint = if limits.floor < d.request then some d.request else none

/-- The decision of a window with readings. -/
theorem decide?_eq_some_iff {newest : Reading} {older : List Reading} {d : Decision} :
    a.decide? limits (newest :: older) = .ok (some d) ↔ Decides a limits newest older d := by
  constructor
  · intro h
    obtain ⟨working, hworking, h⟩ := exists_of_bind_eq_ok h
    obtain ⟨median, hmedian, h⟩ := exists_of_bind_eq_ok h
    cases median with
    | none => cases h
    | some median =>
      obtain ⟨request, hrequest, h⟩ := exists_of_bind_eq_ok h
      obtain rfl := Option.some.inj (Except.ok.inj h)
      exact ⟨hworking, hmedian, rfl, rfl, hrequest, rfl⟩
  · intro h
    rw [Arithmetic.decide?, h.working, ok_bind]
    simp only
    rw [h.median, ok_bind]
    simp only
    rw [h.request, ok_bind, ← h.least, ← h.greatest, ← h.setpoint]
    rfl

/-- There is a decision once its three parts are there. -/
theorem exists_decides {newest : Reading} {older : List Reading} {working request : Int}
    {median : Binary64} (hworking : a.workingRequest limits newest = .ok working)
    (hmedian : a.median? (sorted ((newest :: older).map (·.currentPower))) = .ok (some median))
    (hrequest : a.newRequest limits newest working = .ok request) :
    ∃ d, Decides a limits newest older d ∧ d.working = working ∧ d.request = request := by
  let powers := sorted ((newest :: older).map (·.currentPower))
  let setpoint := if limits.floor < request then some request else none
  exact ⟨⟨working, median, powers.headD 0, powers.getLastD 0, request, setpoint⟩,
    ⟨hworking, hmedian, rfl, rfl, hrequest, rfl⟩, rfl, rfl⟩

/-- A decision comes from a window with readings. -/
theorem exists_of_decide? {d : Decision} (h : a.decide? limits window = .ok (some d)) :
    ∃ newest older, window = newest :: older ∧ Decides a limits newest older d := by
  cases window with
  | nil => cases h
  | cons newest older => exact ⟨newest, older, rfl, decide?_eq_some_iff.mp h⟩

theorem request_bounds {d : Decision} (h : a.decide? limits window = .ok (some d)) :
    limits.floor ≤ d.request ∧ d.request ≤ limits.ceiling := by
  obtain ⟨_, _, _, hdecides⟩ := exists_of_decide? h
  exact newRequest_bounds hdecides.request

theorem setpoint_eq {d : Decision} (h : a.decide? limits window = .ok (some d)) :
    d.setpoint = if limits.floor < d.request then some d.request else none := by
  obtain ⟨_, _, _, hdecides⟩ := exists_of_decide? h
  exact hdecides.setpoint

end PowerTelemetry.Control
