import PowerTelemetry.Control.Reading
/-!
# Decisions

From a window of readings, the newest first, follows a `Decision`: the request
to work from, what the window looks like, and the new request.  The new request
is the working request moved by what the house takes beyond it, and lies within
the limits.  One that sits at the floor needs no set-point.

Sums are of 64-bit numbers.  The `Arithmetic` says what a sum beyond their range
gives: in a checked one it is a `Fault`, in a wrapping one it goes round to the
other end.  `median?` and `decide?` are checked, and `Arithmetic.median?` and
`Arithmetic.decide?` leave it open.  Limits that leave nothing between them are a
fault in both.
-/

namespace PowerTelemetry.Control

/-- What stops a decision. -/
inductive Fault where
  | overflow
  | emptyRange
  deriving DecidableEq, Repr

/-- Within the range of 64-bit numbers. -/
def fits (i : Int) : Bool :=
  decide (-(Nat.pow 2 63 : Int) ≤ i ∧ i < Nat.pow 2 63)

/-- What is done with a sum beyond the range. -/
inductive Arithmetic where
  | checked
  | wrapping
  deriving DecidableEq, Repr

/-- The 64-bit number that a sum gives: the sum itself within the range.  Beyond it
a wrapping sum differs by a multiple of `2^64`. -/
def Arithmetic.narrow : Arithmetic → Int → Except Fault Int
  | checked, i => if fits i then .ok i else .error .overflow
  | wrapping, i => .ok (i.bmod (Nat.pow 2 64))

/-- Between which watts requests lie. -/
structure Limits where
  floor : Int
  ceiling : Int
  /-- By how much more than what goes out the request is reduced. -/
  margin : Int
  deriving DecidableEq, Repr, Inhabited

/-- The outcome of a window. -/
structure Decision where
  working : Int
  median : Binary64
  least : Int
  greatest : Int
  request : Int
  /-- The set-point to issue, none at the floor. -/
  setpoint : Option Int
  deriving DecidableEq, Repr

/-- A number moved into the limits. -/
def clamp (limits : Limits) (i : Int) : Except Fault Int :=
  if limits.ceiling < limits.floor then .error .emptyRange
  else if i < limits.floor then .ok limits.floor
  else if limits.ceiling < i then .ok limits.ceiling
  else .ok i

/-- Numbers in ascending order. -/
def sorted (values : List Int) : List Int :=
  values.mergeSort (· ≤ ·)

namespace Arithmetic

/-! ## The window -/

/-- `median`: the middle of numbers in ascending order; of two middle ones the
mean. -/
def median? (a : Arithmetic) (values : List Int) : Except Fault (Option Binary64) :=
  let half := values.length / 2
  if values.isEmpty then .ok none
  else if values.length % 2 = 0 then do
    let sum ← a.narrow (values.getD (half - 1) 0 + values.getD half 0)
    return some ((Binary64.ofInt sum).div (Binary64.ofNat 2))
  else .ok (some (Binary64.ofInt (values.getD half 0)))

/-! ## The request -/

/-- The request reduced by what goes out, not below the floor; the first branch of
`decide`. -/
def reduced (a : Arithmetic) (limits : Limits) (r : Reading) : Except Fault Int :=
  if 0 < r.outgoingPower then do
    let candidate ← a.narrow ((← a.narrow (r.requested - r.outgoingPower)) - limits.margin)
    return if limits.floor < candidate then candidate else limits.floor
  else .ok r.requested

/-- The request to work from: the reduced one, or the floor if the house takes
nothing.  The second branch of `decide`. -/
def workingRequest (a : Arithmetic) (limits : Limits) (r : Reading) : Except Fault Int := do
  let working ← a.reduced limits r
  return if r.houseInput = 0 ∧ limits.floor < r.requested then limits.floor else working

/-- The new request from the one to work from, at the end of `decide`. -/
def newRequest (a : Arithmetic) (limits : Limits) (r : Reading) (working : Int) :
    Except Fault Int := do
  let delta ← a.narrow ((← a.narrow (r.houseInput + r.currentPower)) - working)
  clamp limits (← a.narrow (working + delta))

/-- `decide`: the decision of a window, none of an empty one. -/
def decide? (a : Arithmetic) (limits : Limits) (window : List Reading) :
    Except Fault (Option Decision) :=
  match window with
  | [] => .ok none
  | newest :: _ => do
    let working ← a.workingRequest limits newest
    let powers := sorted (window.map (·.currentPower))
    let some median ← a.median? powers | return none
    let request ← a.newRequest limits newest working
    return some {
      working := working
      median := median
      least := powers.headD 0
      greatest := powers.getLastD 0
      request := request
      setpoint := if limits.floor < request then some request else none }

end Arithmetic

/-- The middle of numbers in ascending order, with sums that are checked. -/
def median? (values : List Int) : Except Fault (Option Binary64) :=
  Arithmetic.checked.median? values

/-- The decision of a window, with sums that are checked. -/
def decide? (limits : Limits) (window : List Reading) : Except Fault (Option Decision) :=
  Arithmetic.checked.decide? limits window

end PowerTelemetry.Control
