import PowerTelemetry.Cloud.Setpoint
import PowerTelemetry.Control.Decision
import PowerTelemetry.Schedule
import PowerTelemetry.Store.Error
/-!
# The controller

In each cycle a `Controller` reads the window, decides, and tells the inverter
its set-point.  What it reads from and acts on is a `Plant`.  A cycle without
readings does nothing, and a dry run decides but tells nothing.  A cycle is stopped
by a `Fault` of its decision, and so depends on the `Arithmetic`; `Controller.cycle`
and `Controller.run?` are checked.
-/

namespace PowerTelemetry.Control

/-- Where readings come from and set-points go to, with states of type `σ`: a
`WindowSource` and a `PowerActuator`. -/
structure Plant (σ : Type) where
  /-- Time goes on to a number of milliseconds after the start. -/
  advance : Nat → σ → σ
  /-- The newest readings, so many at most. -/
  read : Nat → σ → Except StoreError (List Reading) × σ
  /-- A device told its set-point. -/
  setPower : String → Binary64 → σ → Except Cloud.Error Unit × σ

/-- `ThrottleController`: what the controller is set to. -/
structure Controller where
  serialNumber : String
  limits : Limits
  /-- How many readings a decision looks at. -/
  window : Nat
  dryRun : Bool
  deriving DecidableEq, Repr, Inhabited

variable {σ : Type}

namespace Controller

/-- `ThrottleController::issue`: a set-point told to the device, if it is one that
devices take. -/
def issue (c : Controller) (plant : Plant σ) (watts : Int) (s : σ) : σ :=
  match Cloud.checkSetpoint (Binary64.ofInt watts) with
  | .ok watts => (plant.setPower c.serialNumber watts s).2
  | .error _ => s

/-- What follows from a decision, at the end of `ThrottleController::cycle`. -/
def act (c : Controller) (plant : Plant σ) (decision : Option Decision) (s : σ) : σ :=
  match decision.bind (·.setpoint) with
  | some watts => if c.dryRun then s else c.issue plant watts s
  | none => s

end Controller

namespace Arithmetic

/-- `ThrottleController::cycle`: the decision of one cycle, if it has one. -/
def cycle (a : Arithmetic) (c : Controller) (plant : Plant σ) (s : σ) :
    Except Fault (Option Decision × σ) :=
  match plant.read c.window s with
  | (.error _, s) => .ok (none, s)
  | (.ok window, s) =>
    match a.decide? c.limits window with
    | .error fault => .error fault
    | .ok decision => .ok (decision, c.act plant decision s)

/-- Cycles at given times: their decisions. -/
def cycles (a : Arithmetic) (c : Controller) (plant : Plant σ) :
    List Nat → σ → Except Fault (List (Option Decision) × σ)
  | [], s => .ok ([], s)
  | t :: rest, s => do
    let (decision, s) ← a.cycle c plant (plant.advance t s)
    let (decisions, s) ← a.cycles c plant rest s
    return (decision :: decisions, s)

end Arithmetic

namespace Controller

/-- One cycle, with sums that are checked. -/
def cycle (c : Controller) (plant : Plant σ) (s : σ) : Except Fault (Option Decision × σ) :=
  Arithmetic.checked.cycle c plant s

/-- `ThrottleController::run`: cycles every period until a stop, with sums that are
checked; nothing without a period. -/
def run? (c : Controller) (plant : Plant σ) (period stop : Nat) (s : σ) :
    Option (Except Fault (List (Option Decision) × σ)) :=
  (Schedule.delayed? period stop).map fun times => Arithmetic.checked.cycles c plant times s

end Controller

end PowerTelemetry.Control
