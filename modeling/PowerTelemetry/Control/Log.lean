import PowerTelemetry.Control.Controller
/-!
# What a controller did

A `Log` says what a controller asked of its plant in one cycle: what it read,
and which device it told which set-point.  `Plant.logged` is the plant that
writes it.

`Arithmetic.completed` lists the cycles at given times that come to their end, each with its
decision and its log.  The first cycle that a fault stops ends the list.
-/

namespace PowerTelemetry.Control

variable {σ : Type}

/-- What was asked of a plant. -/
structure Log where
  /-- The windows that were read. -/
  reads : List (Except StoreError (List Reading))
  /-- The devices that were told a set-point, and the set-points. -/
  commands : List (String × Binary64)

/-- Nothing was asked. -/
def Log.empty : Log :=
  ⟨[], []⟩

/-- The plant, with a log of what it is asked. -/
def Plant.logged (plant : Plant σ) : Plant (σ × Log) where
  advance t s := (plant.advance t s.1, s.2)
  read size s :=
    let (window, rest) := plant.read size s.1
    (window, rest, { s.2 with reads := s.2.reads ++ [window] })
  setPower serialNumber watts s :=
    let (answer, rest) := plant.setPower serialNumber watts s.1
    (answer, rest, { s.2 with commands := s.2.commands ++ [(serialNumber, watts)] })

/-- A cycle that has come to its end. -/
structure Completed where
  decision : Option Decision
  log : Log

/-- The cycles at given times that come to their end, up to the first one that
does not. -/
def Arithmetic.completed (a : Arithmetic) (c : Controller) (plant : Plant σ) :
    List Nat → σ → List Completed
  | [], _ => []
  | t :: rest, s =>
    match a.cycle c plant.logged (plant.advance t s, Log.empty) with
    | .error _ => []
    | .ok (decision, s, log) => ⟨decision, log⟩ :: a.completed c plant rest s

/-! ## The log -/

/-- What a device is told after a decision. -/
def Controller.commands (c : Controller) (decision : Option Decision) : List (String × Binary64) :=
  match decision.bind (·.setpoint) with
  | some watts =>
    if c.dryRun then []
    else match Cloud.checkSetpoint (Binary64.ofInt watts) with
      | .ok watts => [(c.serialNumber, watts)]
      | .error _ => []
  | none => []

/-- What follows from a decision is the same with a log, in which it adds what
the device is told. -/
theorem Controller.act_logged (c : Controller) (plant : Plant σ) (decision : Option Decision) (s : σ)
    (log : Log) :
    c.act plant.logged decision (s, log)
      = (c.act plant decision s, ⟨log.reads, log.commands ++ c.commands decision⟩) := by
  rw [act, act, commands]
  cases decision.bind (·.setpoint) with
  | none => simp
  | some watts =>
    cases c.dryRun with
    | true => simp
    | false =>
      simp only [issue, Bool.false_eq_true, if_false]
      cases Cloud.checkSetpoint (Binary64.ofInt watts) with
      | ok watts => rfl
      | error error => simp

namespace Arithmetic

/-- A cycle is the same with a log, in which it adds the window that it reads and
what the device is told. -/
theorem cycle_logged (a : Arithmetic) (c : Controller) (plant : Plant σ) (s : σ) (log : Log) :
    a.cycle c plant.logged (s, log)
      = (a.cycle c plant s).map fun r =>
          (r.1, r.2, ⟨log.reads ++ [(plant.read c.window s).1], log.commands ++ c.commands r.1⟩) := by
  rw [cycle, cycle]
  cases hread : plant.read c.window s with
  | mk window rest =>
    simp only [Plant.logged, hread]
    cases window with
    | error error => simp [Except.map, Controller.commands]
    | ok window =>
      simp only
      cases a.decide? c.limits window with
      | error fault => rfl
      | ok decision => exact congrArg (fun r => Except.ok (decision, r)) (c.act_logged plant _ _ _)

/-! ## Cycles that come to their end -/

/-- The log of a cycle that comes to its end: one window, and what the device is
told after the decision. -/
theorem completed_cons (a : Arithmetic) (c : Controller) (plant : Plant σ) (t : Nat)
    (rest : List Nat) (s : σ) :
    a.completed c plant (t :: rest) s
      = match a.cycle c plant (plant.advance t s) with
        | .error _ => []
        | .ok (decision, next) =>
          ⟨decision, [(plant.read c.window (plant.advance t s)).1], c.commands decision⟩
            :: a.completed c plant rest next := by
  rw [completed, cycle_logged]
  cases a.cycle c plant (plant.advance t s) with
  | error fault => rfl
  | ok r => rfl

/-- A cycle that has come to its end is a cycle from some state of the plant. -/
theorem exists_cycle_of_mem_completed {a : Arithmetic} {c : Controller} {plant : Plant σ}
    {times : List Nat} {start : σ} {entry : Completed}
    (h : entry ∈ a.completed c plant times start) :
    ∃ s next, a.cycle c plant s = .ok (entry.decision, next) ∧
      entry.log = ⟨[(plant.read c.window s).1], c.commands entry.decision⟩ := by
  induction times generalizing start with
  | nil => cases h
  | cons t rest ih =>
    rw [completed_cons] at h
    cases hcycle : a.cycle c plant (plant.advance t start) with
    | error fault => simp [hcycle] at h
    | ok r =>
      rw [hcycle] at h
      rcases List.mem_cons.mp h with rfl | h
      · exact ⟨_, _, hcycle, rfl⟩
      · exact ih h

/-- The decisions of cycles that all come to their end. -/
theorem map_decision_completed {a : Arithmetic} {c : Controller} {plant : Plant σ}
    {times : List Nat} {s : σ} {decisions : List (Option Decision)} {last : σ}
    (h : a.cycles c plant times s = .ok (decisions, last)) :
    (a.completed c plant times s).map (·.decision) = decisions := by
  induction times generalizing s decisions with
  | nil =>
    obtain ⟨rfl, _⟩ : [] = decisions ∧ s = last := by simpa [cycles] using h
    rfl
  | cons t rest ih =>
    rw [cycles] at h
    rw [completed_cons]
    cases hcycle : a.cycle c plant (plant.advance t s) with
    | error fault =>
      rw [hcycle] at h
      cases h
    | ok r =>
      rw [hcycle] at h
      replace h : (a.cycles c plant rest r.2 >>= fun q => pure (r.1 :: q.1, q.2))
        = .ok (decisions, last) := h
      cases hrest : a.cycles c plant rest r.2 with
      | error fault =>
        rw [hrest] at h
        cases h
      | ok q =>
        rw [hrest] at h
        obtain ⟨rfl, rfl⟩ := Prod.mk.inj (Except.ok.inj h)
        exact congrArg (r.1 :: ·) (ih hrest)

end Arithmetic

end PowerTelemetry.Control
