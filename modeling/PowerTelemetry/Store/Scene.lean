import PowerTelemetry.Store.Disturbance
/-!
# Calls among the acts of others

A `Scene` is a store in memory together with what others are going to do to it.
Each of their acts is planned for a `Phase`, and happens before the first call of
this phase or of a later one.  The phases are the calls by which a sample is
stored, in the order in which they are made, so an act can be planned for any
moment of this, whichever calls turn out to be left out.

* `upTo` is the scene when a call of a phase is made, `finish` the store after
  all acts.
* `backend` is the scene as a store that `Work` runs on.
-/

namespace PowerTelemetry.Store

/-- The calls by which samples are stored. -/
inductive Phase where
  | close
  | connect
  | create
  | read
  | adapt
  | insert
  deriving DecidableEq, Repr

/-- How many phases are before this one. -/
def Phase.index : Phase → Nat
  | close => 0
  | connect => 1
  | create => 2
  | read => 3
  | adapt => 4
  | insert => 5

/-- The phase of a call that changes a table. -/
def Change.phase : Change → Phase
  | create _ _ => .create
  | adapt _ _ => .adapt
  | insert _ _ _ => .insert

/-- The store after an act, which does nothing if it cannot happen. -/
def Memory.suffer (m : Memory) (d : Disturbance) : Memory :=
  (m.disturb d).getD m

/-- A store, and the acts that others plan. -/
structure Scene where
  store : Memory
  plan : List (Phase × Disturbance)

namespace Scene

/-- The acts that are due at a phase happen. -/
def perform (phase : Phase) : Memory → List (Phase × Disturbance) → Scene
  | m, [] => ⟨m, []⟩
  | m, (p, d) :: rest =>
    if p.index ≤ phase.index then perform phase (m.suffer d) rest else ⟨m, (p, d) :: rest⟩

/-- The scene when a call of a phase is made. -/
def upTo (s : Scene) (phase : Phase) : Scene :=
  perform phase s.store s.plan

/-- The store after all acts. -/
def finish (s : Scene) : Memory :=
  s.plan.foldl (fun m act => m.suffer act.2) s.store

/-- A call of a phase: its answer, and the scene after it. -/
def call {α : Type} (s : Scene) (phase : Phase) (f : Memory → α × Memory) : α × Scene :=
  ((f (s.upTo phase).store).1, ⟨(f (s.upTo phase).store).2, (s.upTo phase).plan⟩)

/-- The scene, called through handles. -/
def backend : Backend Scene where
  connect s := s.call .connect Memory.connect
  close _ s := (s.call .close fun m => ((), m.close)).2
  change _ c s := s.call c.phase fun m => m.change c
  columns _ table s := s.call .read fun m => (.ok (m.columnNames table), m)

/-- Where nobody acts, the scene is the store. -/
theorem run_nil {α : Type} (work : Work α) (m : Memory) :
    work.run backend ⟨m, []⟩
      = ((work.run Memory.backend m).1, ⟨(work.run Memory.backend m).2, []⟩) := by
  induction work generalizing m with
  | done a => rfl
  | connect next ih => exact ih _ _
  | close h next ih => exact ih _ _
  | change h c next ih => exact ih _ _
  | columns h table next ih => exact ih _ _

end Scene

end PowerTelemetry.Store
