import PowerTelemetry.Store.Scene
import PowerTelemetry.Writer
/-!
# Stores while others act

A `Visit` is one store of a writer, with what others do meanwhile: during the
attempt, and while the result is concluded.  Acts that are planned before the
first call happen before the store, acts that are left at the end after it.

`Writer.visits` are the results of visits one after another, the writer and the
store in memory then.  Before each of them the writer may be prepared in some
way; `Writer.forget` is one.
-/

namespace PowerTelemetry

open Store (Memory Scene Phase Disturbance)

/-- A request, and what others do while it is stored. -/
structure Visit where
  request : StoreRequest
  /-- The acts until the sample is stored or not. -/
  during : List (Phase × Disturbance)
  /-- The acts while the writer concludes. -/
  after : List (Phase × Disturbance)

namespace Writer

/-- The writer that knows nothing of the tables. -/
def forget (w : Writer) : Writer :=
  { w with known := Reconciler.empty }

/-- A store among the acts of others: its result, the writer and the store in
memory then. -/
def visit (w : Writer) (v : Visit) (m : Memory) : Except StoreError Unit × Writer × Memory :=
  let attempted :=
    (w.attempt v.request.destination v.request.sample).run Scene.backend ⟨m, v.during⟩
  let concluded := (attempted.1.2.conclude v.request.destination attempted.1.1).run Scene.backend
    ⟨attempted.2.finish, v.after⟩
  (attempted.1.1, concluded.1, concluded.2.finish)

/-- Stores one after another, each by the writer as it was prepared. -/
def visits (prepare : Writer → Writer) (w : Writer) :
    List Visit → Memory → List (Except StoreError Unit) × Writer × Memory
  | [], m => ([], w, m)
  | v :: rest, m =>
    let first := (prepare w).visit v m
    let later := first.2.1.visits prepare rest first.2.2
    (first.1 :: later.1, later.2)

/-- Where nobody acts, a visit is a store. -/
theorem visit_nil (w : Writer) (request : StoreRequest) (m : Memory) :
    w.visit ⟨request, [], []⟩ m
      = (let r := (w.store request.destination request.sample).run Memory.backend m
        (r.1.1, r.1.2, r.2)) := by
  simp only [visit, store, Scene.run_nil, Store.Work.run_bind, Store.Work.run_pure]
  rfl

/-- Where nobody acts, visits are stores one after another. -/
theorem visits_nil (w : Writer) (requests : List StoreRequest) (m : Memory) :
    (w.visits id (requests.map fun request => ⟨request, [], []⟩) m).2
      = (w.storeAll requests).run Memory.backend m := by
  induction requests generalizing w m with
  | nil => rfl
  | cons request rest ih =>
    simp only [List.map_cons, visits, id, visit_nil, storeAll, Store.Work.run_bind]
    exact ih _ _

end Writer

end PowerTelemetry
