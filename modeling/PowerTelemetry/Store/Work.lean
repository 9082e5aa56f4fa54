import PowerTelemetry.Sql.Datum
import PowerTelemetry.Store.Error
/-!
# Work on a store

`Work α` is a computation that calls a store and ends with an `α`.  It is the
tree of its calls, each followed by what happens on every answer, so it can be
run in one go on a `Backend` (`run`), or call by call (`step`) when several
computations take turns on one store.

A store is called through handles.  Connecting gives a new handle, closing ends
one, and every other call names the handle that it goes through.
-/

namespace PowerTelemetry.Store

/-- An open connection to a store. -/
structure Handle where
  id : Nat
  deriving DecidableEq, Repr

/-- A call that changes a table. -/
inductive Change where
  /-- A new table. -/
  | create (table : String) (columns : List Column)
  /-- Columns added to a table; none is dropped, none changes its kind. -/
  | adapt (table : String) (columns : List Column)
  /-- Rows added to a table, each with a value for each field. -/
  | insert (table : String) (fields : List String) (rows : List (List Sql.Datum))
  deriving DecidableEq, Repr

/-- A computation that calls a store. -/
inductive Work (α : Type) where
  | done (result : α)
  | connect (next : Except StoreError Handle → Work α)
  | close (handle : Handle) (next : Unit → Work α)
  | change (handle : Handle) (change : Change) (next : Except StoreError Unit → Work α)
  | columns (handle : Handle) (table : String)
      (next : Except StoreError (List String) → Work α)

/-- A store with states of type `σ`: what each call answers, and the state after it.
`Storage` and `Connector` in one. -/
structure Backend (σ : Type) where
  connect : σ → Except StoreError Handle × σ
  close : Handle → σ → σ
  change : Handle → Change → σ → Except StoreError Unit × σ
  columns : Handle → String → σ → Except StoreError (List String) × σ

/-- A store that is gone: every call fails. -/
def Backend.gone : Backend Unit where
  connect := fun _ => (.error (.connectionClosed ""), ())
  close := fun _ _ => ()
  change := fun _ _ _ => (.error (.connectionClosed ""), ())
  columns := fun _ _ _ => (.error (.connectionClosed ""), ())

namespace Work

variable {α β σ : Type}

/-! ## Sequence -/

/-- One computation after another. -/
def bind : Work α → (α → Work β) → Work β
  | done a, f => f a
  | connect next, f => connect fun answer => (next answer).bind f
  | close h next, f => close h fun answer => (next answer).bind f
  | change h c next, f => change h c fun answer => (next answer).bind f
  | columns h table next, f => columns h table fun answer => (next answer).bind f

instance : Monad Work where
  pure := done
  bind := bind

/-- A new handle. -/
def connected : Work (Except StoreError Handle) :=
  connect done

/-- The end of a handle. -/
def closed (handle : Handle) : Work Unit :=
  close handle done

/-- A change to a table. -/
def changed (handle : Handle) (c : Change) : Work (Except StoreError Unit) :=
  change handle c done

/-- The names of the columns of a table, in their order. -/
def columnNames (handle : Handle) (table : String) : Work (Except StoreError (List String)) :=
  columns handle table done

/-! ## Running -/

/-- The result of a computation that is done. -/
def result? : Work α → Option α
  | done a => some a
  | _ => none

/-- The computation after its first call, and the store after that call.  A
computation that is done stays as it is. -/
def step (backend : Backend σ) : Work α → σ → Work α × σ
  | done a, s => (done a, s)
  | connect next, s => let r := backend.connect s; (next r.1, r.2)
  | close h next, s => (next (), backend.close h s)
  | change h c next, s => let r := backend.change h c s; (next r.1, r.2)
  | columns h table next, s => let r := backend.columns h table s; (next r.1, r.2)

/-- The result of a computation that no other one interrupts, and the store
after it. -/
def run (backend : Backend σ) : Work α → σ → α × σ
  | done a, s => (a, s)
  | connect next, s => (next (backend.connect s).1).run backend (backend.connect s).2
  | close h next, s => (next ()).run backend (backend.close h s)
  | change h c next, s => (next (backend.change h c s).1).run backend (backend.change h c s).2
  | columns h table next, s =>
    (next (backend.columns h table s).1).run backend (backend.columns h table s).2

theorem eq_done_of_result? {w : Work α} {a : α} (h : w.result? = some a) : w = done a := by
  cases w with
  | done b => exact congrArg done (Option.some.inj h)
  | _ => cases h

@[simp] theorem run_done (backend : Backend σ) (a : α) (s : σ) :
    (done a).run backend s = (a, s) := rfl

@[simp] theorem run_pure (backend : Backend σ) (a : α) (s : σ) :
    (pure a : Work α).run backend s = (a, s) := rfl

/-- A sequence runs its second part on what the first leaves. -/
theorem run_bind (backend : Backend σ) (w : Work α) (f : α → Work β) (s : σ) :
    (w >>= f).run backend s = (f (w.run backend s).1).run backend (w.run backend s).2 := by
  change (w.bind f).run backend s = _
  induction w generalizing s with
  | done a => rfl
  | connect next ih => exact ih _ _
  | close h next ih => exact ih _ _
  | change h c next ih => exact ih _ _
  | columns h table next ih => exact ih _ _

@[simp] theorem run_connected (backend : Backend σ) (s : σ) :
    connected.run backend s = backend.connect s := rfl

@[simp] theorem run_closed (backend : Backend σ) (h : Handle) (s : σ) :
    (closed h).run backend s = ((), backend.close h s) := rfl

@[simp] theorem run_changed (backend : Backend σ) (h : Handle) (c : Change) (s : σ) :
    (changed h c).run backend s = backend.change h c s := rfl

@[simp] theorem run_columnNames (backend : Backend σ) (h : Handle) (table : String) (s : σ) :
    (columnNames h table).run backend s = backend.columns h table s := rfl

/-- A first step does not change what a run gives. -/
theorem run_step (backend : Backend σ) (w : Work α) (s : σ) :
    (w.step backend s).1.run backend (w.step backend s).2 = w.run backend s := by
  cases w <;> rfl

end Work

end PowerTelemetry.Store
