import PowerTelemetry.Store.Work
/-!
# The handles in use

`Backend.logged` is a store that writes down, call by call, which handle was
opened, closed or used.  What it answers is what the store answers.

`held?` replays such a log for somebody who has one handle at most: a handle is
opened only where none is held, and closed or used only while it is the one that
is held.
-/

namespace PowerTelemetry.Store

variable {σ : Type}

/-- What a call does with a handle. -/
inductive HandleUse where
  /-- A connect gave the handle. -/
  | opened (handle : Handle)
  /-- A connect gave none. -/
  | refused
  | closed (handle : Handle)
  /-- A table was changed or looked at through the handle. -/
  | used (handle : Handle)
  deriving DecidableEq, Repr

/-- What a connect with this answer does. -/
def HandleUse.ofAnswer : Except StoreError Handle → HandleUse
  | .ok handle => opened handle
  | .error _ => refused

/-- The store, with a log of what is done with its handles. -/
def Backend.logged (backend : Backend σ) : Backend (σ × List HandleUse) where
  connect s :=
    let (answer, rest) := backend.connect s.1
    (answer, rest, s.2 ++ [.ofAnswer answer])
  close h s := (backend.close h s.1, s.2 ++ [.closed h])
  change h c s :=
    let (answer, rest) := backend.change h c s.1
    (answer, rest, s.2 ++ [.used h])
  columns h table s :=
    let (answer, rest) := backend.columns h table s.1
    (answer, rest, s.2 ++ [.used h])

/-- Work ends alike with a log. -/
theorem Work.run_logged {α : Type} (backend : Backend σ) (work : Work α) (s : σ)
    (log : List HandleUse) :
    (work.run backend.logged (s, log)).1 = (work.run backend s).1 ∧
      (work.run backend.logged (s, log)).2.1 = (work.run backend s).2 := by
  induction work generalizing s log with
  | done a => exact ⟨rfl, rfl⟩
  | connect next ih => exact ih _ _ _
  | close h next ih => exact ih _ _ _
  | change h c next ih => exact ih _ _ _
  | columns h table next ih => exact ih _ _ _

/-! ## Logs -/

namespace HandleUse

/-- The handle that is opened. -/
@[simp]
def opened? : HandleUse → Option Handle
  | opened h => some h
  | _ => none

/-- The handle that is closed. -/
@[simp]
def closed? : HandleUse → Option Handle
  | closed h => some h
  | _ => none

/-- The handle that is held after a use, if the one that is held before allows
it. -/
def next? (held : Option Handle) (use : HandleUse) : Option (Option Handle) :=
  match held, use with
  | none, opened h => some (some h)
  | none, refused => some none
  | some h, closed h' => if h = h' then some none else none
  | some h, used h' => if h = h' then some (some h) else none
  | _, _ => none

end HandleUse

/-- The handles that were opened, in their order. -/
def openedHandles (log : List HandleUse) : List Handle :=
  log.filterMap HandleUse.opened?

/-- The handles that were closed, in their order. -/
def closedHandles (log : List HandleUse) : List Handle :=
  log.filterMap HandleUse.closed?

/-- The handle that is held at the end of a log, if each use is allowed. -/
def held? (log : List HandleUse) : Option (Option Handle) :=
  log.foldlM HandleUse.next? none

@[simp] theorem openedHandles_concat (log : List HandleUse) (use : HandleUse) :
    openedHandles (log ++ [use]) = openedHandles log ++ use.opened?.toList := by
  cases use <;> simp [openedHandles, HandleUse.opened?]

@[simp] theorem closedHandles_concat (log : List HandleUse) (use : HandleUse) :
    closedHandles (log ++ [use]) = closedHandles log ++ use.closed?.toList := by
  cases use <;> simp [closedHandles, HandleUse.closed?]

@[simp] theorem held?_nil : held? [] = some none := rfl

theorem held?_concat (log : List HandleUse) (use : HandleUse) :
    held? (log ++ [use]) = (held? log).bind fun held => use.next? held := by
  rw [held?, List.foldlM_append, ← held?]
  simp

end PowerTelemetry.Store
