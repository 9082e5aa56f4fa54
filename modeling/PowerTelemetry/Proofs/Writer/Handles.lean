import PowerTelemetry.Proofs.Store.Handles
import PowerTelemetry.Writer
/-!
# The handle of a writer

A writer has one handle at most.  `orderly_store` follows it through a store, in
which up to two connects may fail or give a handle, and `orderly_storeAll` and
`orderly_run` through any number of them.

* `handles_accounted`: between stores on any store, all handles that were opened
  are closed but the one that the writer holds, and every call went through the
  handle that was open; when a run is over, all are closed.
* `connects_eq_closes`: what this says of the counts of a store in memory.
-/

namespace PowerTelemetry

open Store (Work Memory Handle Backend held? openedHandles closedHandles)

/-! ## Columns are ensured through the handle that is held -/

namespace Reconciler

variable (known : Reconciler) (handle : Handle) (table : String) (columns : List Column)

theorem orderly_grow :
    (known.grow handle table columns).Orderly (fun _ held => held = some handle) (some handle) := by
  rw [grow]
  split
  · rfl
  · refine ⟨rfl, fun answer => ?_⟩
    cases answer <;> rfl

theorem orderly_adopt :
    (known.adopt handle table columns).Orderly (fun _ held => held = some handle)
      (some handle) := by
  refine ⟨rfl, fun answer => ?_⟩
  cases answer with
  | ok names => exact orderly_grow _ handle table columns
  | error error => rfl

theorem orderly_ensure :
    (known.ensure handle table columns).Orderly (fun _ held => held = some handle)
      (some handle) := by
  rw [ensure]
  split
  · exact orderly_grow known handle table columns
  · refine ⟨rfl, fun answer => ?_⟩
    rcases answer with error | _
    · cases error with
      | alreadyExists _ => exact orderly_adopt known handle table columns
      | _ => rfl
    · rfl

end Reconciler

namespace Writer

/-! ## Stores -/

/-- The handle that is held is the writer's, who knows no table without one. -/
structure Holds (w : Writer) (held : Option Handle) : Prop where
  handle : w.handle = held
  known : held = none → w.known = Reconciler.empty

theorem Holds.start (counters : Counters) : (start counters).Holds none :=
  ⟨rfl, fun _ => rfl⟩

theorem Holds.counted {w : Writer} {held : Option Handle} (h : w.Holds held) (destination : String)
    (result : Except StoreError Unit) : (w.counted destination result).Holds held := by
  cases result <;> exact ⟨h.handle, h.known⟩

variable {w : Writer} {held : Option Handle}

/-- A store through the writer's handle leaves the writer with it. -/
theorem orderly_storeThrough (w : Writer) {handle : Handle} (hw : w.handle = some handle)
    (destination : String) (sample : Sample) :
    (w.storeThrough handle destination sample).Orderly (fun r held => r.2.Holds held)
      (some handle) := by
  refine (w.known.orderly_ensure handle destination _).bind fun ensured held hheld => ?_
  have hholds (known : Reconciler) : Holds { w with known := known } held :=
    ⟨hw.trans hheld.symm, fun hnone => absurd (hheld.symm.trans hnone) (Option.some_ne_none handle)⟩
  obtain ⟨error | added, known⟩ := ensured
  · exact hholds known
  · exact ⟨hheld, fun answer => hholds known⟩

theorem orderly_attempt (h : w.Holds held) (destination : String) (sample : Sample) :
    (w.attempt destination sample).Orderly (fun r held => r.2.Holds held) held := by
  rw [attempt]
  cases hw : w.handle with
  | some handle =>
    obtain rfl : held = some handle := h.handle.symm.trans hw
    exact w.orderly_storeThrough hw destination sample
  | none =>
    obtain rfl : held = none := h.handle.symm.trans hw
    exact ⟨rfl, fun handle => orderly_storeThrough _ rfl destination sample, fun error => h⟩

theorem orderly_closeHandle (h : w.Holds held) :
    w.closeHandle.Orderly (fun _ held => held = none) held := by
  rw [closeHandle]
  cases hw : w.handle with
  | some handle => exact ⟨h.handle.symm.trans hw, rfl⟩
  | none => exact h.handle.symm.trans hw

/-- What the writer knows goes with its handle. -/
theorem orderly_reconnect (h : w.Holds held) :
    w.reconnect.Orderly (fun w held => w.Holds held) held := by
  refine (orderly_closeHandle h).bind fun _ held hnone => ⟨hnone, fun handle => ?_, fun error => ?_⟩
  · exact ⟨rfl, fun _ => rfl⟩
  · exact ⟨rfl, fun _ => rfl⟩

theorem orderly_conclude (h : w.Holds held) (destination : String)
    (result : Except StoreError Unit) :
    (w.conclude destination result).Orderly (fun w held => w.Holds held) held := by
  have hcounted := h.counted destination result
  rw [conclude]
  split
  · exact orderly_reconnect hcounted
  · exact hcounted

/-- A store leaves a writer with the handle that is open then, if one is. -/
theorem orderly_store (h : w.Holds held) (destination : String) (sample : Sample) :
    (w.store destination sample).Orderly (fun r held => r.2.Holds held) held := by
  refine (orderly_attempt h destination sample).bind fun r held hr => ?_
  exact (orderly_conclude hr destination r.1).bind fun w held hw => hw

theorem orderly_storeAll (h : w.Holds held) (requests : List StoreRequest) :
    (w.storeAll requests).Orderly (fun w held => w.Holds held) held := by
  induction requests generalizing w held with
  | nil => exact h
  | cons request rest ih =>
    exact (orderly_store h request.destination request.sample).bind fun r held hr => ih hr

/-- A run ends with no handle. -/
theorem orderly_run (h : w.Holds held) (requests : List StoreRequest) :
    (w.run requests).Orderly (fun _ held => held = none) held := by
  refine (orderly_storeAll h requests).bind fun w held hw => ?_
  exact (orderly_closeHandle hw).bind fun _ held hnone => hnone

/-! ## Logs -/

/-- How the log of all calls and the writer go together between two stores. -/
structure Accounts (w : Writer) (log : List Store.HandleUse) : Prop where
  /-- Handles were opened while none was open, and calls went through the one that was. -/
  held : held? log = some w.handle
  /-- Handles were closed in the order in which they were opened, all but the last one or all. -/
  closed : openedHandles log = closedHandles log ++ w.handle.toList
  count : (openedHandles log).length
    = (closedHandles log).length + if w.handle.isSome then 1 else 0
  /-- Without a handle, no table is known. -/
  known : w.handle = none → ∀ destination, w.known.isKnown destination = false

theorem Holds.accounts {log : List Store.HandleUse} (h : w.Holds held)
    (hlog : held? log = some held) : w.Accounts log := by
  obtain rfl := h.handle
  have hclosed := Store.openedHandles_eq hlog
  refine ⟨hlog, hclosed, ?_, fun hnone destination => ?_⟩
  · rw [hclosed, List.length_append]
    cases w.handle <;> rfl
  · rw [h.known hnone]
    rfl

/-- Whatever a store answers, a writer accounts for all handles after any number
of requests, and has closed all of them when its run is over. -/
theorem handles_accounted {σ : Type} (backend : Backend σ) (s : σ) (counters : Counters)
    (requests : List StoreRequest) :
    let stored := ((start counters).storeAll requests).run backend.logged (s, [])
    let ended := ((start counters).run requests).run backend.logged (s, [])
    stored.1.Accounts stored.2.2 ∧
      held? ended.2.2 = some none ∧ closedHandles ended.2.2 = openedHandles ended.2.2 := by
  have hstart := Holds.start counters
  constructor
  · obtain ⟨held, hlog, hholds⟩ := (orderly_storeAll hstart requests).held?_run backend s
      Store.held?_nil
    exact hholds.accounts hlog
  · obtain ⟨held, hlog, rfl⟩ := (orderly_run hstart requests).held?_run backend s Store.held?_nil
    have hclosed := Store.openedHandles_eq hlog
    rw [Option.toList_none, List.append_nil] at hclosed
    exact ⟨hlog, hclosed.symm⟩

/-- A store in memory, whose counts of connects and closes agree, counts one more
connect than closes while the writer has a handle, and as many when the run is
over. -/
theorem connects_eq_closes {m : Memory} (hm : m.calls.connects = m.calls.closes)
    (counters : Counters) (requests : List StoreRequest) :
    let stored := ((start counters).storeAll requests).run Memory.backend m
    let ended := ((start counters).run requests).run Memory.backend m
    (stored.2.calls.connects
        = stored.2.calls.closes + if stored.1.handle.isSome then 1 else 0) ∧
      ended.2.calls.connects = ended.2.calls.closes := by
  have hstart := Memory.Tallies.start m
  constructor
  · have htallies := hstart.run ((start counters).storeAll requests)
    have hsame := Work.run_logged Memory.backend ((start counters).storeAll requests) m []
    obtain ⟨held, hlog, hholds⟩ := (orderly_storeAll (Holds.start counters) requests).held?_run
      Memory.backend m Store.held?_nil
    rw [← hsame.1, ← hsame.2, htallies.connects, htallies.closes, (hholds.accounts hlog).count, hm,
      Nat.add_assoc]
  · have htallies := hstart.run ((start counters).run requests)
    have hsame := Work.run_logged Memory.backend ((start counters).run requests) m []
    obtain ⟨held, hlog, rfl⟩ := (orderly_run (Holds.start counters) requests).held?_run
      Memory.backend m Store.held?_nil
    have hclosed := congrArg List.length (Store.openedHandles_eq hlog)
    rw [Option.toList_none, List.append_nil] at hclosed
    rw [← hsame.2, htallies.connects, htallies.closes, hclosed, hm]

end Writer

end PowerTelemetry
