import PowerTelemetry.Fleet
import PowerTelemetry.Proofs.Writer.Answers
/-!
# Writers that share a store know nothing false

What a writer knows of the tables may be out of date at any moment, since others
add tables and columns.  It is never false: tables only grow, and a writer learns
from calls that succeeded only.  So no writer makes a call that names a table or
a column that the store does not have.

* `Worker.Sound` is what holds of one writer, whatever it is at.
* `Fleet.Sound` is what holds of all of them and of the store that they share.
  `Sound.step` and `Sound.run` say that it is kept.
* `knows_nothing_false` is the result.
-/

namespace PowerTelemetry

open Store (Memory Disturbance)

/-! ## One writer -/

namespace Worker

/-- A writer that knows nothing false, with a task that is its own. -/
def Sound (injected : List StoreError) (m : Memory) (w : Worker) : Prop :=
  match w.task with
  | .idle => w.writer.known.Truthful m
  | .storing request work => ∃ stage writer, Writer.Sound injected m request stage writer work
  | .reconnecting work => w.writer.known.Truthful m ∧ Writer.Reconnecting w.writer work

variable {injected : List StoreError} {m n : Memory} {w v : Worker}

theorem Sound.mono (h : w.Sound injected m) (hmn : m.Grows n) : w.Sound injected n := by
  obtain ⟨writer, task⟩ := w
  cases task with
  | idle => exact Reconciler.Truthful.mono h hmn
  | storing request work =>
    obtain ⟨stage, writer', hsound⟩ := h
    exact ⟨stage, writer', hsound.mono hmn⟩
  | reconnecting work => exact ⟨h.1.mono hmn, h.2⟩

/-- What a sound writer knows is true, also in the middle of a store. -/
theorem Sound.truthful_known (h : w.Sound injected m) : w.known.Truthful m := by
  obtain ⟨writer, task⟩ := w
  cases task with
  | idle => exact h
  | storing request work =>
    obtain ⟨stage, writer', hsound⟩ := h
    show (work.run Store.Backend.gone ()).1.2.known.Truthful m
    rw [hsound.storing.run_gone]
    exact hsound.truthful
  | reconnecting work => exact h.1

theorem known_counted (writer : Writer) (destination : String) (result : Except StoreError Unit) :
    (writer.counted destination result).known = writer.known := by
  cases result <;> rfl

/-- A writer that has counted a result knows what it knew. -/
theorem sound_conclude {writer : Writer} (hw : writer.known.Truthful m) (request : StoreRequest)
    (result : Except StoreError Unit) : (conclude writer request result).Sound injected m := by
  rw [← known_counted writer request.destination result] at hw
  rw [conclude]
  split
  · exact ⟨hw, Writer.reconnecting_reconnect _⟩
  · exact hw

theorem Sound.take (h : w.Sound injected m) {request : StoreRequest}
    (htake : w.take request = some v) : v.Sound injected m := by
  obtain ⟨hidle, rfl⟩ := eq_of_take htake
  rw [hidle] at h
  exact ⟨.calling, w.writer, (Writer.storing_attempt request w.writer).sound_calling h⟩

theorem Sound.reset (h : w.Sound injected m) (hreset : w.reset = some v) : v.Sound injected m := by
  obtain ⟨writer, task⟩ := w
  cases task with
  | idle =>
    obtain rfl := by simpa [Worker.reset] using hreset
    exact Reconciler.Truthful.empty m
  | _ => simp [Worker.reset] at hreset

theorem Sound.reconnect (h : w.Sound injected m) (hreconnect : w.reconnect = some v) :
    v.Sound injected m := by
  obtain ⟨writer, task⟩ := w
  cases task with
  | idle =>
    obtain rfl := by simpa [Worker.reconnect] using hreconnect
    exact ⟨h, Writer.reconnecting_reconnect writer⟩
  | _ => simp [Worker.reconnect] at hreconnect

/-- An error that a sound writer is about to count is excused. -/
theorem Sound.excused (h : w.Sound injected m) {request : StoreRequest} {error : StoreError}
    (hresult : w.result? = some (request, .error error)) :
    Writer.Excused injected m request error := by
  obtain ⟨writer, task⟩ := w
  cases task with
  | storing stored work =>
    obtain ⟨stage, writer', hsound⟩ := h
    obtain ⟨⟨result, v⟩, hr, heq⟩ := Option.map_eq_some_iff.mp hresult
    obtain ⟨rfl, rfl⟩ := Prod.mk.inj heq
    exact hsound.excused error v (Store.Work.eq_done_of_result? hr)
  | _ => cases hresult

/-- A turn of a sound writer keeps it sound, lets the store grow and uses up
failures at most. -/
theorem Sound.proceed (h : w.Sound injected m) (hpending : m.pending ⊆ injected)
    (hplain : ∀ table, StoreError.alreadyExists table ∉ injected)
    (hproceed : w.proceed m = some (v, n)) :
    v.Sound injected n ∧ m.Grows n ∧ n.pending ⊆ m.pending := by
  obtain ⟨writer, task⟩ := w
  cases turn_of_proceed hproceed with
  | counted request result left =>
    obtain ⟨stage, writer', hsound⟩ := h
    obtain rfl : left = writer' := hsound.storing.run_gone
    exact ⟨sound_conclude hsound.truthful request result, Memory.Grows.refl m,
      List.Subset.refl _⟩
  | storing request work busy =>
    obtain ⟨stage, writer', hsound⟩ := h
    have hbusy : stage ≠ .over := hsound.storing.ne_over busy
    exact ⟨hsound.step hbusy hpending hplain, Memory.grows_step work m,
      Memory.pending_step work m⟩
  | replaced left =>
    have hnew : Writer.Reconnecting writer (.done left) := h.2
    obtain ⟨handle, rfl⟩ := hnew.eq_of_done
    exact ⟨Reconciler.Truthful.empty m, Memory.Grows.refl m, List.Subset.refl _⟩
  | reconnecting work busy =>
    have hgrows := Memory.grows_step work m
    exact ⟨⟨h.1.mono hgrows, h.2.step m⟩, hgrows, Memory.pending_step work m⟩

end Worker

/-! ## All writers -/

namespace Fleet

variable {ι : Type} {injected : List StoreError} {f g : Fleet ι}

/-- What holds at every moment of writers that share a store, with the failures
that are ever arranged. -/
structure Sound (injected : List StoreError) (f : Fleet ι) : Prop where
  worker : ∀ i, (f.worker i).Sound injected f.store
  pending : f.store.pending ⊆ injected

theorem sound_start (counters : ι → Counters) {store : Memory} (h : store.pending ⊆ injected) :
    (start counters store).Sound injected where
  worker _ := Reconciler.Truthful.empty store
  pending := h

variable [DecidableEq ι]

/-- A sound writer in the place of one, and a store that has grown. -/
theorem Sound.set (h : f.Sound injected) {i : ι} {worker : Worker} {m : Memory}
    (hworker : worker.Sound injected m) (hgrows : f.store.Grows m)
    (hpending : m.pending ⊆ injected) : Sound injected { f.set i worker with store := m } where
  worker j := by
    show Worker.Sound injected m (if j = i then worker else f.worker j)
    by_cases hj : j = i
    · rwa [if_pos hj]
    · rw [if_neg hj]
      exact (h.worker j).mono hgrows
  pending := hpending

/-- Every event keeps all writers sound. -/
theorem Sound.step (h : f.Sound injected)
    (hplain : ∀ table, StoreError.alreadyExists table ∉ injected) {event : Event ι}
    (hfailure : event.failure?.toList ⊆ injected) (hstep : f.step event = some g) :
    g.Sound injected := by
  have hsame := Memory.Grows.refl f.store
  cases event with
  | take i request =>
    obtain ⟨worker, htake, rfl⟩ := Option.map_eq_some_iff.mp hstep
    exact h.set ((h.worker i).take htake) hsame h.pending
  | work i =>
    obtain ⟨⟨worker, m⟩, hproceed, rfl⟩ := Option.map_eq_some_iff.mp hstep
    obtain ⟨hworker, hgrows, hpending⟩ := (h.worker i).proceed h.pending hplain hproceed
    exact h.set hworker hgrows (List.Subset.trans hpending h.pending)
  | reset i =>
    obtain ⟨worker, hreset, rfl⟩ := Option.map_eq_some_iff.mp hstep
    exact h.set ((h.worker i).reset hreset) hsame h.pending
  | reconnect i =>
    obtain ⟨worker, hreconnect, rfl⟩ := Option.map_eq_some_iff.mp hstep
    exact h.set ((h.worker i).reconnect hreconnect) hsame h.pending
  | disturb d =>
    obtain ⟨m, hdisturb, rfl⟩ := Option.map_eq_some_iff.mp hstep
    refine ⟨fun i => (h.worker i).mono (Memory.grows_disturb hdisturb), ?_⟩
    exact List.Subset.trans (Memory.pending_disturb hdisturb)
      (List.append_subset.mpr ⟨h.pending, hfailure⟩)

/-- Every run keeps all writers sound. -/
theorem Sound.run (h : f.Sound injected)
    (hplain : ∀ table, StoreError.alreadyExists table ∉ injected) {events : List (Event ι)}
    (hfailures : failures events ⊆ injected) (hrun : f.run events = some g) :
    g.Sound injected := by
  induction events generalizing f with
  | nil =>
    obtain rfl := Option.some.inj hrun
    exact h
  | cons event rest ih =>
    obtain ⟨next, hstep, hrest⟩ := Option.bind_eq_some_iff.mp hrun
    have hfailure : event.failure?.toList ⊆ injected := by
      intro error herror
      refine hfailures (List.mem_filterMap.mpr ⟨event, List.mem_cons_self, ?_⟩)
      exact Option.mem_toList.mp herror
    have hlater : failures rest ⊆ injected := by
      intro error herror
      obtain ⟨e, he, hfails⟩ := List.mem_filterMap.mp herror
      exact hfailures (List.mem_filterMap.mpr ⟨e, List.mem_cons_of_mem _ he, hfails⟩)
    exact ih (h.step hplain hfailure hstep) hlater hrest

/-- Writers that share a store know nothing false.  At every moment of every run
in which no arranged failure claims that a table exists, a table that a writer
knows of exists and has the columns that are known of it; the call that a writer
is about to make gets an answer that fits if no failure is to come; and an error
that a store ends with is an arranged one, or the rejection of a value by the
column that it is meant for. -/
theorem knows_nothing_false (counters : ι → Counters) (store : Memory)
    (events : List (Event ι)) (f : Fleet ι) (hrun : (start counters store).run events = some f)
    (hplain : ∀ table, StoreError.alreadyExists table ∉ store.pending ++ failures events)
    (i : ι) :
    (f.worker i).known.Truthful f.store ∧
      (∀ request handle c next, (f.worker i).task = .storing request (.change handle c next) →
        Store.Fits f.store c (f.store.calm.change c).1) ∧
      ∀ request error, (f.worker i).result? = some (request, .error error) →
        Writer.Excused (store.pending ++ failures events) f.store request error := by
  have h : f.Sound (store.pending ++ failures events) :=
    (sound_start counters (List.subset_append_left _ _)).run hplain
      (List.subset_append_right _ _) hrun
  have hi := h.worker i
  refine ⟨hi.truthful_known, fun request handle c next htask => ?_,
    fun request error hresult => ?_⟩
  · rw [Worker.Sound, htask] at hi
    obtain ⟨stage, writer, hsound⟩ := hi
    have htrue := hsound.truthful.mono f.store.grows_calm
    rcases hsound.storing.answer_fits htrue with ⟨error, hmem, _⟩ | hfits
    · rw [Memory.pending_calm] at hmem
      cases hmem
    · exact hfits.mono (Memory.Grows.of_tables_eq rfl)
  · exact hi.excused hresult

/-- A request for one table, with what a device reported. -/
private def wattsRequest (watts : Value) : StoreRequest :=
  ⟨"meter", ⟨"HW51", ⟨0, 0⟩, Dict.ofList [("watts", watts)]⟩⟩

/-- Two writers want to create the same table.  One of them is late, reads the
columns, and has a text for a column of numbers; the other one loses its
connection. -/
private def raceEvents : List (Event Bool) :=
  [.take false (wattsRequest (.integer 5)), .take true (wattsRequest (.text "n/a")),
    .work false, .work true, .work false, .work true, .work true,
    .disturb (.failInsert (.connectionClosed "reset by peer")), .work false, .work true]

theorem knows_nothing_false_raceEvents :
    ∃ f, (start (fun _ : Bool => Counters.empty) Memory.empty).run raceEvents = some f ∧
      (f.worker true).known.isKnown "meter" ∧ (f.worker true).known.Truthful f.store ∧
      ∃ error, (f.worker true).result? = some (wattsRequest (.text "n/a"), .error error) ∧
        Writer.Excused (failures raceEvents) f.store (wattsRequest (.text "n/a")) error := by
  have hsome : ((start (fun _ : Bool => Counters.empty) Memory.empty).run raceEvents).isSome := by
    decide
  have hrun := (Option.some_get hsome).symm
  have hplain : ∀ table,
      StoreError.alreadyExists table ∉ Memory.empty.pending ++ failures raceEvents := by
    simp [Memory.pending, Memory.empty, failures, raceEvents, Event.failure?,
      Disturbance.failure?]
  obtain ⟨htruthful, _, hexcused⟩ := knows_nothing_false (fun _ => Counters.empty) Memory.empty
    raceEvents _ hrun hplain true
  exact ⟨_, hrun, rfl, htruthful, _, rfl, hexcused _ _ rfl⟩

end Fleet

end PowerTelemetry
