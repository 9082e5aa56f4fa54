import PowerTelemetry.Pipeline
import PowerTelemetry.Proofs.Worker.Turn
/-!
# Nothing is lost in the pipeline

Producers, the writer and the others who use the store take turns in any order.
`Balanced` ties together what they share: the queue, the request that the writer
is at, the counters, and the rows of all tables.

* `Balanced.step` says that every event keeps it.
* `Balanced.run` says so of every run.
* `conserves_requests` is the result: at every moment each request is counted
  once or waits, and the tables have gained the rows of the accepted requests.
-/

namespace PowerTelemetry

open Store (Memory Disturbance)

namespace Pipeline

/-- The results of the stores that have returned: those that are counted, and
the one that the writer is about to count. -/
def returned (p : Pipeline) (counted : List (StoreRequest × Except StoreError Unit)) :
    List (StoreRequest × Except StoreError Unit) :=
  counted ++ p.worker.result?.toList

/-- What holds at every moment of a run, with the requests that were sent so far
and the results that were counted so far. -/
structure Balanced (capacity : Nat) (counters : Counters) (store : Memory)
    (sent : List StoreRequest) (counted : List (StoreRequest × Except StoreError Unit))
    (p : Pipeline) : Prop where
  proper : p.worker.Proper
  bounded : p.capacity = capacity
  room : p.queue.length ≤ capacity
  order : sent = counted.map (·.1) ++ p.waiting
  counts : ∀ destination, p.counts destination
    = ⟨(counters.destination destination).inserted + (accepted destination counted).length,
        (counters.destination destination).failed + (refused destination counted).length⟩
  rows : ∀ table, p.store.rows table
    = store.rows table ++ (accepted table (p.returned counted)).map (·.row)

variable {capacity : Nat} {counters : Counters} {store : Memory} {sent : List StoreRequest}
  {counted : List (StoreRequest × Except StoreError Unit)} {p q : Pipeline}

theorem balanced_start (capacity : Nat) (counters : Counters) (store : Memory) :
    Balanced capacity counters store [] [] (start capacity counters store) where
  proper := Worker.proper_idle _
  bounded := rfl
  room := Nat.zero_le capacity
  order := rfl
  counts _ := rfl
  rows table := by simp [returned, start, Worker.idle, Worker.result?, accepted]

/-! ## One event -/

/-- A request that enters the queue waits behind all others. -/
theorem Balanced.send (h : Balanced capacity counters store sent counted p) {request : StoreRequest}
    (hstep : p.step (.send request) = some q) :
    Balanced capacity counters store (sent ++ [request]) counted q := by
  simp only [step] at hstep
  split at hstep
  · rename_i hroom
    obtain rfl := Option.some.inj hstep
    refine ⟨h.proper, h.bounded, ?_, ?_, h.counts, h.rows⟩
    · show (p.queue ++ [request]).length ≤ capacity
      rw [List.length_append, List.length_singleton, ← h.bounded]
      omega
    · rw [h.order, waiting, waiting]
      simp only [List.append_assoc]
  · cases hstep

/-- A request that the writer takes goes on waiting. -/
theorem Balanced.receive (h : Balanced capacity counters store sent counted p)
    (hstep : p.step .receive = some q) : Balanced capacity counters store sent counted q := by
  obtain ⟨bound, queue, worker, memory⟩ := p
  simp only [step] at hstep
  cases queue with
  | nil => cases hstep
  | cons request rest =>
    obtain ⟨taken, htake, rfl⟩ := Option.map_eq_some_iff.mp hstep
    obtain ⟨hproper, hidle, hnone, hrequest, hresult, hwriter⟩ := Worker.proper_of_take htake
    refine ⟨hproper, h.bounded, ?_, ?_, ?_, ?_⟩
    · have hroom : rest.length + 1 ≤ capacity := h.room
      show rest.length ≤ capacity
      omega
    · rw [h.order, waiting, waiting, hidle, hrequest]
      rfl
    · intro destination
      show taken.writer.counters.destination destination = _
      rw [hwriter]
      exact h.counts destination
    · intro table
      have hrows := h.rows table
      rw [returned, hnone] at hrows
      rw [returned, hresult]
      exact hrows

/-- What the writer does next moves its request from the waiting ones to the
counted ones, or adds the row of the result that it brings about. -/
theorem Balanced.work (h : Balanced capacity counters store sent counted p)
    (hstep : p.step .work = some q) :
    Balanced capacity counters store sent (counted ++ p.worker.result?.toList) q := by
  obtain ⟨⟨worker, memory⟩, hproceed, rfl⟩ := Option.map_eq_some_iff.mp hstep
  obtain ⟨hproper, hcount | hcall⟩ := Worker.proper_of_proceed h.proper hproceed
  · obtain ⟨request, result, hrequest, hresult, hfree, hnone, rfl, hcounts⟩ := hcount
    refine ⟨hproper, h.bounded, h.room, ?_, ?_, ?_⟩
    · rw [h.order, waiting, waiting, hrequest, hresult, hfree]
      simp
    · intro destination
      have hbefore : p.worker.writer.counters.destination destination = _ := h.counts destination
      show worker.writer.counters.destination destination = _
      rw [hcounts destination, hbefore, hresult, Option.toList_some, accepted_append,
        refused_append, List.length_append, List.length_append]
      simp only [Nat.add_assoc]
    · intro table
      rw [h.rows table, returned, returned, hnone, Option.toList_none, List.append_nil]
  · obtain ⟨hnone, hrequest, hcounters, hrows⟩ := hcall
    rw [hnone, Option.toList_none, List.append_nil]
    refine ⟨hproper, h.bounded, h.room, ?_, ?_, ?_⟩
    · rw [h.order, waiting, waiting, hrequest]
    · intro destination
      show worker.writer.counters.destination destination = _
      rw [hcounters]
      exact h.counts destination
    · intro table
      have hbefore := h.rows table
      rw [returned, hnone, Option.toList_none, List.append_nil] at hbefore
      rw [hrows table, hbefore, returned, accepted_append, List.map_append, List.append_assoc]

/-- What others do to the store touches neither the queue nor any row. -/
theorem Balanced.disturb (h : Balanced capacity counters store sent counted p) {d : Disturbance}
    (hstep : p.step (.disturb d) = some q) : Balanced capacity counters store sent counted q := by
  obtain ⟨memory, hdisturb, rfl⟩ := Option.map_eq_some_iff.mp hstep
  refine ⟨h.proper, h.bounded, h.room, h.order, h.counts, fun table => ?_⟩
  rw [Memory.rows_disturb hdisturb]
  exact h.rows table

/-- Every event keeps the balance. -/
theorem Balanced.step (h : Balanced capacity counters store sent counted p) {event : Event}
    (hstep : p.step event = some q) :
    Balanced capacity counters store (sent ++ event.sent) (counted ++ p.countedBy event) q := by
  cases event with
  | send request =>
    rw [countedBy, List.append_nil]
    exact h.send hstep
  | receive =>
    rw [Event.sent, countedBy, List.append_nil, List.append_nil]
    exact h.receive hstep
  | work =>
    rw [Event.sent, List.append_nil]
    exact h.work hstep
  | disturb d =>
    rw [Event.sent, countedBy, List.append_nil, List.append_nil]
    exact h.disturb hstep

/-! ## All events -/

/-- Every run keeps the balance. -/
theorem Balanced.run (h : Balanced capacity counters store sent counted p) {events : List Event}
    (hrun : p.run events = some q) :
    Balanced capacity counters store (sent ++ Pipeline.sent events)
      (counted ++ p.counted events) q := by
  induction events generalizing p sent counted with
  | nil =>
    obtain rfl := Option.some.inj hrun
    simpa [Pipeline.sent, Pipeline.counted] using h
  | cons event rest ih =>
    obtain ⟨next, hstep, hrest⟩ := Option.bind_eq_some_iff.mp hrun
    have hnext := ih (h.step hstep) hrest
    simpa only [Pipeline.sent, Pipeline.counted, hstep, List.flatMap_cons,
      List.append_assoc] using hnext

/-- The stores that have returned are those of the first requests. -/
theorem Balanced.returned_prefix (h : Balanced capacity counters store sent counted p) :
    (p.returned counted).map (·.1) <+: sent := by
  rw [h.order, returned, List.map_append, waiting]
  refine (List.prefix_append_right_inj _).mpr ?_
  cases hresult : p.worker.result? with
  | none => exact List.nil_prefix
  | some r =>
    rw [Worker.request?_of_result? hresult]
    exact List.prefix_append _ _

/-- The requests for a destination are waiting or counted. -/
theorem Balanced.length_sent (h : Balanced capacity counters store sent counted p)
    (destination : String) :
    (counters.destination destination).inserted + (counters.destination destination).failed
        + (sent.filter (·.destination == destination)).length
      = (p.waiting.filter (·.destination == destination)).length
        + (p.counts destination).inserted + (p.counts destination).failed := by
  have hcounted := length_accepted_add_length_refused destination counted
  rw [h.counts, h.order, List.filter_append, List.length_append]
  simp only
  omega

/-- Requests are conserved and keep their order.  After any run each request that
was sent is counted once, or waits in the queue or at the writer; the counts of a
destination are those of its counted requests; and its table has gained one row
for each of its requests whose store succeeded, in the order they were sent, and
nothing for the others. -/
theorem conserves_requests (capacity : Nat) (counters : Counters) (store : Memory)
    (events : List Event) (p : Pipeline)
    (hrun : (start capacity counters store).run events = some p) (destination : String) :
    let counted := (start capacity counters store).counted events
    let returned := p.returned counted
    p.queue.length ≤ capacity ∧
      Pipeline.sent events = counted.map (·.1) ++ p.waiting ∧
      (counters.destination destination).inserted + (counters.destination destination).failed
          + ((Pipeline.sent events).filter (·.destination == destination)).length
        = (p.waiting.filter (·.destination == destination)).length
          + (p.counts destination).inserted + (p.counts destination).failed ∧
      p.counts destination
        = ⟨(counters.destination destination).inserted + (accepted destination counted).length,
            (counters.destination destination).failed + (refused destination counted).length⟩ ∧
      returned.map (·.1) <+: Pipeline.sent events ∧
      p.store.rows destination
        = store.rows destination ++ (accepted destination returned).map (·.row) := by
  intro counted returned
  have h : Balanced capacity counters store (Pipeline.sent events) counted p := by
    simpa using (balanced_start capacity counters store).run hrun
  refine ⟨h.room, h.order, h.length_sent destination, h.counts destination, ?_, ?_⟩
  · exact h.returned_prefix
  · exact h.rows destination

/-- A request for one table. -/
private def meterRequest (seconds : Int) : StoreRequest :=
  ⟨"meter", ⟨"HW51", ⟨seconds, 0⟩, Dict.ofList [("watts", .integer 5)]⟩⟩

/-- One request is stored, the next one is lost with the connection, and a third
one waits while the writer reconnects. -/
private def lossyEvents : List Event :=
  [.send (meterRequest 0), .receive, .send (meterRequest 1), .work, .work, .work, .work,
    .disturb (.failInsert (.connectionClosed "reset by peer")), .receive, .work, .work,
    .send (meterRequest 2)]

theorem conserves_requests_lossyEvents :
    ∃ p, (start 1 Counters.empty Memory.empty).run lossyEvents = some p ∧
      p.counts "meter" = ⟨1, 1⟩ ∧ p.store.rows "meter" = [(meterRequest 0).row] := by
  have hsome : ((start 1 Counters.empty Memory.empty).run lossyEvents).isSome := by decide
  have hrun := (Option.some_get hsome).symm
  obtain ⟨_, _, _, hcounts, _, hrows⟩ :=
    conserves_requests 1 Counters.empty Memory.empty lossyEvents _ hrun "meter"
  refine ⟨_, hrun, ?_, ?_⟩
  · rw [hcounts]
    decide
  · rw [hrows]
    rfl

end Pipeline

end PowerTelemetry
