import PowerTelemetry.Ingest
/-!
# How requests go out

A message sends the requests that its payload makes, one after another, until the
receiver is gone.

* `Outbox.sendAll_of_open`, `Outbox.sendAll_of_le` and `Outbox.sendAll_of_lt` say
  which of several requests go out, by how long the receiver stays.
* `Outbox.send_of_there` and `Outbox.send_of_gone` say it of a single one.
* `Ingest.message_eq_of_pushed` is what this comes to for a message.
-/

namespace PowerTelemetry

/-! ## The queue -/

namespace Outbox

variable {requests : List StoreRequest} {o : Outbox}

theorem sendAll_of_open (sent : List StoreRequest) :
    sendAll ⟨sent, none⟩ requests = (.ok (), ⟨sent ++ requests, none⟩) := by
  induction requests generalizing sent with
  | nil => rw [sendAll, List.append_nil]
  | cons request rest ih =>
    rw [sendAll, send]
    simp only [ih, List.append_assoc, List.singleton_append]

/-- All requests go out to a receiver that stays long enough. -/
theorem sendAll_of_le (sent : List StoreRequest) {n : Nat} (h : requests.length ≤ n) :
    sendAll ⟨sent, some n⟩ requests
      = (.ok (), ⟨sent ++ requests, some (n - requests.length)⟩) := by
  induction requests generalizing sent n with
  | nil => rw [sendAll, List.append_nil, List.length_nil, Nat.sub_zero]
  | cons request rest ih =>
    rw [List.length_cons] at h
    obtain ⟨n, rfl⟩ : ∃ k, n = k + 1 := ⟨n - 1, by omega⟩
    rw [sendAll, send]
    simp only [ih (sent ++ [request]) (show rest.length ≤ n by omega), List.append_assoc,
      List.singleton_append, List.length_cons, Nat.add_sub_add_right]

/-- The first request that finds no receiver is named, and no later one goes
out. -/
theorem sendAll_of_lt (sent : List StoreRequest) {n : Nat} (h : n < requests.length) :
    sendAll ⟨sent, some n⟩ requests
      = (.error (.queueClosed requests[n].destination),
          ⟨sent ++ requests.take n, some 0⟩) := by
  induction requests generalizing sent n with
  | nil => simp at h
  | cons request rest ih =>
    rw [List.length_cons] at h
    rw [sendAll, send]
    cases n with
    | zero => simp
    | succ n =>
      simp only [ih (sent ++ [request]) (show n < rest.length by omega), List.append_assoc,
        List.singleton_append, List.take_succ_cons, List.getElem_cons_succ]

theorem sendAll_singleton (o : Outbox) (request : StoreRequest) :
    o.sendAll [request] = o.send request := by
  rw [sendAll]
  rcases o.send request with ⟨_ | ⟨⟩, left⟩ <;> rfl

/-- A request goes out while the receiver is there. -/
theorem send_of_there (h : o.remaining ≠ some 0) (request : StoreRequest) :
    (o.send request).1 = .ok () ∧ (o.send request).2.sent = o.sent ++ [request] := by
  rw [send]
  split
  · exact absurd ‹_› h
  · exact ⟨rfl, rfl⟩
  · exact ⟨rfl, rfl⟩

theorem send_of_gone (h : o.remaining = some 0) (request : StoreRequest) :
    o.send request = (.error (.queueClosed request.destination), o) := by
  rw [send, h]

end Outbox

/-! ## Messages -/

/-- A message sends the requests that its payload makes. -/
theorem Ingest.message_eq_of_pushed {i : Ingest} {now : Instant} {topic serialNumber : String}
    {payload : List UInt8} {requests : List StoreRequest}
    (htopic : Topic.serialNumber? i.template topic = some serialNumber)
    (hpushed : i.pushed now serialNumber payload = requests) (s : Intake) :
    i.message now topic payload s
      = ((s.outbox.sendAll requests).1.map fun _ => requests.length,
          ⟨s.counters.countPushed serialNumber, (s.outbox.sendAll requests).2⟩) := by
  rw [message, htopic]
  simp only [hpushed]

end PowerTelemetry
