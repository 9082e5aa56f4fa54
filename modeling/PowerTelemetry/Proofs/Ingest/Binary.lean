import PowerTelemetry.Proofs.Frame.Envelope
import PowerTelemetry.Proofs.Ingest.Sending
/-!
# Binary messages end to end

A binary message is frames one after another, each around a body of any bytes.
`bodyRequests` says which requests one body makes, without any frame around it.

* `pushed_framed` says that the requests of a message are those of its bodies.
* `message_framed` is the result.
-/

namespace PowerTelemetry

open PowerTelemetry.Frame (Header Heartbeat PowerPack framed)

/-! ## Bodies -/

namespace Ingest

variable (i : Ingest) (now : Instant) (serialNumber : String)

/-- The requests that a header makes: one for each record in its payload. -/
def headerRequests (h : Header) : List StoreRequest :=
  let device := h.deviceOr serialNumber
  if h.command = Frame.heartbeatCommand then
    match Heartbeat.read h.payload with
    | .ok heartbeat => [i.recordRequest now device (.heartbeat heartbeat)]
    | .error _ => []
  else if h.command = Frame.powerCommand then
    match PowerPack.read h.payload with
    | .ok pack => pack.items.map fun item => i.recordRequest now device (.power item)
    | .error _ => []
  else []

/-- The requests that a body makes which is read as a header at some depth; none
if it is no header. -/
def bodyRequests (depth : Nat) (body : List UInt8) : List StoreRequest :=
  match Header.readAt depth body with
  | .ok h => i.headerRequests now serialNumber h
  | .error _ => []

/-- A frame makes the requests of its body. -/
theorem frameRequests_framed {body : List UInt8} (hlength : body.length < 2 ^ 64) :
    i.frameRequests now serialNumber (framed body)
      = i.bodyRequests now serialNumber Frame.innerDepth body := by
  rw [frameRequests, Frame.read_framed hlength, bodyRequests]
  cases Header.readAt Frame.innerDepth body with
  | error e => rfl
  | ok h =>
    simp only [headerRequests, Frame.readBody]
    by_cases hheartbeat : h.command = Frame.heartbeatCommand
    · rw [if_pos hheartbeat, if_pos hheartbeat]
      cases Heartbeat.read h.payload <;> rfl
    · rw [if_neg hheartbeat, if_neg hheartbeat]
      by_cases hpower : h.command = Frame.powerCommand
      · rw [if_pos hpower, if_pos hpower]
        cases PowerPack.read h.payload with
        | error e => rfl
        | ok pack => simp [Frame.records, Frame.deviceOr]
      · rw [if_neg hpower, if_neg hpower]
        rfl

/-- Frames one after another make the requests of their bodies, in order. -/
theorem pushed_framed {bodies : List (List UInt8)} (hlength : ∀ b ∈ bodies, b.length < 2 ^ 64)
    (hbinary : jsonObject? (bodies.map framed).flatten = none) :
    i.pushed now serialNumber (bodies.map framed).flatten
      = bodies.flatMap (i.bodyRequests now serialNumber Frame.innerDepth) := by
  have hframes : ∀ f ∈ bodies.map framed, Frame.IsFramed f := by
    intro f hf
    obtain ⟨body, hbody, rfl⟩ := List.mem_map.mp hf
    exact Frame.isFramed_framed (hlength body hbody)
  rw [pushed, hbinary]
  simp only [Frame.split_flatten_of_isFramed hframes, List.flatMap_def, List.map_map]
  rw [List.map_congr_left]
  intro body hbody
  exact frameRequests_framed i now serialNumber (hlength body hbody)

/-- Binary messages end to end.  A message of frames around any bodies sends, in
order, the requests that its bodies make as headers one level down, and gives
their number; a body that is no such header costs only itself.  If the receiver
is gone after fewer requests, exactly those have gone out, and the error names
the destination of the next one.  A body that is a header one level down is the
same header on its own. -/
theorem message_framed (i : Ingest) (now : Instant) (topic serialNumber : String)
    (bodies : List (List UInt8)) (s : Intake)
    (htopic : Topic.serialNumber? i.template topic = some serialNumber)
    (hlength : ∀ b ∈ bodies, b.length < 2 ^ 64)
    (hbinary : jsonObject? (bodies.map framed).flatten = none) :
    let requests := bodies.flatMap (i.bodyRequests now serialNumber Frame.innerDepth)
    let counters := s.counters.countPushed serialNumber
    let taken := i.message now topic (bodies.map framed).flatten s
    (s.outbox.remaining = none →
        taken = (.ok requests.length, ⟨counters, ⟨s.outbox.sent ++ requests, none⟩⟩)) ∧
      (∀ n, s.outbox.remaining = some n → requests.length ≤ n →
        taken = (.ok requests.length,
          ⟨counters, ⟨s.outbox.sent ++ requests, some (n - requests.length)⟩⟩)) ∧
      (∀ n, s.outbox.remaining = some n → ∀ h : n < requests.length,
        taken = (.error (.queueClosed requests[n].destination),
          ⟨counters, ⟨s.outbox.sent ++ requests.take n, some 0⟩⟩)) ∧
      ∀ body h, Header.readAt Frame.innerDepth body = .ok h →
        Header.readAt Wire.maxDepth body = .ok h := by
  intro requests counters taken
  obtain ⟨before, sent, remaining⟩ := s
  have htaken := message_eq_of_pushed htopic
    (pushed_framed i now serialNumber hlength hbinary) ⟨before, sent, remaining⟩
  refine ⟨?_, ?_, ?_, fun body h hread => Header.readAt_succ hread⟩
  · rintro rfl
    rw [Outbox.sendAll_of_open] at htaken
    exact htaken
  · rintro n rfl hle
    rw [Outbox.sendAll_of_le sent hle] at htaken
    exact htaken
  · rintro n rfl hlt
    rw [Outbox.sendAll_of_lt sent hlt] at htaken
    exact htaken

/-- Messages of one device. -/
private def homeIngest : Ingest :=
  ⟨⟨"", none⟩, "/app/device/property/{sn}"⟩

/-- The command of a heartbeat, no bytes of a header, and a heartbeat again. -/
private def noisyBodies : List (List UInt8) :=
  [[0x48, 1], [0xff], [0x48, 1]]

theorem message_framed_noisyBodies :
    (homeIngest.message ⟨0, 0⟩ "/app/device/property/HW51" (noisyBodies.map framed).flatten
      ⟨Counters.empty, Outbox.opened⟩).1 = .ok 2 := by
  have htaken := message_framed homeIngest ⟨0, 0⟩ "/app/device/property/HW51" "HW51" noisyBodies
    ⟨Counters.empty, Outbox.opened⟩ (by decide +kernel) (by decide) (by decide +kernel)
  rw [htaken.1 rfl]
  rfl

/-- The command of a heartbeat, and one hundred groups inside each other. -/
private def deepBody : List UInt8 :=
  [0x48, 1] ++ List.replicate 100 0x6b ++ List.replicate 100 0x6c

/-- On its own this body is a header with a heartbeat.  In a frame its groups
nest one level too deep, and it makes no request. -/
theorem message_framed_deepBody :
    Topic.serialNumber? homeIngest.template "/app/device/property/HW51" = some "HW51" ∧
      jsonObject? ([deepBody].map framed).flatten = none ∧
      (homeIngest.bodyRequests ⟨0, 0⟩ "HW51" Wire.maxDepth deepBody).length = 1 ∧
      (homeIngest.message ⟨0, 0⟩ "/app/device/property/HW51" ([deepBody].map framed).flatten
        ⟨Counters.empty, Outbox.opened⟩).1 = .ok 0 := by
  have htopic : Topic.serialNumber? homeIngest.template "/app/device/property/HW51"
      = some "HW51" := by
    decide +kernel
  have hbinary : jsonObject? ([deepBody].map framed).flatten = none := by decide +kernel
  have hnone : [deepBody].flatMap (homeIngest.bodyRequests ⟨0, 0⟩ "HW51" Frame.innerDepth) = [] :=
    List.length_eq_zero_iff.mp (by decide +kernel)
  have hpushed := pushed_framed homeIngest ⟨0, 0⟩ "HW51" (by decide +kernel) hbinary
  rw [hnone] at hpushed
  refine ⟨htopic, hbinary, by decide +kernel, ?_⟩
  rw [message_eq_of_pushed htopic hpushed]
  rfl

end Ingest

end PowerTelemetry
