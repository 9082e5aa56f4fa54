import PowerTelemetry.Cloud.Device
import PowerTelemetry.Cloud.Error
import PowerTelemetry.Ingest
import PowerTelemetry.Schedule
/-!
# The poller

In each round the poller asks the cloud for a snapshot of every device and
takes it in.  The devices are pinned, or else those that the cloud lists as
online.  A device whose snapshot cannot be had is passed over; a round fails
only without a list of devices, or when the queue is closed, and then the poller
ends.
-/

namespace PowerTelemetry

/-- `DeviceApi`: what the cloud answers, with states of type `σ`. -/
structure Cloud (σ : Type) where
  deviceList : σ → Except Cloud.Error (List Cloud.Device) × σ
  parameters : String → σ → Except Cloud.Error (List (String × Json)) × σ

/-- Why a round failed. -/
inductive PollError where
  | cloud (e : Cloud.Error)
  | ingest (e : IngestError)
  deriving DecidableEq, Repr

/-- The text of an error. -/
def PollError.message : PollError → String
  | cloud e => e.message
  | ingest e => e.message

/-- `HttpPoller`: which devices are polled, and how their snapshots are taken in. -/
structure Poller where
  pinned : List String
  ingest : Ingest
  deriving DecidableEq, Repr, Inhabited

namespace Poller

variable {σ : Type}

/-- `resolve_devices`: the devices to poll. -/
def resolve (cloud : Cloud σ) (pinned : List String) (s : σ) :
    Except Cloud.Error (List String) × σ :=
  if pinned.isEmpty then
    let (listed, s) := cloud.deviceList s
    (listed.map fun devices => (devices.filter (·.isOnline)).map (·.serialNumber), s)
  else (.ok pinned, s)

/-- The snapshots of devices taken in one after another, `polled` of them so far; the
loop of `HttpPoller::poll_once`. -/
def pollAll (p : Poller) (cloud : Cloud σ) (now : Instant) (polled : Nat) :
    List String → σ × Intake → Except PollError Nat × (σ × Intake)
  | [], s => (.ok polled, s)
  | serialNumber :: rest, (s, intake) =>
    match cloud.parameters serialNumber s with
    | (.error _, s) => p.pollAll cloud now polled rest (s, intake)
    | (.ok members, s) =>
      match p.ingest.quota now serialNumber members intake with
      | (.error e, intake) => (.error (.ingest e), (s, intake))
      | (.ok (), intake) => p.pollAll cloud now (polled + 1) rest (s, intake)

/-- `HttpPoller::poll_once`: how many snapshots a round took in. -/
def round (p : Poller) (cloud : Cloud σ) (now : Instant) (s : σ × Intake) :
    Except PollError Nat × (σ × Intake) :=
  match resolve cloud p.pinned s.1 with
  | (.error e, cloudState) => (.error (.cloud e), (cloudState, s.2))
  | (.ok devices, cloudState) => p.pollAll cloud now 0 devices (cloudState, s.2)

/-- Pinned devices are polled as they are, and the cloud is not asked for others. -/
theorem round_of_pinned {p : Poller} (h : p.pinned ≠ []) (cloud : Cloud σ) (now : Instant)
    (s : σ × Intake) : p.round cloud now s = p.pollAll cloud now 0 p.pinned s := by
  rw [round, resolve, if_neg (by simpa using h)]

/-- Without pinned devices, those are polled that the cloud lists as online. -/
theorem round_of_listed {p : Poller} (h : p.pinned = []) {cloud : Cloud σ} {s : σ × Intake}
    {devices : List Cloud.Device} {left : σ} (hlist : cloud.deviceList s.1 = (.ok devices, left))
    (now : Instant) :
    p.round cloud now s
      = p.pollAll cloud now 0 ((devices.filter (·.isOnline)).map (·.serialNumber)) (left, s.2) := by
  rw [round, resolve, if_pos (by simpa using h), hlist]
  rfl

/-- A round ends where it begins if the cloud has no list. -/
theorem round_of_unlisted {p : Poller} (h : p.pinned = []) {cloud : Cloud σ} {s : σ × Intake}
    {error : Cloud.Error} {left : σ} (hlist : cloud.deviceList s.1 = (.error error, left))
    (now : Instant) : p.round cloud now s = (.error (.cloud error), (left, s.2)) := by
  rw [round, resolve, if_pos (by simpa using h), hlist]
  rfl

/-- Rounds at given times, until the queue is closed: the time of that, if it
happened. -/
def rounds (p : Poller) (cloud : Cloud σ) (now : Instant) :
    List Nat → σ × Intake → Option Nat × (σ × Intake)
  | [], s => (none, s)
  | t :: rest, s =>
    match p.round cloud now s with
    | (.error (.ingest _), s) => (some t, s)
    | (_, s) => p.rounds cloud now rest s

/-- `HttpPoller::run`: when rounds ended that come at once and every period until a
stop. -/
def run? (p : Poller) (cloud : Cloud σ) (now : Instant) (period stop : Nat) (s : σ × Intake) :
    Option (Nat × (σ × Intake)) :=
  (Schedule.immediate? period stop).map fun times =>
    let (ended, s) := p.rounds cloud now times s
    (ended.getD stop, s)

end Poller

end PowerTelemetry
