import PowerTelemetry.Counters
import PowerTelemetry.Destination
import PowerTelemetry.Frame
import PowerTelemetry.Frame.Payload
import PowerTelemetry.Json.Reader
import PowerTelemetry.Topic
import PowerTelemetry.Writer
/-!
# Ingest

Messages of devices become requests to store samples.

* `Ingest.pushed` and `Ingest.snapshot` say which requests a message makes.  A
  payload that is a JSON object makes one request.  Any other payload is cut
  into frames; each record in them makes one, and a frame that cannot be read
  makes none.
* An `Outbox` is the sending side of the queue to the writer.  Requests go out
  one after another until the receiver is gone.
* `message` and `quota` count a message and send its requests.
-/

namespace PowerTelemetry

/-- Why a message was not delivered: the errors of `AppError` that occur there. -/
inductive IngestError where
  | noSerialNumber (topic : String)
  | queueClosed (destination : String)
  deriving DecidableEq, Repr

/-- The text of an error. -/
def IngestError.message : IngestError → String
  | noSerialNumber topic => "MQTT error: no serial number in topic " ++ topic
  | queueClosed destination => "queue closed: dropping sample for " ++ destination

/-! ## The queue -/

/-- The sending side of the queue. -/
structure Outbox where
  /-- The requests that went out, the first one first. -/
  sent : List StoreRequest
  /-- After how many more requests the receiver is gone; never, if there is no
  number. -/
  remaining : Option Nat
  deriving Inhabited

namespace Outbox

/-- A queue whose receiver stays. -/
def opened : Outbox :=
  ⟨[], none⟩

/-- The queue without its receiver. -/
def closed (o : Outbox) : Outbox :=
  ⟨o.sent, some 0⟩

/-- `Ingestor::send`: one request sent. -/
def send (o : Outbox) (request : StoreRequest) : Except IngestError Unit × Outbox :=
  match o.remaining with
  | some 0 => (.error (.queueClosed request.destination), o)
  | some (n + 1) => (.ok (), ⟨o.sent ++ [request], some n⟩)
  | none => (.ok (), ⟨o.sent ++ [request], none⟩)

/-- Requests sent one after another, up to the first that cannot go out. -/
def sendAll (o : Outbox) : List StoreRequest → Except IngestError Unit × Outbox
  | [] => (.ok (), o)
  | request :: rest =>
    match o.send request with
    | (.ok (), o) => o.sendAll rest
    | (.error e, o) => (.error e, o)

end Outbox

/-! ## Requests -/

/-- `Ingestor`: how messages are taken in. -/
structure Ingest where
  naming : Naming
  /-- The topics that devices publish on. -/
  template : String
  deriving DecidableEq, Repr, Inhabited

namespace Ingest

/-- The members of a JSON message that are attributes.  `Ingestor::handle_json` takes
those of its `params`, if that is an object, and else all but `params`. -/
def attributesOf (members : List (String × Json)) : List (String × Json) :=
  match Json.member? "params" members with
  | some (.object inner) => inner
  | _ => members.filter fun m => m.1 ≠ "params"

/-- The request that a JSON message makes, sent by `Ingestor::handle_json`. -/
def jsonRequest (i : Ingest) (now : Instant) (serialNumber : String)
    (members : List (String × Json)) : StoreRequest :=
  ⟨i.naming.push serialNumber, Sample.ofMembers now serialNumber (attributesOf members)⟩

/-- The request that a record of a device makes. -/
def recordRequest (i : Ingest) (now : Instant) (device : String) (r : Frame.Record) :
    StoreRequest :=
  ⟨i.naming.record device r.kind, r.toSample now device⟩

/-- The requests that one frame makes, a round of the loop in
`Ingestor::handle_binary`. -/
def frameRequests (i : Ingest) (now : Instant) (serialNumber : String) (bytes : List UInt8) :
    List StoreRequest :=
  match Frame.read bytes with
  | .error _ => []
  | .ok frame => frame.records.map (i.recordRequest now (frame.deviceOr serialNumber))

/-- The members of the JSON object that a payload spells, if it spells one. -/
def jsonObject? (payload : List UInt8) : Option (List (String × Json)) :=
  match (Text.ofUtf8? payload).bind Json.parse? with
  | some (.object members) => some members
  | _ => none

/-- The requests that a payload makes, as `Ingestor::handle_json` or
`Ingestor::handle_binary` sends them. -/
def pushed (i : Ingest) (now : Instant) (serialNumber : String) (payload : List UInt8) :
    List StoreRequest :=
  match jsonObject? payload with
  | some members => [i.jsonRequest now serialNumber members]
  | none =>
    (Frame.split (Text.utf8 serialNumber) payload).flatMap (i.frameRequests now serialNumber)

/-- The request that a snapshot makes which a device was polled for, sent by
`Ingestor::handle_quota`. -/
def snapshot (i : Ingest) (now : Instant) (serialNumber : String)
    (members : List (String × Json)) : StoreRequest :=
  ⟨i.naming.quota serialNumber, Sample.ofMembers now serialNumber members⟩

end Ingest

/-! ## Messages -/

/-- What taking in messages changes. -/
structure Intake where
  counters : Counters
  outbox : Outbox
  deriving Inhabited

namespace Ingest

/-- `Ingestor::handle_message`: how many samples a message sent that was taken in. -/
def message (i : Ingest) (now : Instant) (topic : String) (payload : List UInt8) (s : Intake) :
    Except IngestError Nat × Intake :=
  match Topic.serialNumber? i.template topic with
  | none => (.error (.noSerialNumber topic), s)
  | some serialNumber =>
    let requests := i.pushed now serialNumber payload
    let (result, outbox) := s.outbox.sendAll requests
    (result.map fun _ => requests.length, ⟨s.counters.countPushed serialNumber, outbox⟩)

/-- `Ingestor::handle_quota`: a snapshot taken in. -/
def quota (i : Ingest) (now : Instant) (serialNumber : String) (members : List (String × Json))
    (s : Intake) : Except IngestError Unit × Intake :=
  let (result, outbox) := s.outbox.send (i.snapshot now serialNumber members)
  (result, ⟨s.counters.countPolled serialNumber, outbox⟩)

end Ingest

end PowerTelemetry
