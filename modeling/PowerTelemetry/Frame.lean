import PowerTelemetry.Frame.Header
import PowerTelemetry.Frame.Record
/-!
# Frames

A `Frame` is a header and what its payload holds.  The command of the header
says how to read the payload; the payload of an unknown command is left alone.
-/

namespace PowerTelemetry

open PowerTelemetry.Frame (Header Heartbeat PowerItem PowerPack Record)

/-- What the payload of a frame holds. -/
inductive Frame.Body where
  | heartbeat (h : Heartbeat)
  | powerStream (items : List PowerItem)
  | unknown
  deriving DecidableEq

/-- A header and its payload. -/
structure Frame where
  header : Header
  body : Frame.Body
  deriving DecidableEq

/-- `DecodeError`: why bytes are no frame. -/
inductive FrameError where
  | envelope (e : Wire.DecodeError)
  | missingHeader
  | payload (command : Int) (e : Wire.DecodeError)
  deriving DecidableEq, Repr

/-- The text of an error. -/
def FrameError.message : FrameError → String
  | envelope e => "envelope: " ++ e.message
  | missingHeader => "envelope carries no header"
  | payload command e => "cmd " ++ toString command ++ " payload: " ++ e.message

namespace Frame

/-- `CMD_HEARTBEAT`: the command with a heartbeat. -/
def heartbeatCommand : Int := 1

/-- `CMD_POWER_STREAM`: the command with a pack of the power stream. -/
def powerCommand : Int := 32

/-- `decode_envelope`: the header of the frame that these bytes spell. -/
def readHeader (bytes : List UInt8) : Except FrameError Header :=
  match readEnvelope bytes with
  | .error e => .error (.envelope e)
  | .ok none => .error .missingHeader
  | .ok (some h) => .ok h

/-- The payload of a header, read as its command says; the second half of
`decode_frame`. -/
def readBody (h : Header) : Except FrameError Body :=
  if h.command = heartbeatCommand then
    match Heartbeat.read h.payload with
    | .ok heartbeat => .ok (.heartbeat heartbeat)
    | .error e => .error (.payload h.command e)
  else if h.command = powerCommand then
    match PowerPack.read h.payload with
    | .ok pack => .ok (.powerStream pack.items)
    | .error e => .error (.payload h.command e)
  else .ok .unknown

/-- `decode_frame`: the frame that these bytes spell. -/
def read (bytes : List UInt8) : Except FrameError Frame :=
  match readHeader bytes with
  | .error e => .error e
  | .ok h =>
    match readBody h with
    | .error e => .error e
    | .ok body => .ok ⟨h, body⟩

/-- `Frame::handled`: the payload is one that can be read. -/
def isHandled (f : Frame) : Bool :=
  match f.body with
  | .unknown => false
  | _ => true

/-- `Frame::device_sn`: the serial number of the device, or `fallback` if the header
has none. -/
def deviceOr (f : Frame) (fallback : String) : String :=
  f.header.deviceOr fallback

/-- `Frame::into_records`: the records in the payload. -/
def records (f : Frame) : List Record :=
  match f.body with
  | .heartbeat h => [.heartbeat h]
  | .powerStream items => items.map .power
  | .unknown => []

end Frame

end PowerTelemetry
