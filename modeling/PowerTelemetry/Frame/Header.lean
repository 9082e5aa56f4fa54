import PowerTelemetry.Wire.Message
/-!
# Frame headers

A frame is one message, the envelope, around another, the header.  The header
says which device the frame is from and which command it answers, and carries
the payload as bytes.
-/

namespace PowerTelemetry.Frame

open Wire (Field Values DecodeError)

/-- The fields of a header. -/
def headerFields : List Field :=
  [⟨1, "pdata", .bytes⟩, ⟨2, "src", .int32⟩, ⟨3, "dest", .int32⟩, ⟨4, "d_src", .int32⟩,
   ⟨5, "d_dest", .int32⟩, ⟨6, "enc_type", .int32⟩, ⟨7, "check_type", .int32⟩,
   ⟨8, "cmd_func", .int32⟩, ⟨9, "cmd_id", .int32⟩, ⟨10, "data_len", .int32⟩,
   ⟨11, "need_ack", .int32⟩, ⟨12, "is_ack", .int32⟩, ⟨14, "seq", .int32⟩,
   ⟨15, "product_id", .int32⟩, ⟨16, "version", .int32⟩, ⟨17, "payload_ver", .int32⟩,
   ⟨18, "time_snap", .int32⟩, ⟨19, "is_rw_cmd", .int32⟩, ⟨20, "is_queue", .int32⟩,
   ⟨21, "ack_type", .int32⟩, ⟨22, "code", .text⟩, ⟨23, "from", .text⟩,
   ⟨24, "module_sn", .text⟩, ⟨25, "device_sn", .text⟩]

/-- A header. -/
abbrev Header := Values headerFields

namespace Header

/-- The bytes of a header. -/
def write (h : Header) : List UInt8 :=
  Values.write headerFields h

/-- The command that the frame answers. -/
def command (h : Header) : Int :=
  h.number "cmd_id"

/-- The payload. -/
def payload (h : Header) : List UInt8 :=
  h.bytes "pdata"

/-- The serial number of the device, or `fallback` if the header has none. -/
def deviceOr (h : Header) (fallback : String) : String :=
  match h.text? "device_sn" with
  | some serialNumber => if serialNumber.isEmpty then fallback else serialNumber
  | none => fallback

/-- `Header::summary`: one line about the header. -/
def summary (h : Header) : String :=
  let numbers := ["src", "dest", "d_src", "d_dest", "cmd_id", "cmd_func", "seq", "need_ack",
    "data_len", "version", "payload_ver"]
  "sn=" ++ (h.text? "device_sn").getD ""
    ++ String.join (numbers.map fun name => " " ++ name ++ "=" ++ toString (h.number name))

end Header

/-! ## Envelopes -/

/-- The number of the header's field in an envelope. -/
def envelopeNumber : Nat := 1

/-- The name of envelopes in errors. -/
def envelopeName : String := "SendHeaderMsg"

/-- The bytes of an envelope. -/
def writeEnvelope : Option Header → List UInt8
  | none => []
  | some h => Wire.writeKey envelopeNumber .delimited ++ Wire.writeDelimited h.write

/-- One field of an envelope taken in, and the bytes after it.  A second header
adds to the first. -/
def readEnvelopeField (h : Option Header) (number : Nat) (wire : Wire.WireType)
    (bytes : List UInt8) : Except DecodeError (Option Header × List UInt8) :=
  if number = envelopeNumber then
    let read :=
      if wire = .delimited then
        Wire.readEmbedded (Values.readField "Header" (Wire.maxDepth - 1) headerFields)
          (h.getD (Values.empty headerFields)) bytes
      else .error (Wire.Fault.wrongWireType wire .delimited).bare
    match read with
    | .ok (h, rest) => .ok (some h, rest)
    | .error e => .error (e.inside envelopeName "msg")
  else
    match Wire.skip Wire.maxDepth wire number bytes with
    | .ok rest => .ok (h, rest)
    | .error fault => .error fault.bare

/-- The header in an envelope, a `SendHeaderMsg`, if it has one. -/
def readEnvelope (bytes : List UInt8) : Except DecodeError (Option Header) :=
  Wire.readMessage readEnvelopeField none bytes

end PowerTelemetry.Frame
