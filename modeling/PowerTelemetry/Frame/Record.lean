import PowerTelemetry.Sample
import PowerTelemetry.Wire.Message
/-!
# Records

What the payloads of frames hold: the heartbeat of an inverter, or a pack of
items of its power stream.  Each heartbeat and each item is a `Record` and
becomes a sample of its own.
-/

namespace PowerTelemetry.Frame

open Wire (Field Values DecodeError)

/-- The fields of a heartbeat. -/
def heartbeatFields : List Field :=
  [⟨1, "inv_err_code", .uint32⟩, ⟨3, "inv_warn_code", .uint32⟩,
   ⟨16, "pv1_input_volt", .int32⟩, ⟨17, "pv1_op_volt", .int32⟩, ⟨18, "pv1_input_cur", .int32⟩,
   ⟨19, "pv1_input_watts", .int32⟩, ⟨20, "pv1_temp", .int32⟩,
   ⟨21, "pv2_input_volt", .int32⟩, ⟨22, "pv2_op_volt", .int32⟩, ⟨23, "pv2_input_cur", .int32⟩,
   ⟨24, "pv2_input_watts", .int32⟩, ⟨25, "pv2_temp", .int32⟩,
   ⟨26, "bat_input_volt", .int32⟩, ⟨27, "bat_op_volt", .int32⟩, ⟨28, "bat_input_cur", .int32⟩,
   ⟨29, "bat_input_watts", .int32⟩, ⟨30, "bat_temp", .int32⟩, ⟨31, "bat_soc", .uint32⟩,
   ⟨35, "inv_input_volt", .int32⟩, ⟨36, "inv_op_volt", .int32⟩, ⟨37, "inv_output_cur", .int32⟩,
   ⟨38, "inv_output_watts", .int32⟩, ⟨39, "inv_temp", .int32⟩, ⟨40, "inv_freq", .int32⟩,
   ⟨46, "install_country", .uint32⟩, ⟨47, "install_town", .uint32⟩,
   ⟨48, "permanent_watts", .uint32⟩, ⟨49, "dynamic_watts", .uint32⟩,
   ⟨50, "supply_priority", .uint32⟩, ⟨51, "lower_limit", .uint32⟩, ⟨52, "upper_limit", .uint32⟩,
   ⟨53, "inv_on_off", .uint32⟩, ⟨56, "inv_brightness", .uint32⟩,
   ⟨57, "heartbeat_frequency", .uint32⟩, ⟨58, "rated_power", .uint32⟩,
   ⟨61, "timestamp", .uint32⟩]

/-- `InverterHeartbeat`: the state that an inverter reports about itself. -/
abbrev Heartbeat := Values heartbeatFields

/-- The fields of an item of the power stream. -/
def powerFields : List Field :=
  [⟨1, "timestamp", .uint32⟩, ⟨2, "timezone", .sint32⟩, ⟨3, "inv_to_grid_power", .uint32⟩,
   ⟨4, "inv_to_plug_power", .uint32⟩, ⟨5, "battery_power", .int32⟩,
   ⟨6, "pv1_output_power", .uint32⟩, ⟨7, "pv2_output_power", .uint32⟩]

/-- Where power went at one instant. -/
abbrev PowerItem := Values powerFields

/-! ## Packs -/

/-- Items of the power stream, sent together. -/
structure PowerPack where
  sequence : Option UInt32
  items : List PowerItem
  deriving DecidableEq, Inhabited

/-- The fields of a pack that are not items. -/
def packFields : List Field :=
  [⟨1, "sys_seq", .uint32⟩]

/-- `PowerAckPack`: the fields of the acknowledgement of a pack. -/
def acknowledgementFields : List Field :=
  [⟨1, "sys_seq", .uint32⟩]

/-- The number of the items' field in a pack. -/
def itemsNumber : Nat := 2

/-- The name of packs in errors. -/
def packName : String := "PowerPack"

namespace PowerPack

/-- The bytes of a pack. -/
def write (p : PowerPack) : List UInt8 :=
  Values.write packFields (p.sequence, ()) ++ p.items.flatMap fun item =>
    Wire.writeKey itemsNumber .delimited ++ Wire.writeDelimited (Values.write powerFields item)

/-- One field of a pack taken in, and the bytes after it. -/
def readField (p : PowerPack) (number : Nat) (wire : Wire.WireType) (bytes : List UInt8) :
    Except DecodeError (PowerPack × List UInt8) :=
  if number = itemsNumber then
    let read :=
      if wire = .delimited then
        Wire.readEmbedded (Values.readField "PowerItem" (Wire.maxDepth - 1) powerFields)
          (Values.empty powerFields) bytes
      else .error (Wire.Fault.wrongWireType wire .delimited).bare
    match read with
    | .ok (item, rest) => .ok (⟨p.sequence, p.items ++ [item]⟩, rest)
    | .error e => .error (e.inside packName "sys_power_stream")
  else
    match Values.readField packName Wire.maxDepth packFields (p.sequence, ()) number wire bytes with
    | .ok (v, rest) => .ok (⟨v.1, p.items⟩, rest)
    | .error e => .error e

/-- The `PowerPack` that these bytes spell. -/
def read (bytes : List UInt8) : Except DecodeError PowerPack :=
  Wire.readMessage readField ⟨none, []⟩ bytes

end PowerPack

/-- The `InverterHeartbeat` that these bytes spell. -/
def Heartbeat.read (bytes : List UInt8) : Except DecodeError Heartbeat :=
  Wire.readMessage (Values.readField "InverterHeartbeat" Wire.maxDepth heartbeatFields)
    (Values.empty heartbeatFields) bytes

/-- The bytes of a heartbeat. -/
def Heartbeat.write (h : Heartbeat) : List UInt8 :=
  Values.write heartbeatFields h

/-! ## Samples -/

/-- A heartbeat or an item. -/
inductive Record where
  | heartbeat (h : Heartbeat)
  | power (p : PowerItem)
  deriving DecidableEq

namespace Record

/-- `Record::kind`: the name of the stream that a record belongs to. -/
def kind : Record → String
  | heartbeat _ => "inverterheartbeat"
  | power _ => "poweritem"

/-- The names and values of the fields that are there. -/
def present : Record → List (String × Wire.Scalar)
  | heartbeat h => Values.present heartbeatFields h
  | power p => Values.present powerFields p

/-- The attribute of a field: the timestamp counts seconds, all others are
numbers as they are. -/
def attribute? (name : String) : Wire.Scalar → Option (String × Value)
  | .number i =>
    if name = Column.timestampName then
      (Instant.ofUnixSeconds? i).map fun t => (name, .timestamp t)
    else some (name, .integer (Int64.ofInt i))
  | .bytes _ => none
  | .text _ => none

/-- `Record::attributes`: the attributes of a record. -/
def attributes (r : Record) : Dict Value :=
  Dict.ofList (r.present.filterMap fun f => attribute? f.1 f.2)

/-- `Record::into_sample`: the sample of a record from a device. -/
def toSample (r : Record) (now : Instant) (device : String) : Sample :=
  Sample.make now device r.attributes

end Record

end PowerTelemetry.Frame
