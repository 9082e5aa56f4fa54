import PowerTelemetry.Wire.Varint
/-!
# Fields of a binary message

A message is a sequence of fields.  Each starts with a key, which holds the
number of the field and its `WireType`: how many bytes follow.

`readKey` reads a key.  `skip` passes over a field that nobody asked for.
Groups nest, and so do messages; both count against one depth.
-/

namespace PowerTelemetry.Wire

/-- How the bytes of a field are laid out. -/
inductive WireType where
  | varint
  | fixed64
  | delimited
  | groupStart
  | groupEnd
  | fixed32
  deriving DecidableEq, Repr

namespace WireType

/-- The number of a layout in a key. -/
def code : WireType → Nat
  | varint => 0
  | fixed64 => 1
  | delimited => 2
  | groupStart => 3
  | groupEnd => 4
  | fixed32 => 5

/-- The layout of a number. -/
def ofCode? : Nat → Option WireType
  | 0 => some varint
  | 1 => some fixed64
  | 2 => some delimited
  | 3 => some groupStart
  | 4 => some groupEnd
  | 5 => some fixed32
  | _ => none

/-- The name of a layout. -/
def name : WireType → String
  | varint => "Varint"
  | fixed64 => "SixtyFourBit"
  | delimited => "LengthDelimited"
  | groupStart => "StartGroup"
  | groupEnd => "EndGroup"
  | fixed32 => "ThirtyTwoBit"

end WireType

/-! ## Faults -/

/-- What is wrong with bytes. -/
inductive Fault where
  | varint
  | keyTooLarge (key : Nat)
  | unknownWireType (code : Nat)
  | fieldZero
  | wrongWireType (actual expected : WireType)
  | underflow
  | overrun
  | notText
  | strayGroupEnd
  | tooDeep
  deriving DecidableEq, Repr

/-- The text of a fault. -/
def Fault.message : Fault → String
  | varint => "invalid varint"
  | keyTooLarge key => "invalid key value: " ++ toString key
  | unknownWireType code => "invalid wire type value: " ++ toString code
  | fieldZero => "invalid tag value: 0"
  | wrongWireType actual expected =>
    "invalid wire type: " ++ actual.name ++ " (expected " ++ expected.name ++ ")"
  | underflow => "buffer underflow"
  | overrun => "delimited length exceeded"
  | notText => "invalid string value: data is not UTF-8 encoded"
  | strayGroupEnd => "unexpected end group tag"
  | tooDeep => "recursion limit reached"

/-- A fault, and the fields that it is inside of, the innermost first.  A field
is named by its message and its own name. -/
structure DecodeError where
  fault : Fault
  path : List (String × String)
  deriving DecidableEq, Repr

/-- The text of an error. -/
def DecodeError.message (e : DecodeError) : String :=
  "failed to decode Protobuf message: "
    ++ String.join (e.path.map fun p => p.1 ++ "." ++ p.2 ++ ": ") ++ e.fault.message

/-- A fault outside of all fields. -/
def Fault.bare (f : Fault) : DecodeError :=
  ⟨f, []⟩

/-- The error, inside one more field. -/
def DecodeError.inside (message field : String) (e : DecodeError) : DecodeError :=
  ⟨e.fault, e.path ++ [(message, field)]⟩

/-! ## Reading -/

/-- The number at the front and the bytes after it. -/
def readNumber (bytes : List UInt8) : Except Fault (Nat × List UInt8) :=
  match readVarint? bytes with
  | some r => .ok r
  | none => .error .varint

/-- The field number and the layout of the key at the front, and the bytes
after it. -/
def readKey (bytes : List UInt8) : Except Fault (Nat × WireType × List UInt8) := do
  let (key, rest) ← readNumber bytes
  if Nat.pow 2 32 ≤ key then .error (.keyTooLarge key)
  else match WireType.ofCode? (key % 8) with
    | none => .error (.unknownWireType (key % 8))
    | some wire => if key / 8 = 0 then .error .fieldZero else .ok (key / 8, wire, rest)

/-- The bytes of a key. -/
def writeKey (number : Nat) (wire : WireType) : List UInt8 :=
  writeVarint (8 * number + wire.code)

/-- A length, then as many bytes, and the bytes after those. -/
def readDelimited (bytes : List UInt8) : Except Fault (List UInt8 × List UInt8) := do
  let (length, rest) ← readNumber bytes
  if rest.length < length then .error .underflow
  else .ok (rest.take length, rest.drop length)

/-- Bytes with their length in front. -/
def writeDelimited (bytes : List UInt8) : List UInt8 :=
  writeVarint bytes.length ++ bytes

/-! ## Skipping -/

/-- The bytes after a given number of them. -/
def dropBytes (count : Nat) (bytes : List UInt8) : Except Fault (List UInt8) :=
  if bytes.length < count then .error .underflow else .ok (bytes.drop count)

/-- The bytes after the end of a group, its fields passed over by `skipField`.
A group has at most `fuel` fields. -/
def skipGroup (skipField : WireType → Nat → List UInt8 → Except Fault (List UInt8))
    (number : Nat) : (fuel : Nat) → List UInt8 → Except Fault (List UInt8)
  | 0, _ => .error .varint
  | fuel + 1, bytes => do
    let (inner, wire, rest) ← readKey bytes
    if wire = .groupEnd then
      if inner = number then .ok rest else .error .strayGroupEnd
    else skipGroup skipField number fuel (← skipField wire inner rest)

/-- The bytes after the content of a field, with groups at most `depth`
deep. -/
def skip : (depth : Nat) → WireType → Nat → List UInt8 → Except Fault (List UInt8)
  | 0, _, _, _ => .error .tooDeep
  | depth + 1, wire, number, bytes =>
    match wire with
    | .varint => (readNumber bytes).map (·.2)
    | .fixed32 => dropBytes 4 bytes
    | .fixed64 => dropBytes 8 bytes
    | .delimited => (readDelimited bytes).map (·.2)
    | .groupStart => skipGroup (skip depth) number bytes.length bytes
    | .groupEnd => .error .strayGroupEnd

/-- How deep messages and groups may nest. -/
def maxDepth : Nat := 100

/-! ## Messages -/

/-- A message read field by field until at most `limit` bytes are left, on top
of what `a` holds already.  It has at most `fuel` fields. -/
def readFields {α : Type}
    (readField : α → Nat → WireType → List UInt8 → Except DecodeError (α × List UInt8))
    (limit : Nat) : (fuel : Nat) → α → List UInt8 → Except DecodeError (α × List UInt8)
  | 0, a, bytes => .ok (a, bytes)
  | fuel + 1, a, bytes =>
    if bytes.length ≤ limit then .ok (a, bytes)
    else
      match readKey bytes with
      | .error fault => .error fault.bare
      | .ok (number, wire, rest) =>
        match readField a number wire rest with
        | .error e => .error e
        | .ok (a, rest) => readFields readField limit fuel a rest

/-- A message that takes all bytes. -/
def readMessage {α : Type}
    (readField : α → Nat → WireType → List UInt8 → Except DecodeError (α × List UInt8))
    (a : α) (bytes : List UInt8) : Except DecodeError α :=
  (readFields readField 0 bytes.length a bytes).map (·.1)

/-- A message inside a field, and the bytes after it.  Its fields see all bytes
of the outer message, so one that runs past the end of the inner message is
noticed only after it. -/
def readEmbedded {α : Type}
    (readField : α → Nat → WireType → List UInt8 → Except DecodeError (α × List UInt8))
    (a : α) (bytes : List UInt8) : Except DecodeError (α × List UInt8) :=
  match readNumber bytes with
  | .error fault => .error fault.bare
  | .ok (length, rest) =>
    if rest.length < length then .error Fault.underflow.bare
    else
      match readFields readField (rest.length - length) rest.length a rest with
      | .error e => .error e
      | .ok (a, after) =>
        if after.length = rest.length - length then .ok (a, after)
        else .error Fault.overrun.bare

end PowerTelemetry.Wire
