import PowerTelemetry.Text.Utf8
import PowerTelemetry.Wire.Field
/-!
# Messages of scalar fields

A message type is a list of `Field`s, each with a number, a name and the `Kind`
of its values.  `Values` holds, for each field, a value or nothing.

* `Values.write` gives the bytes of a message: the fields that are there, in
  their order.
* `Values.readField` takes in one field.  Of two with one number the later
  stands; one with an unknown number is passed over.
* `Values.present` is the view of a message as its names and values.
-/

namespace PowerTelemetry.Wire

/-! ## Kinds -/

/-- What a field holds. -/
inductive Kind where
  /-- A signed number, its sign carried through all 64 bits. -/
  | int32
  /-- A number that is not negative. -/
  | uint32
  /-- A signed number, folded so that small ones stay short: `0, -1, 1, -2, …`
  become `0, 1, 2, 3, …`. -/
  | sint32
  | bytes
  | text
  deriving DecidableEq, Repr

/-- The values of a kind. -/
abbrev Kind.Carrier : Kind → Type
  | int32 => Int32
  | uint32 => UInt32
  | sint32 => Int32
  | bytes => List UInt8
  | text => String

instance (k : Kind) : DecidableEq k.Carrier :=
  match k with
  | .int32 => inferInstanceAs (DecidableEq Int32)
  | .uint32 => inferInstanceAs (DecidableEq UInt32)
  | .sint32 => inferInstanceAs (DecidableEq Int32)
  | .bytes => inferInstanceAs (DecidableEq (List UInt8))
  | .text => inferInstanceAs (DecidableEq String)

/-- A value of any kind. -/
inductive Scalar where
  | number (i : Int)
  | bytes (b : List UInt8)
  | text (s : String)
  deriving DecidableEq, Repr

/-- A value, without its kind. -/
def Kind.scalar : (k : Kind) → k.Carrier → Scalar
  | int32, i => .number i.toInt
  | uint32, n => .number n.toNat
  | sint32, i => .number i.toInt
  | bytes, b => .bytes b
  | text, s => .text s

/-- The value of a kind, if it has one like this. -/
def Kind.ofScalar? : (k : Kind) → Scalar → Option k.Carrier
  | int32, .number i => some (Int32.ofInt i)
  | uint32, .number i => some (UInt32.ofNat i.toNat)
  | sint32, .number i => some (Int32.ofInt i)
  | bytes, .bytes b => some b
  | text, .text s => some s
  | _, _ => none

/-- How values of a kind are laid out. -/
def Kind.wire : Kind → WireType
  | int32 => .varint
  | uint32 => .varint
  | sint32 => .varint
  | bytes => .delimited
  | text => .delimited

/-- The number that a signed one is folded to. -/
def fold (i : Int) : Nat :=
  if 0 ≤ i then (2 * i).toNat else (-2 * i - 1).toNat

/-- The signed number that is folded to a number. -/
def unfold (n : Nat) : Int :=
  if n % 2 = 0 then (n / 2 : Nat) else -((n / 2 : Nat) : Int) - 1

/-- The bytes of a value. -/
def Kind.write : (k : Kind) → k.Carrier → List UInt8
  | int32, i => writeVarint (i.toInt % Nat.pow 2 64).toNat
  | uint32, n => writeVarint n.toNat
  | sint32, i => writeVarint (fold i.toInt)
  | bytes, b => writeDelimited b
  | text, s => writeDelimited (Text.utf8 s)

/-- The value at the front and the bytes after it.  Of a number only the low 32
bits count. -/
def Kind.readContent : (k : Kind) → List UInt8 → Except Fault (k.Carrier × List UInt8)
  | .int32, input => (readNumber input).map fun r => (Int32.ofInt r.1, r.2)
  | .uint32, input => (readNumber input).map fun r => (UInt32.ofNat r.1, r.2)
  | .sint32, input =>
    (readNumber input).map fun r => (Int32.ofInt (unfold (r.1 % Nat.pow 2 32)), r.2)
  | .bytes, input => readDelimited input
  | .text, input =>
    match readDelimited input with
    | .error fault => .error fault
    | .ok (content, rest) =>
      match Text.ofUtf8? content with
      | some s => .ok (s, rest)
      | none => .error .notText

/-- The value of a field with a layout, and the bytes after it. -/
def Kind.read (k : Kind) (wire : WireType) (bytes : List UInt8) :
    Except Fault (k.Carrier × List UInt8) :=
  if wire = k.wire then k.readContent bytes else .error (.wrongWireType wire k.wire)

/-! ## Messages -/

/-- A field of a message type. -/
structure Field where
  number : Nat
  name : String
  kind : Kind
  deriving DecidableEq, Repr

/-- A value or nothing for each field. -/
def Values : List Field → Type
  | [] => Unit
  | f :: fs => Option f.kind.Carrier × Values fs

namespace Values

/-- No field has a value. -/
def empty : (fs : List Field) → Values fs
  | [] => ()
  | _ :: fs => (none, empty fs)

instance {fs : List Field} : Inhabited (Values fs) := ⟨empty fs⟩

/-- Equality, field by field. -/
def decEq : (fs : List Field) → DecidableEq (Values fs)
  | [] => fun _ _ => isTrue rfl
  | _ :: fs =>
    have := decEq fs
    inferInstanceAs (DecidableEq (Option _ × Values fs))

instance {fs : List Field} : DecidableEq (Values fs) := decEq fs

/-- The bytes of the fields that are there. -/
def write : (fs : List Field) → Values fs → List UInt8
  | [], _ => []
  | _ :: fs, (none, rest) => write fs rest
  | f :: fs, (some x, rest) => writeKey f.number f.kind.wire ++ f.kind.write x ++ write fs rest

/-- One field taken in, and the bytes after it.  Fields without a place are
passed over, with groups at most `depth` deep. -/
def readField (message : String) (depth : Nat) : (fs : List Field) → Values fs → Nat → WireType →
    List UInt8 → Except DecodeError (Values fs × List UInt8)
  | [], v, number, wire, bytes =>
    match skip depth wire number bytes with
    | .ok rest => .ok (v, rest)
    | .error fault => .error fault.bare
  | f :: fs, v, number, wire, bytes =>
    if f.number = number then
      match f.kind.read wire bytes with
      | .ok (x, rest) => .ok ((some x, v.2), rest)
      | .error fault => .error (fault.bare.inside message f.name)
    else
      match readField message depth fs v.2 number wire bytes with
      | .ok (w, rest) => .ok ((v.1, w), rest)
      | .error e => .error e

/-- The names and values of the fields that are there. -/
def present : (fs : List Field) → Values fs → List (String × Scalar)
  | [], _ => []
  | _ :: fs, (none, rest) => present fs rest
  | f :: fs, (some x, rest) => (f.name, f.kind.scalar x) :: present fs rest

/-- The message whose fields have the values that a function gives to their
names. -/
def ofNames (value : String → Option Scalar) : (fs : List Field) → Values fs
  | [] => ()
  | f :: fs => ((value f.name).bind f.kind.ofScalar?, ofNames value fs)

/-- The value of the field of a name. -/
def get? {fs : List Field} (v : Values fs) (name : String) : Option Scalar :=
  (present fs v).lookup name

/-- The number in the field of a name, zero if there is none. -/
def number {fs : List Field} (v : Values fs) (name : String) : Int :=
  match v.get? name with
  | some (.number i) => i
  | _ => 0

/-- The text in the field of a name. -/
def text? {fs : List Field} (v : Values fs) (name : String) : Option String :=
  match v.get? name with
  | some (.text s) => some s
  | _ => none

/-- The bytes in the field of a name, none if there is no such field. -/
def bytes {fs : List Field} (v : Values fs) (name : String) : List UInt8 :=
  match v.get? name with
  | some (.bytes b) => b
  | _ => []

end Values

end PowerTelemetry.Wire
