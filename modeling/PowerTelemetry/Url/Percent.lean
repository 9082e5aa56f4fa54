import PowerTelemetry.Text.Hex
import PowerTelemetry.Text.Utf8
/-!
# Percent escapes

In a URL a byte may be written as a percent sign and two hexadecimal digits.
A percent sign that no two digits follow stands for itself.
-/

namespace PowerTelemetry.Percent

/-- The bytes of a text with its escapes resolved. -/
def decode : List Char → List UInt8
  | '%' :: a :: b :: rest =>
    match Text.hexDigit? a, Text.hexDigit? b with
    | some high, some low => UInt8.ofNat (16 * high + low) :: decode rest
    | _, _ => Text.utf8 "%" ++ decode (a :: b :: rest)
  | c :: rest => Text.utf8 (String.singleton c) ++ decode rest
  | [] => []

/-- The text with its escapes resolved, if it is one. -/
def decodeText? (s : List Char) : Option String :=
  Text.ofUtf8? (decode s)

/-- The escape of a byte. -/
def escape (b : UInt8) : List Char :=
  '%' :: (Text.hexByte b).map Char.toUpper

/-- The text with some characters escaped; those beyond ASCII always are. -/
def encode (escaped : Char → Bool) (s : List Char) : List Char :=
  s.flatMap fun c =>
    if escaped c || 0x80 ≤ c.toNat then (Text.utf8 (String.singleton c)).flatMap escape else [c]

/-- A control character. -/
def isControl (c : Char) : Bool :=
  c.toNat < 0x20 || c.toNat == 0x7F

/-- A character that is escaped in a path. -/
def isPathEscape (c : Char) : Bool :=
  isControl c || [' ', '"', '<', '>', '\x60', '#', '?', '\x7b', '\x7d'].contains c

end PowerTelemetry.Percent
