import PowerTelemetry.Text.Utf8
/-!
# Bytes that may be a text

Bytes are read as UTF-8 as far as they are.  Where they are not, the longest run
of bytes that could have started a character counts as one replacement
character, and so does a byte that starts none.
-/

namespace PowerTelemetry.Text

/-- What may follow the first byte of a character: how many bytes, and between
which bounds the first of them lies. -/
structure Continuation where
  count : Nat
  least : UInt8
  greatest : UInt8

/-- What may follow a byte; nothing if it starts no character. -/
def continuation? (b : UInt8) : Option Continuation :=
  if b < 0x80 then some ⟨0, 0x80, 0xBF⟩
  else if b < 0xC2 then none
  else if b < 0xE0 then some ⟨1, 0x80, 0xBF⟩
  else if b = 0xE0 then some ⟨2, 0xA0, 0xBF⟩
  else if b = 0xED then some ⟨2, 0x80, 0x9F⟩
  else if b < 0xF0 then some ⟨2, 0x80, 0xBF⟩
  else if b = 0xF0 then some ⟨3, 0x90, 0xBF⟩
  else if b < 0xF4 then some ⟨3, 0x80, 0xBF⟩
  else if b = 0xF4 then some ⟨3, 0x80, 0x8F⟩
  else none

/-- The bytes in front that follow a first byte. -/
def Continuation.taken (k : Continuation) (bytes : List UInt8) : List UInt8 :=
  match bytes.take k.count with
  | [] => []
  | b :: rest =>
    if k.least ≤ b ∧ b ≤ k.greatest then b :: rest.takeWhile fun c => 0x80 ≤ c && c < 0xC0 else []

/-- The character that stands for bytes that are none. -/
def replacement : String := "\uFFFD"

/-- The text of bytes, with replacements. -/
def ofUtf8Lossy (bytes : List UInt8) : String :=
  match bytes with
  | [] => ""
  | b :: rest =>
    match continuation? b with
    | none => replacement ++ ofUtf8Lossy rest
    | some k =>
      let taken := k.taken rest
      (if taken.length = k.count then (ofUtf8? (b :: taken)).getD replacement else replacement)
        ++ ofUtf8Lossy (rest.drop taken.length)
termination_by bytes.length
decreasing_by
  · simp
  · simp only [List.length_drop, List.length_cons]
    omega

end PowerTelemetry.Text
