import PowerTelemetry.Frame
import PowerTelemetry.Proofs.Frame.Recovery
import PowerTelemetry.Proofs.Wire.Reading
/-!
# What a frame holds

A frame is `framed body`: the first byte, the length of the body, the body.  The
first byte is the key of an embedded message, so the body is read as a header
one level down.

* `readAt_succ` says that a body which is a header there is the same header
  on its own.
* `read_framed` says how a whole frame is read, whatever its body is.
-/

namespace PowerTelemetry.Frame

open Wire (Values IsVarint DecodeError)

/-- A frame around a body. -/
def framed (body : List UInt8) : List UInt8 :=
  firstByte :: Wire.writeDelimited body

/-- A body that fits into memory makes a well-formed frame. -/
theorem isFramed_framed {body : List UInt8} (h : body.length < 2 ^ 64) : IsFramed (framed body) :=
  ⟨Wire.writeVarint body.length, body, rfl, Wire.isVarint_writeVarint h⟩

/-! ## Headers -/

/-- The header that these bytes spell, with groups at most `depth` deep. -/
def Header.readAt (depth : Nat) (bytes : List UInt8) : Except DecodeError Header :=
  Wire.readMessage (Values.readField "Header" depth headerFields) (Values.empty headerFields) bytes

/-- What is a header is the same header where groups may nest one level
deeper. -/
theorem Header.readAt_succ {depth : Nat} {bytes : List UInt8} {h : Header}
    (hread : readAt depth bytes = .ok h) : readAt (depth + 1) bytes = .ok h := by
  obtain ⟨r, hfields, rfl⟩ := exists_of_map_eq_ok hread
  rw [readAt, Wire.readMessage, Wire.readFields_mono ?_ hfields]
  · rfl
  · intro v number wire bytes r hfield
    exact Values.readField_succ hfield

/-- The depth to which a header in an envelope is read. -/
def innerDepth : Nat := Wire.maxDepth - 1

/-! ## Envelopes -/

theorem readKey_firstByte (rest : List UInt8) :
    Wire.readKey (firstByte :: rest) = .ok (envelopeNumber, .delimited, rest) := by
  have hkey : IsVarint [firstByte] 10 := Wire.isGroups_singleton.mpr (by decide)
  rw [Wire.readKey, show firstByte :: rest = [firstByte] ++ rest from rfl,
    Wire.readNumber_append hkey]
  rfl

/-- The first field of an envelope that is one frame holds its header. -/
theorem readEnvelopeField_framed {v body : List UInt8} (hv : IsVarint v body.length) :
    readEnvelopeField none envelopeNumber .delimited (v ++ body)
      = match Header.readAt innerDepth body with
        | .ok h => .ok (some h, [])
        | .error e => .error (e.inside envelopeName "msg") := by
  have hembedded : Wire.readEmbedded (Values.readField "Header" innerDepth headerFields)
      (Values.empty headerFields) (v ++ body)
        = (Header.readAt innerDepth body).map fun h => (h, []) :=
    Wire.readEmbedded_append (fun _ _ _ _ _ _ hfield => Values.length_readField hfield) hv _
  rw [innerDepth] at hembedded
  rw [readEnvelopeField, if_pos rfl, if_pos rfl, Option.getD_none, hembedded, ← innerDepth]
  cases Header.readAt innerDepth body <;> rfl

/-- The envelope of one frame holds its header. -/
theorem readEnvelope_framed {v body : List UInt8} (hv : IsVarint v body.length) :
    readEnvelope (firstByte :: (v ++ body))
      = match Header.readAt innerDepth body with
        | .ok h => .ok (some h)
        | .error e => .error (e.inside envelopeName "msg") := by
  rw [readEnvelope, Wire.readMessage, List.length_cons, Wire.readFields,
    if_neg (by simp), readKey_firstByte]
  simp only [readEnvelopeField_framed hv]
  cases Header.readAt innerDepth body with
  | error e => rfl
  | ok h =>
    have hend : ∀ fuel, Wire.readFields readEnvelopeField 0 fuel (some h) []
        = .ok (some h, []) := by
      intro fuel
      cases fuel <;> rfl
    simp only [hend]
    rfl

/-- A frame is its header and what the payload of the header holds. -/
theorem read_framed {body : List UInt8} (hlength : body.length < 2 ^ 64) :
    read (framed body)
      = match Header.readAt innerDepth body with
        | .error e => .error (.envelope (e.inside envelopeName "msg"))
        | .ok h =>
          match readBody h with
          | .error e => .error e
          | .ok body => .ok ⟨h, body⟩ := by
  have henvelope := readEnvelope_framed (Wire.isVarint_writeVarint hlength)
  rw [read, readHeader, framed, Wire.writeDelimited, henvelope]
  cases Header.readAt innerDepth body <;> rfl

end PowerTelemetry.Frame
