import PowerTelemetry.Search
import PowerTelemetry.Wire.Varint
/-!
# Payloads cut into frames

A device may send several frames in one payload.  `split` cuts it: a frame
starts with `0x0a` and its length, and where that start is missing, or the
length runs past the payload, the frame ends right after the next place where
the serial number of the device occurs, or with the payload.
-/

namespace PowerTelemetry.Frame

/-- `ENVELOPE_KEY`: the first byte of a frame. -/
def firstByte : UInt8 := 0x0a

/-- `framed_len`: the length of the frame at the front, if its start says so and the
payload is long enough. -/
def framedLength? (payload : List UInt8) : Option Nat :=
  match payload with
  | [] => none
  | b :: tail =>
    if b = firstByte then
      match Wire.readVarint? tail with
      | none => none
      | some (length, rest) =>
        let total := 1 + (tail.length - rest.length) + length
        if total ≤ payload.length then some total else none
    else none

/-- `sn_boundary`: the length up to the end of the first place where a serial number
occurs. -/
def lengthUpTo (serialNumber payload : List UInt8) : Nat :=
  if serialNumber.isEmpty then payload.length
  else match Search.indexOf? serialNumber payload with
    | some i => i + serialNumber.length
    | none => payload.length

/-- The length of the frame at the front, as `split_frames` has it. -/
def frontLength (serialNumber payload : List UInt8) : Nat :=
  (framedLength? payload).getD (lengthUpTo serialNumber payload)

/-- The frame at the front of a payload has a byte at least. -/
theorem frontLength_pos (serialNumber payload : List UInt8) (h : payload ≠ []) :
    0 < frontLength serialNumber payload := by
  have hpos : 0 < payload.length := List.length_pos_iff.mpr h
  rw [frontLength]
  cases hf : framedLength? payload with
  | some total =>
    rw [Option.getD_some]
    unfold framedLength? at hf
    split at hf
    · simp at hf
    · split at hf
      · split at hf
        · simp at hf
        · simp only [Option.ite_none_right_eq_some, Option.some.injEq] at hf
          omega
      · simp at hf
  | none =>
    rw [Option.getD_none, lengthUpTo]
    split
    · exact hpos
    · rename_i hempty
      split
      · have : 0 < serialNumber.length :=
          List.length_pos_iff.mpr (by simpa [List.isEmpty_iff] using hempty)
        omega
      · exact hpos

/-- `split_frames`: the frames of a payload. -/
def split (serialNumber payload : List UInt8) : List (List UInt8) :=
  if _h : payload = [] then []
  else
    payload.take (frontLength serialNumber payload)
      :: split serialNumber (payload.drop (frontLength serialNumber payload))
termination_by payload.length
decreasing_by
  have := frontLength_pos serialNumber payload _h
  have : 0 < payload.length := List.length_pos_iff.mpr _h
  rw [List.length_drop]
  omega

end PowerTelemetry.Frame
