import PowerTelemetry.Proofs.Frame.Recovery
import PowerTelemetry.Proofs.Search.Pieces
/-!
# A payload is the frames that it is cut into

Splitting takes one frame after another off the front of a payload.  It would
never end if a frame were empty, and it could not go on if a frame were longer
than what is left.

* `frontLength_pos` and `frontLength_le` say that a cut is neither, whatever
  bytes are left and whatever the serial number is.
* `Cuts` is a payload cut to the end.  `cuts_split` says that splitting is such
  a way to cut it, and `Cuts.eq_split` that it is the only one.
* `split_lossless` is the result: no frame is empty, and together they are the
  payload.
-/

namespace PowerTelemetry.Frame

/-- A payload cut into frames until nothing is left.  Each frame has a byte at
least, and ends where `frontLength` says, which is not past the end. -/
inductive Cuts (serialNumber : List UInt8) : List UInt8 → List (List UInt8) → Prop where
  | done : Cuts serialNumber [] []
  | cut {frame rest frames} (nonempty : frame ≠ [])
      (length : frontLength serialNumber (frame ++ rest) = frame.length)
      (later : Cuts serialNumber rest frames) : Cuts serialNumber (frame ++ rest) (frame :: frames)

/-! ## The bounds of a cut -/

/-- A frame that tells its length is inside of the payload. -/
theorem framedLength?_le {payload : List UInt8} {total : Nat}
    (h : framedLength? payload = some total) : total ≤ payload.length := by
  unfold framedLength? at h
  split at h
  · simp at h
  · split at h
    · split at h
      · simp at h
      · simp only [Option.ite_none_right_eq_some, Option.some.injEq] at h
        omega
    · simp at h

/-- A serial number that occurs ends inside of the payload. -/
theorem lengthUpTo_le (serialNumber payload : List UInt8) :
    lengthUpTo serialNumber payload ≤ payload.length := by
  unfold lengthUpTo
  split
  · exact Nat.le_refl _
  · split
    · rename_i i hi
      exact Search.add_length_le_of_indexOf? hi
    · exact Nat.le_refl _

theorem frontLength_le (serialNumber payload : List UInt8) :
    frontLength serialNumber payload ≤ payload.length := by
  unfold frontLength
  cases h : framedLength? payload with
  | some total => exact framedLength?_le h
  | none => exact lengthUpTo_le serialNumber payload

/-! ## Cutting to the end -/

variable {serialNumber payload : List UInt8} {frames : List (List UInt8)}

/-- What is not empty can be cut where the front of it ends. -/
theorem Cuts.front (hne : payload ≠ [])
    (later : Cuts serialNumber (payload.drop (frontLength serialNumber payload)) frames) :
    Cuts serialNumber payload (payload.take (frontLength serialNumber payload) :: frames) := by
  have hpos := frontLength_pos serialNumber payload hne
  have hle := frontLength_le serialNumber payload
  have hlength : (payload.take (frontLength serialNumber payload)).length
      = frontLength serialNumber payload := by
    rw [List.length_take, Nat.min_eq_left hle]
  have hwhole := List.take_append_drop (frontLength serialNumber payload) payload
  have hnonempty : payload.take (frontLength serialNumber payload) ≠ [] := by
    rwa [← List.length_pos_iff, hlength]
  have hcut := Cuts.cut hnonempty (hwhole.symm ▸ hlength.symm) later
  rwa [hwhole] at hcut

/-- Splitting goes through to the end. -/
theorem cuts_split (serialNumber payload : List UInt8) :
    Cuts serialNumber payload (split serialNumber payload) := by
  induction payload using split.induct serialNumber with
  | case1 =>
    rw [split, dif_pos rfl]
    exact .done
  | case2 payload hne ih =>
    rw [split, dif_neg hne]
    exact .front hne ih

/-- There is no other way to cut a payload. -/
theorem Cuts.eq_split (h : Cuts serialNumber payload frames) :
    frames = split serialNumber payload := by
  induction h with
  | done => rw [split, dif_pos rfl]
  | cut nonempty length later ih => rw [split_append nonempty length, ← ih]

/-- The frames make up the payload. -/
theorem Cuts.flatten (h : Cuts serialNumber payload frames) : frames.flatten = payload := by
  induction h with
  | done => rfl
  | cut nonempty length later ih => rw [List.flatten_cons, ih]

/-- No frame is empty. -/
theorem Cuts.ne_nil (h : Cuts serialNumber payload frames) : ∀ frame ∈ frames, frame ≠ [] := by
  induction h with
  | done => simp
  | cut nonempty length later ih =>
    intro f hf
    rcases List.mem_cons.mp hf with rfl | hlater
    · exact nonempty
    · exact ih f hlater

/-- Splitting loses nothing, whatever the payload and the serial number are.
Whatever bytes are left, the next cut takes one of them at least and is not past
the last one; so splitting goes through to the end, with one result; no frame is
empty; and the frames, one after another, are the payload. -/
theorem split_lossless (serialNumber payload : List UInt8) :
    (∀ left : List UInt8, left ≠ [] →
        1 ≤ frontLength serialNumber left ∧ frontLength serialNumber left ≤ left.length) ∧
      (∀ frames, Cuts serialNumber payload frames ↔ frames = split serialNumber payload) ∧
      (∀ frame ∈ split serialNumber payload, frame ≠ []) ∧
      (split serialNumber payload).flatten = payload := by
  have hcuts := cuts_split serialNumber payload
  refine ⟨fun left hne => ?_, fun frames => ⟨Cuts.eq_split, ?_⟩, hcuts.ne_nil, hcuts.flatten⟩
  · exact ⟨frontLength_pos serialNumber left hne, frontLength_le serialNumber left⟩
  · rintro rfl
    exact hcuts

/-- A length of `2 ^ 64 - 1` that runs past the end, with the serial number after
it. -/
private def endless : List UInt8 :=
  [0x0a, 255, 255, 255, 255, 255, 255, 255, 255, 255, 1, 72, 87]

/-- The serial number after a length that runs past the end, and then a length
that is not finished. -/
theorem split_lossless_endless :
    Cuts [72, 87] (endless ++ [0x0a, 128, 128]) [endless, [0x0a, 128, 128]] ∧
      frontLength [72, 87] [0x0a, 128, 128] ≤ 3 ∧
      split [72, 87] (endless ++ [0x0a, 128, 128]) = [endless, [0x0a, 128, 128]] ∧
      (∀ frame ∈ split [72, 87] (endless ++ [0x0a, 128, 128]), frame ≠ []) ∧
      (split [72, 87] (endless ++ [0x0a, 128, 128])).flatten = endless ++ [0x0a, 128, 128] := by
  have hcuts : Cuts [72, 87] (endless ++ ([0x0a, 128, 128] ++ []))
      [endless, [0x0a, 128, 128]] :=
    .cut (by decide) (by decide) (.cut (by decide) (by decide) .done)
  obtain ⟨hbounds, hsplit, hne, hflatten⟩ :=
    split_lossless [72, 87] (endless ++ [0x0a, 128, 128])
  exact ⟨hcuts, (hbounds [0x0a, 128, 128] (by decide)).2, ((hsplit _).mp hcuts).symm, hne,
    hflatten⟩

end PowerTelemetry.Frame
