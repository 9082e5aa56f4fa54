import PowerTelemetry.Frame.Payload
import PowerTelemetry.Proofs.Wire.Varint
/-!
# Frames are found again

A payload is a sequence of segments.  Some are well-formed frames
(`IsFramed`), others are damaged (`Segments.damaged`): they do not tell their
length, and end where the serial number first occurs (`EndsWithFirst`).  Whether a start tells a length
depends on everything after it, so `Unfit` speaks about the rest of the payload.

* `framedLength?_append` and `framedLength?_of_unfit` say what the start of a
  payload tells.
* `lengthUpTo_append` says where the search for a serial number stops.
* `split_flatten` is the result: the segments of a payload are found again.
-/

namespace PowerTelemetry.Frame

open Wire (IsVarint)

/-! ## Segments -/

/-- A well-formed frame: the first byte, a length, and as many bytes. -/
def IsFramed (frame : List UInt8) : Prop :=
  ∃ v body, frame = firstByte :: (v ++ body) ∧ IsVarint v body.length

/-- Bytes that do not start with the first byte and a length that they hold. -/
inductive Unfit : List UInt8 → Prop where
  | firstByte {b rest} (other : b ≠ firstByte) : Unfit (b :: rest)
  /-- No length can be read. -/
  | varint {rest} (malformed : ∀ v n after, rest = v ++ after → ¬ IsVarint v n) :
      Unfit (Frame.firstByte :: rest)
  /-- The length runs past the end. -/
  | length {v n rest} (spelt : IsVarint v n) (past : rest.length < n) :
      Unfit (Frame.firstByte :: (v ++ rest))

/-- Bytes that end with a serial number, which does not occur in them before. -/
structure EndsWithFirst (serialNumber segment : List UInt8) : Prop where
  suffix : serialNumber <:+ segment
  first : ∀ before after, segment = before ++ serialNumber ++ after → after = []

/-- The segments of a payload. -/
inductive Segments (serialNumber : List UInt8) : List (List UInt8) → Prop where
  | nil : Segments serialNumber []
  | framed {frame rest} (head : IsFramed frame) (tail : Segments serialNumber rest) :
      Segments serialNumber (frame :: rest)
  | damaged {segment rest} (head : EndsWithFirst serialNumber segment)
      (unfit : Unfit (segment ++ rest.flatten)) (tail : Segments serialNumber rest) :
      Segments serialNumber (segment :: rest)

/-! ## What a start tells -/

theorem IsFramed.ne_nil {frame : List UInt8} (h : IsFramed frame) : frame ≠ [] := by
  obtain ⟨v, body, rfl, _⟩ := h
  exact List.cons_ne_nil _ _

/-- A frame tells its length, whatever comes after it. -/
theorem framedLength?_append {frame : List UInt8} (h : IsFramed frame) (rest : List UInt8) :
    framedLength? (frame ++ rest) = some frame.length := by
  obtain ⟨v, body, rfl, hv⟩ := h
  have hread := Wire.readVarint?_append hv (body ++ rest)
  have hassoc : (firstByte :: (v ++ body)) ++ rest = firstByte :: (v ++ (body ++ rest)) := by
    simp
  rw [hassoc, framedLength?, if_pos rfl]
  simp only [hread, List.length_append, List.length_cons]
  rw [if_pos (by omega)]
  congr 1
  omega

/-- A start that does not fit tells no length. -/
theorem framedLength?_of_unfit {payload : List UInt8} (h : Unfit payload) :
    framedLength? payload = none := by
  cases h with
  | firstByte other => rw [framedLength?, if_neg other]
  | @varint rest malformed =>
    have hread : Wire.readVarint? rest = none := by
      cases hr : Wire.readVarint? rest with
      | none => rfl
      | some r =>
        obtain ⟨n, after⟩ := r
        obtain ⟨v, hspell, hv⟩ := Wire.readVarint?_eq_some_iff.mp hr
        exact absurd hv (malformed v n after hspell)
    rw [framedLength?, if_pos rfl]
    simp only [hread]
  | @length v n rest spelt past =>
    have hread := Wire.readVarint?_append spelt rest
    rw [framedLength?, if_pos rfl]
    simp only [hread, List.length_append, List.length_cons]
    rw [if_neg (by omega)]

/-! ## Where a serial number occurs -/

/-- The search stops at the end of bytes that end with the first occurrence. -/
theorem indexOf?_append {run segment : List UInt8} (hrun : run ≠ [])
    (h : EndsWithFirst run segment) (rest : List UInt8) :
    ∃ i, Search.indexOf? run (segment ++ rest) = some i ∧ i + run.length = segment.length := by
  induction segment with
  | nil =>
    have hnil : run = [] := List.suffix_nil.mp h.suffix
    exact absurd hnil hrun
  | cons b segment ih =>
    have hlength : run.length ≤ (b :: segment).length := h.suffix.length_le
    rw [List.cons_append, Search.indexOf?]
    by_cases hhere : run <+: b :: (segment ++ rest)
    · rw [if_pos (List.isPrefixOf_iff_prefix.mpr hhere)]
      have hprefix : run <+: b :: segment :=
        List.prefix_of_prefix_length_le hhere (List.prefix_append (b :: segment) rest) hlength
      obtain ⟨after, hafter⟩ := hprefix
      obtain rfl := h.first [] after (by rw [List.nil_append, hafter])
      rw [List.append_nil] at hafter
      exact ⟨0, rfl, by rw [hafter, Nat.zero_add]⟩
    · rw [if_neg (by rwa [List.isPrefixOf_iff_prefix])]
      have hsuffix : run <:+ segment := by
        rcases List.suffix_cons_iff.mp h.suffix with rfl | hsuffix
        · exact absurd (List.prefix_append (b :: segment) rest) hhere
        · exact hsuffix
      have hfirst : ∀ before after, segment = before ++ run ++ after → after = [] := by
        rintro before after rfl
        exact h.first (b :: before) after rfl
      obtain ⟨i, hi, hend⟩ := ih ⟨hsuffix, hfirst⟩
      refine ⟨i + 1, by rw [hi, Option.map_some], ?_⟩
      rw [List.length_cons]
      omega

theorem lengthUpTo_append {serialNumber segment : List UInt8} (hne : serialNumber ≠ [])
    (h : EndsWithFirst serialNumber segment) (rest : List UInt8) :
    lengthUpTo serialNumber (segment ++ rest) = segment.length := by
  obtain ⟨i, hi, hlength⟩ := indexOf?_append hne h rest
  rw [lengthUpTo, if_neg (by simpa using hne), hi]
  exact hlength

/-! ## Splitting -/

/-- A payload whose front is as long as its first segment is split there. -/
theorem split_append {serialNumber segment rest : List UInt8} (hne : segment ≠ [])
    (h : frontLength serialNumber (segment ++ rest) = segment.length) :
    split serialNumber (segment ++ rest) = segment :: split serialNumber rest := by
  rw [split, dif_neg (by simp [hne]), h, List.take_left, List.drop_left]

theorem split_append_of_isFramed {frame : List UInt8} (h : IsFramed frame)
    (serialNumber rest : List UInt8) :
    split serialNumber (frame ++ rest) = frame :: split serialNumber rest := by
  apply split_append h.ne_nil
  rw [frontLength, framedLength?_append h, Option.getD_some]

theorem split_append_of_unfit {serialNumber segment rest : List UInt8} (hne : serialNumber ≠ [])
    (h : EndsWithFirst serialNumber segment) (hunfit : Unfit (segment ++ rest)) :
    split serialNumber (segment ++ rest) = segment :: split serialNumber rest := by
  have hsegment : segment ≠ [] := by
    rintro rfl
    exact hne (List.suffix_nil.mp h.suffix)
  apply split_append hsegment
  rw [frontLength, framedLength?_of_unfit hunfit, Option.getD_none, lengthUpTo_append hne h]

/-- Well-formed frames are found again whatever the serial number is. -/
theorem split_flatten_of_isFramed {frames : List (List UInt8)} (h : ∀ f ∈ frames, IsFramed f)
    (serialNumber : List UInt8) : split serialNumber frames.flatten = frames := by
  induction frames with
  | nil => rw [List.flatten_nil, split, dif_pos rfl]
  | cons frame rest ih =>
    have hframe := h frame List.mem_cons_self
    have hrest : ∀ f ∈ rest, IsFramed f := fun f hf => h f (List.mem_cons_of_mem _ hf)
    rw [List.flatten_cons, split_append_of_isFramed hframe, ih hrest]

/-- The segments of a payload are found again: its frames whole, also where the
serial number occurs inside of them, and its damaged segments up to the serial
number.  Where all of them are frames, any other serial number gives the same. -/
theorem split_flatten (serialNumber : List UInt8) (segments : List (List UInt8))
    (hne : serialNumber ≠ []) (h : Segments serialNumber segments) :
    split serialNumber segments.flatten = segments ∧
      ((∀ f ∈ segments, IsFramed f) → ∀ other, split other segments.flatten = segments) := by
  have hfound : split serialNumber segments.flatten = segments := by
    induction h with
    | nil => rw [List.flatten_nil, split, dif_pos rfl]
    | framed head tail ih => rw [List.flatten_cons, split_append_of_isFramed head, ih]
    | damaged head unfit tail ih =>
      rw [List.flatten_cons, split_append_of_unfit hne head unfit, ih]
  exact ⟨hfound, fun hframed other => split_flatten_of_isFramed hframed other⟩

/-- A frame that holds the serial number, a segment whose length runs past the
end, and a frame whose length takes a byte more than it needs. -/
theorem split_flatten_overrun :
    split [72, 87] [0x0a, 2, 72, 87, 0x0a, 127, 72, 87, 0x0a, 129, 0, 5]
      = [[0x0a, 2, 72, 87], [0x0a, 127, 72, 87], [0x0a, 129, 0, 5]] := by
  have hshort : IsFramed [0x0a, 2, 72, 87] :=
    ⟨[2], [72, 87], rfl, Wire.isGroups_singleton.mpr (by decide)⟩
  have hlong : IsFramed [0x0a, 129, 0, 5] :=
    ⟨[129, 0], [5], rfl, Wire.isGroups_cons_iff.mpr
      (.inr ⟨by decide, 0, Wire.isGroups_singleton.mpr (by decide), rfl⟩)⟩
  have hends : EndsWithFirst [72, 87] [0x0a, 127, 72, 87] := by
    refine ⟨⟨[0x0a, 127], rfl⟩, fun before after h => ?_⟩
    have hlength := congrArg List.length h
    match before, h with
    | [], h => simp at h
    | [_], h => simp at h
    | _ :: _ :: before, _ =>
      simp only [List.length_append, List.length_cons, List.length_nil] at hlength
      exact List.length_eq_zero_iff.mp (by omega)
  have hvarint : IsVarint [127] 127 := Wire.isGroups_singleton.mpr (by decide)
  have hunfit : Unfit [0x0a, 127, 72, 87, 0x0a, 129, 0, 5] := .length hvarint (by decide)
  exact (split_flatten [72, 87] [[0x0a, 2, 72, 87], [0x0a, 127, 72, 87], [0x0a, 129, 0, 5]]
    (by decide) (.framed hshort (.damaged hends hunfit (.framed hlong .nil)))).1

end PowerTelemetry.Frame
