import PowerTelemetry.Proofs.Frame.RoundTrip
/-!
# Frames of newer devices

A newer device may send fields that nobody declared, in the envelope, the header, the
payload or the items of a pack, and fields in another order.  Such bytes are an
extension of a frame: at each level the pieces of the message are rearranged, and
what stands inside of a piece may itself be an extension.

* Envelopes are read by an independent reader that passes over unknown fields, as
  packs and messages of scalar fields are (`independent_readEnvelopeField`).
* `Heartbeat.read_extension` and `readHeader_extension` say that an extension is read
  as what it extends.
* `read_extended` is the result for whole frames.
-/

namespace PowerTelemetry.Frame

open Wire (Values Piece WireType Runs Takes Consumes Independent Skips Rearranged joined)

/-! ## Heartbeats -/

/-- An extension of a heartbeat is read as the heartbeat. -/
theorem Heartbeat.read_extension {h : Heartbeat} {bytes : List UInt8}
    (hbytes : Values.IsExtension heartbeatFields h bytes) (hlength : bytes.length < 2 ^ 64) :
    Heartbeat.read bytes = .ok h :=
  Values.readMessage_extension "InverterHeartbeat" (by decide) wellNumbered_heartbeatFields hbytes
    hlength

/-! ## Envelopes -/

/-- A field that is not the header is passed over. -/
theorem consumes_iff_of_ne {a b : Option Header} {number : Nat} {wire : WireType}
    {content : List UInt8} (hne : number ≠ envelopeNumber) :
    Consumes readEnvelopeField a number wire content b ↔
      b = a ∧ ∀ rest, Wire.skip Wire.maxDepth wire number (content ++ rest) = .ok rest := by
  constructor
  · intro h
    have hread : ∀ rest, b = a ∧
        Wire.skip Wire.maxDepth wire number (content ++ rest) = .ok rest := by
      intro rest
      have hfield := h rest
      rw [readEnvelopeField, if_neg hne] at hfield
      split at hfield
      · rename_i after hskip
        obtain ⟨rfl, rfl⟩ := Prod.mk.inj (Except.ok.inj hfield)
        exact ⟨rfl, hskip⟩
      · cases hfield
    exact ⟨(hread []).1, fun rest => (hread rest).2⟩
  · rintro ⟨rfl, hskip⟩ rest
    rw [readEnvelopeField, if_neg hne, hskip]

theorem independent_readEnvelopeField : Independent readEnvelopeField := by
  intro a b c m n v w x y hne hm hn
  by_cases hother : m = envelopeNumber
  · have hskipped : n ≠ envelopeNumber := fun heq => hne (hother.trans heq.symm)
    obtain ⟨rfl, hskip⟩ := (consumes_iff_of_ne hskipped).mp hn
    exact ⟨a, (consumes_iff_of_ne hskipped).mpr ⟨rfl, hskip⟩, hm⟩
  · obtain ⟨rfl, hskip⟩ := (consumes_iff_of_ne hother).mp hm
    exact ⟨c, hn, (consumes_iff_of_ne hother).mpr ⟨rfl, hskip⟩⟩

theorem skips_readEnvelopeField : Skips readEnvelopeField [envelopeNumber] := by
  intro number wire content hnumber hcontent a
  have hne : number ≠ envelopeNumber := fun heq => hnumber (List.mem_singleton.mpr heq)
  apply (consumes_iff_of_ne hne).mpr
  exact ⟨rfl, Wire.skip_append hcontent (by decide) number⟩

/-- The piece of a header. -/
def headerPiece (body : List UInt8) : Piece :=
  ⟨envelopeNumber, framed body⟩

/-- Bytes that hold one header, which may itself be an extension, with unknown fields
anywhere around it. -/
def IsExtension (h : Header) (bytes : List UInt8) : Prop :=
  ∃ body l, Values.IsExtension headerFields h body ∧
    Rearranged [envelopeNumber] [headerPiece body] l ∧ bytes = joined l

theorem takes_headerPiece {h : Header} {body : List UInt8}
    (hbody : Values.IsExtension headerFields h body) (hlength : body.length < 2 ^ 64) :
    Takes readEnvelopeField none (headerPiece body) (some h) := by
  refine ⟨.delimited, Wire.writeDelimited body, fun rest => ?_, fun rest => ?_⟩
  · exact readKey_firstByte _
  · have hreads := Values.reads_extension "Header" (show 0 < innerDepth by decide)
      wellNumbered_headerFields hbody hlength rest
    have hembedded := Wire.readEmbedded_of_reads
      (fun _ _ _ _ _ _ hfield => Values.length_readField hfield) hlength hreads
    rw [innerDepth] at hembedded
    show readEnvelopeField none envelopeNumber .delimited _ = _
    rw [readEnvelopeField, if_pos rfl, if_pos rfl, Option.getD_none, hembedded]

/-- A field of an envelope leaves no more bytes than there were. -/
theorem length_readEnvelopeField {a b : Option Header} {number : Nat} {wire : WireType}
    {bytes rest : List UInt8} (h : readEnvelopeField a number wire bytes = .ok (b, rest)) :
    rest.length ≤ bytes.length := by
  rw [readEnvelopeField] at h
  split at h
  · by_cases hwire : wire = .delimited
    · rw [if_pos hwire] at h
      dsimp only at h
      split at h
      · rename_i hheader
        obtain ⟨_, rfl⟩ := Prod.mk.inj (Except.ok.inj h)
        exact Nat.le_of_lt (Wire.length_readEmbedded hheader)
      · cases h
    · rw [if_neg hwire] at h
      cases h
  · split at h
    · rename_i hskip
      obtain ⟨_, rfl⟩ := Prod.mk.inj (Except.ok.inj h)
      exact Wire.length_skip hskip
    · cases h

/-- The header in an extension is the one that it extends; its bytes are among those
of the extension. -/
theorem readHeader_extension {h : Header} {bytes : List UInt8} (hbytes : IsExtension h bytes)
    (hlength : bytes.length < 2 ^ 64) :
    readHeader bytes = .ok h ∧ h.write.length < 2 ^ 64 := by
  obtain ⟨body, l, hbody, hl, rfl⟩ := hbytes
  have hsteps := hl.steps (by
    intro p hp
    rw [List.mem_singleton.mp hp]
    exact List.mem_cons_self)
  have hle := hsteps.length_le
  have hbodyLength : body.length < 2 ^ 64 := by
    have hframed := Wire.length_le_writeDelimited body
    simp only [Wire.joined_cons, Wire.joined_nil, headerPiece, framed, List.append_nil,
      List.length_cons] at hle
    omega
  have hruns : Runs readEnvelopeField none [headerPiece body] (some h) :=
    .cons (takes_headerPiece hbody hbodyLength) (.nil (some h))
  have hreads := (hruns.rearranged independent_readEnvelopeField skips_readEnvelopeField
    hsteps).reads []
  rw [List.append_nil] at hreads
  have henvelope : readEnvelope (joined l) = .ok (some h) :=
    Wire.readMessage_of_reads (fun _ _ _ _ _ _ hfield => length_readEnvelopeField hfield) hreads
  refine ⟨by rw [readHeader, henvelope], ?_⟩
  obtain ⟨inner, hinner, rfl⟩ := hbody
  have hwritten := (hinner.steps fun _ hp => Values.number_mem_of_mem_pieces hp).length_le
  rw [Values.joined_pieces] at hwritten
  exact Nat.lt_of_le_of_lt hwritten hbodyLength

/-! ## Payloads replaced -/

namespace Header

/-- The header with another payload. -/
def withPayload (h : Header) (payload : List UInt8) : Header :=
  Values.cons (some payload) h.2

theorem get?_withPayload (h : Header) (payload : List UInt8) {name : String}
    (hname : name ≠ "pdata") : (h.withPayload payload).get? name = h.get? name := by
  have hskipped : ∀ x : Wire.Scalar, ∀ l, List.lookup name (("pdata", x) :: l) = l.lookup name := by
    intro x l
    rw [List.lookup_cons, beq_eq_false_iff_ne.mpr hname]
  obtain ⟨x, w⟩ := h
  cases x with
  | none => exact hskipped _ _
  | some x => exact (hskipped _ _).trans (hskipped _ _).symm

theorem command_withPayload (h : Header) (payload : List UInt8) :
    (h.withPayload payload).command = h.command := by
  rw [command, command, Values.number, Values.number, get?_withPayload h payload (by decide)]

theorem deviceOr_withPayload (h : Header) (payload : List UInt8) (fallback : String) :
    (h.withPayload payload).deviceOr fallback = h.deviceOr fallback := by
  rw [deviceOr, deviceOr, Values.text?, Values.text?, get?_withPayload h payload (by decide)]

end Header

/-! ## Frames -/

theorem readBody_heartbeat {h : Header} {heartbeat : Heartbeat}
    (hcommand : h.command = heartbeatCommand) (hpayload : Heartbeat.read h.payload = .ok heartbeat) :
    readBody h = .ok (.heartbeat heartbeat) := by
  rw [readBody, if_pos hcommand, hpayload]

theorem readBody_power {h : Header} {pack : PowerPack} (hcommand : h.command = powerCommand)
    (hpayload : PowerPack.read h.payload = .ok pack) :
    readBody h = .ok (.powerStream pack.items) := by
  have hother : h.command ≠ heartbeatCommand := by
    rw [hcommand]
    decide
  rw [readBody, if_neg hother, if_pos hcommand, hpayload]

/-- Two frames hold the same records, from the same device. -/
def HoldSame (f g : Frame) : Prop :=
  g.records = f.records ∧ ∀ fallback, g.deviceOr fallback = f.deviceOr fallback

variable {h : Header} {payload bytes : List UInt8}

/-- If the payload of a header and another one are read as the same body, so are
the written frame of the header and an extension with the other payload. -/
theorem holdSame_of_readBody {body : Body} (hbody : readBody h = .ok body)
    (hother : readBody (h.withPayload payload) = .ok body)
    (hheader : readHeader bytes = .ok (h.withPayload payload))
    (hwritten : h.write.length < 2 ^ 64) :
    ∃ f g, read (writeEnvelope (some h)) = .ok f ∧ read bytes = .ok g ∧ HoldSame f g := by
  refine ⟨⟨h, body⟩, ⟨h.withPayload payload, body⟩, ?_, ?_, rfl, h.deviceOr_withPayload payload⟩
  · rw [read_writeEnvelope_eq h hwritten, hbody]
    rfl
  · rw [read, hheader]
    simp only [hother]

/-- A frame with a heartbeat or a pack is read as the same records of the same device
from every extension of it: from bytes in which, in the envelope, the header, the
payload and each item, fields of different numbers may have changed places and any
number of undeclared fields may have been added. -/
theorem read_extended (h : Header) (payload bytes : List UInt8)
    (hbytes : IsExtension (h.withPayload payload) bytes) (hlength : bytes.length < 2 ^ 64)
    (hwritten : h.write.length < 2 ^ 64) :
    (∀ heartbeat : Heartbeat, h.get? "cmd_id" = some (.number 1) →
        h.payload = heartbeat.write → Values.IsExtension heartbeatFields heartbeat payload →
        ∃ f g, read (writeEnvelope (some h)) = .ok f ∧ read bytes = .ok g ∧ HoldSame f g) ∧
      (∀ pack : PowerPack, h.get? "cmd_id" = some (.number 32) →
        h.payload = pack.write → PowerPack.IsExtension pack payload →
        ∃ f g, read (writeEnvelope (some h)) = .ok f ∧ read bytes = .ok g ∧ HoldSame f g) := by
  obtain ⟨hheader, hotherWritten⟩ := readHeader_extension hbytes hlength
  have hcarried := Nat.lt_of_le_of_lt h.length_payload_le hwritten
  have hpayload : payload.length < 2 ^ 64 :=
    Nat.lt_of_le_of_lt (h.withPayload payload).length_payload_le hotherWritten
  refine ⟨fun heartbeat hcommand hcontent hextension => ?_,
    fun pack hcommand hcontent hextension => ?_⟩
  · have hcommand : h.command = heartbeatCommand := (h.command_eq_iff (by decide)).mpr hcommand
    rw [hcontent] at hcarried
    have hbody : readBody h = .ok (.heartbeat heartbeat) :=
      readBody_heartbeat hcommand (by rw [hcontent, heartbeat.read_write hcarried])
    have hother : readBody (h.withPayload payload) = .ok (.heartbeat heartbeat) :=
      readBody_heartbeat (by rw [h.command_withPayload, hcommand])
        (Heartbeat.read_extension hextension hpayload)
    exact holdSame_of_readBody hbody hother hheader hwritten
  · have hcommand : h.command = powerCommand := (h.command_eq_iff (by decide)).mpr hcommand
    rw [hcontent] at hcarried
    have hbody : readBody h = .ok (.powerStream pack.items) :=
      readBody_power hcommand (by rw [hcontent, pack.read_write hcarried])
    have hother : readBody (h.withPayload payload) = .ok (.powerStream pack.items) :=
      readBody_power (by rw [h.command_withPayload, hcommand])
        (PowerPack.read_extension hextension hpayload)
    exact holdSame_of_readBody hbody hother hheader hwritten

/-- A header with a pack of one item. -/
private def sentPack : PowerPack :=
  ⟨some 3, [Values.ofNames (fun name =>
    if name = "timestamp" then some (.number 1743087465)
    else if name = "timezone" then some (.number (-60))
    else none) powerFields]⟩

private def sentHeader : Header :=
  Values.ofNames (fun name =>
    if name = "pdata" then some (.bytes sentPack.write)
    else if name = "cmd_id" then some (.number 32)
    else if name = "device_sn" then some (.text "HW51")
    else none) headerFields

/-- A field with a short key. -/
private def added (number : Nat) (wire : WireType) (content : List UInt8) : Piece :=
  ⟨number, Wire.writeKey number wire ++ content⟩

/-- The item with its fields turned round and one more behind them. -/
private def newerItem : List Piece :=
  (sentPack.items.flatMap (Values.pieces powerFields)).reverse
    ++ [added 8 .fixed64 [1, 2, 3, 4, 5, 6, 7, 8]]

/-- The pack with its item in front and one more field behind it. -/
private def newerPack : List Piece :=
  PowerPack.itemPiece (joined newerItem) :: added 4 .delimited [2, 0x0a, 0x0a]
    :: Values.pieces packFields sentPack.scalars

private def newerHeader : Header :=
  sentHeader.withPayload (joined newerPack)

/-- The header turned round and one more field in front of it. -/
private def newerBody : List Piece :=
  added 13 .varint [0xff, 0x00] :: (Values.pieces headerFields newerHeader).reverse

private def newerEnvelope : List Piece :=
  [added 2 .fixed32 [0, 0, 0, 0], headerPiece (joined newerBody)]

private theorem isUnknown_added {declared : List Nat} {number : Nat} {wire : WireType}
    {content : List UInt8} (hnumber : number ∉ declared) (hfits : 0 < number ∧ number < 2 ^ 29)
    (hcontent : Wire.IsContent wire content) : (added number wire content).IsUnknown declared := by
  have hcode := wire.code_lt
  refine ⟨hnumber, hfits, Wire.writeKey number wire, wire, content, rfl, ?_, hcontent⟩
  exact Wire.isVarint_writeVarint (show 8 * number + wire.code < 2 ^ 64 by omega)

/-- One unknown field among those of the original. -/
private theorem rearranged_added {declared : List Nat} {original l : List Piece} {u : Piece}
    (hu : u.IsUnknown declared)
    (hsame : ∀ n ∈ declared, l.filter (·.number = n) = original.filter (·.number = n))
    (hothers : ∀ p ∈ l, p = u ∨ p.number ∈ declared) : Rearranged declared original l := by
  refine ⟨hsame, fun p hp hnumber => ?_⟩
  rcases hothers p hp with rfl | hdeclared
  · exact hu
  · exact absurd hdeclared hnumber

theorem read_extended_newerEnvelope :
    ∃ f g, read (writeEnvelope (some sentHeader)) = .ok f ∧ read (joined newerEnvelope) = .ok g ∧
      HoldSame f g := by
  have hitem : ∀ item ∈ sentPack.items, Values.IsExtension powerFields item (joined newerItem) := by
    intro item hitem
    obtain rfl := List.mem_singleton.mp hitem
    refine ⟨newerItem, ?_, rfl⟩
    refine rearranged_added (u := added 8 .fixed64 [1, 2, 3, 4, 5, 6, 7, 8]) ?_
      (by decide +kernel) (by decide +kernel)
    exact isUnknown_added (by decide) (by decide) rfl
  have hpack : PowerPack.IsExtension sentPack (joined newerPack) := by
    refine ⟨[joined newerItem], newerPack, ?_, ?_, rfl⟩
    · exact .cons (hitem _ (by decide +kernel)) .nil
    · refine rearranged_added (u := added 4 .delimited [2, 0x0a, 0x0a]) ?_ (by decide +kernel)
        (by decide +kernel)
      exact isUnknown_added (by decide) (by decide)
        ⟨[2], [0x0a, 0x0a], rfl, Wire.isVarint_writeVarint (n := 2) (by decide)⟩
  have hheader : IsExtension newerHeader (joined newerEnvelope) := by
    refine ⟨joined newerBody, newerEnvelope, ⟨newerBody, ?_, rfl⟩, ?_, rfl⟩
    · refine rearranged_added (u := added 13 .varint [0xff, 0x00]) ?_ (by decide +kernel)
        (by decide +kernel)
      have hlonger : Wire.IsVarint [0xff, 0x00] 127 :=
        Wire.isGroups_cons_iff.mpr
          (.inr ⟨by decide, 0, Wire.isGroups_singleton.mpr (by decide), by decide⟩)
      exact isUnknown_added (by decide) (by decide) ⟨127, hlonger⟩
    · refine rearranged_added (u := added 2 .fixed32 [0, 0, 0, 0]) ?_ (by decide +kernel)
        (by decide +kernel)
      exact isUnknown_added (by decide) (by decide) rfl
  exact (read_extended sentHeader (joined newerPack) (joined newerEnvelope) hheader
    (by decide +kernel) (by decide +kernel)).2 sentPack (by decide +kernel) (by decide +kernel) hpack

end PowerTelemetry.Frame
