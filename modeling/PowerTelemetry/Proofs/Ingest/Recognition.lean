import PowerTelemetry.Ingest
import PowerTelemetry.Proofs.Json.Characters
import PowerTelemetry.Proofs.Wire.Names
/-!
# Which payloads are JSON

A device sends JSON or frames, and nothing but the payload says which.  The first
byte of a frame is a newline to a JSON reader, its length may be a blank or a brace,
and what it holds may be JSON itself.

What tells frames apart is the key of the serial number in a header: one of its bytes
is a control character that no JSON text has (`jsonObject?_eq_none_of_mem`).  So
frames of which one names its device are never taken for JSON
(`message_of_named`).
-/

namespace PowerTelemetry.Ingest

open PowerTelemetry.Frame (Header headerFields writeEnvelope)
open Wire (Values)

/-- A payload with a byte that is no plain character is no JSON object. -/
theorem jsonObject?_eq_none_of_mem {payload : List UInt8} {b : UInt8} (hb : b ∈ payload)
    (hascii : b.toNat < 128) (hplain : ¬ Json.IsPlain (Char.ofNat b.toNat)) :
    jsonObject? payload = none := by
  have hnone : (Text.ofUtf8? payload).bind Json.parse? = none := by
    rw [Option.eq_none_iff_forall_ne_some]
    intro j hj
    obtain ⟨s, htext, hparse⟩ := Option.bind_eq_some_iff.mp hj
    rw [Text.eq_utf8_of_ofUtf8? htext] at hb
    obtain ⟨c, hc, hcode⟩ := Text.exists_char_of_mem_utf8 hascii hb
    apply hplain
    rw [← hcode, Char.ofNat_toNat]
    exact Json.isPlain_of_parse? hparse c hc
  rw [jsonObject?, hnone]

/-- The key of the serial number, whatever the other fields are. -/
theorem one_mem_write {h : Header} (hnamed : (h.text? "device_sn").isSome) : 1 ∈ h.write := by
  obtain ⟨serialNumber, htext⟩ := Option.isSome_iff_exists.mp hnamed
  have hget : ∃ x, h.get? "device_sn" = some x := by
    rw [Values.text?] at htext
    split at htext
    · exact ⟨_, ‹_›⟩
    · cases htext
  obtain ⟨x, hget⟩ := hget
  obtain ⟨f, hf, hname, hkey⟩ := Values.exists_key_of_mem_present (Values.mem_of_get? hget)
  have hone : ∀ f ∈ headerFields, f.name = "device_sn" →
      1 ∈ Wire.writeKey f.number f.kind.wire := by
    decide
  exact hkey (hone f hf hname)

/-- Frames of which one names its device are no JSON, whatever else their headers
hold: a message of them sends the requests of its frames. -/
theorem message_of_named (headers : List Header)
    (hnamed : ∃ h ∈ headers, (h.text? "device_sn").isSome) :
    let payload := headers.flatMap fun h => writeEnvelope (some h)
    jsonObject? payload = none ∧
      ∀ (i : Ingest) (now : Instant) (topic serialNumber : String) (s : Intake),
        Topic.serialNumber? i.template topic = some serialNumber →
        let requests := (Frame.split (Text.utf8 serialNumber) payload).flatMap
          (i.frameRequests now serialNumber)
        let sent := s.outbox.sendAll requests
        i.message now topic payload s
          = (sent.1.map fun _ => requests.length,
              ⟨s.counters.countPushed serialNumber, sent.2⟩) := by
  intro payload
  obtain ⟨h, hmem, hnamed⟩ := hnamed
  have hbyte : 1 ∈ payload := by
    apply List.mem_flatMap.mpr
    refine ⟨h, hmem, ?_⟩
    simp only [writeEnvelope, Wire.writeDelimited, List.mem_append]
    exact .inr (.inr (one_mem_write hnamed))
  have hbinary : jsonObject? payload = none :=
    jsonObject?_eq_none_of_mem hbyte (by decide) (by decide)
  refine ⟨hbinary, ?_⟩
  intro i now topic serialNumber s htopic requests sent
  rw [message, htopic]
  simp only [pushed, hbinary]
  rfl

/-- A header that names its device and whose payload spells a JSON object. -/
private def bracedHeader : Header :=
  Values.ofNames (fun name =>
    if name = "pdata" then some (.bytes (Text.utf8 "\x7b\x7d"))
    else if name = "device_sn" then some (.text "")
    else none) headerFields

theorem message_of_named_bracedHeader :
    (jsonObject? bracedHeader.payload).isSome = true ∧
      jsonObject? (writeEnvelope (some (Values.empty headerFields))
        ++ writeEnvelope (some bracedHeader)) = none :=
  ⟨by decide +kernel,
    (message_of_named [Values.empty headerFields, bracedHeader] (by decide +kernel)).1⟩

end PowerTelemetry.Ingest
