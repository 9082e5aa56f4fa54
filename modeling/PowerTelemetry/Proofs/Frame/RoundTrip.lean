import PowerTelemetry.Proofs.Frame.Envelope
import PowerTelemetry.Proofs.Frame.Packs
import PowerTelemetry.Proofs.Wire.Names
/-!
# Frames are read as they were written

Heartbeats, packs, headers and envelopes: what is written is read again.

`read_writeEnvelope` is the result for whole frames.  The command of the header
decides what becomes of the payload: a heartbeat, the items of a pack, or nothing
if the command is none of the two.
-/

namespace PowerTelemetry.Frame

open Wire (Values WellNumbered)

/-! ## Field lists -/

theorem wellNumbered_headerFields : WellNumbered headerFields :=
  ⟨by decide, by decide⟩

theorem wellNumbered_heartbeatFields : WellNumbered heartbeatFields :=
  ⟨by decide, by decide⟩

/-! ## Payloads -/

/-- A heartbeat is read as it was written. -/
theorem Heartbeat.read_write (h : Heartbeat) (hlength : h.write.length < 2 ^ 64) :
    Heartbeat.read h.write = .ok h :=
  Values.readMessage_write "InverterHeartbeat" Wire.maxDepth wellNumbered_heartbeatFields h hlength

/-! ## Headers -/

/-- A header is read as it was written, on its own or inside of an envelope. -/
theorem Header.readAt_write (depth : Nat) (h : Header) (hlength : h.write.length < 2 ^ 64) :
    readAt depth h.write = .ok h :=
  Values.readMessage_write "Header" depth wellNumbered_headerFields h hlength

/-- The command is that of the field, unless it is zero. -/
theorem Header.command_eq_iff (h : Header) {command : Int} (hne : command ≠ 0) :
    h.command = command ↔ h.get? "cmd_id" = some (.number command) := by
  rw [Header.command, Values.number]
  cases h.get? "cmd_id" with
  | none => simp [hne.symm]
  | some x => cases x <;> simp [hne.symm]

/-- The payload is among the bytes of its header. -/
theorem Header.length_payload_le (h : Header) : h.payload.length ≤ h.write.length :=
  Values.length_bytes_le h "pdata"

/-! ## Frames -/

/-- A written envelope is a frame, and read as its header and the payload of
this. -/
theorem read_writeEnvelope_eq (h : Header) (hlength : h.write.length < 2 ^ 64) :
    read (writeEnvelope (some h)) = (readBody h).map fun body => ⟨h, body⟩ := by
  have hframed : writeEnvelope (some h) = framed h.write := rfl
  rw [hframed, read_framed hlength, h.readAt_write innerDepth hlength]
  dsimp only
  cases readBody h <;> rfl

/-- Frames whose header fits into memory are read as they were written.  With the
command of heartbeats and a written heartbeat as its payload, a frame is its header
and the heartbeat; with the command of the power stream and a written pack, its
header and the items of the pack.  With another command, or none, it is its header
alone, whatever the payload is. -/
theorem read_writeEnvelope (h : Header) (hlength : h.write.length < 2 ^ 64) :
    (∀ heartbeat : Heartbeat, h.get? "cmd_id" = some (.number 1) →
        h.payload = heartbeat.write →
        read (writeEnvelope (some h)) = .ok ⟨h, .heartbeat heartbeat⟩) ∧
      (∀ pack : PowerPack, h.get? "cmd_id" = some (.number 32) → h.payload = pack.write →
        read (writeEnvelope (some h)) = .ok ⟨h, .powerStream pack.items⟩) ∧
      (h.get? "cmd_id" ≠ some (.number 1) → h.get? "cmd_id" ≠ some (.number 32) →
        ∃ f, read (writeEnvelope (some h)) = .ok f ∧ f.header = h ∧ f.body = .unknown ∧
          f.isHandled = false ∧ f.records = []) := by
  have hpayload := Nat.lt_of_le_of_lt h.length_payload_le hlength
  rw [read_writeEnvelope_eq h hlength]
  refine ⟨fun heartbeat hcommand hwritten => ?_, fun pack hcommand hwritten => ?_,
    fun hheartbeat hpower => ?_⟩
  · have hcommand : h.command = heartbeatCommand := (h.command_eq_iff (by decide)).mpr hcommand
    rw [hwritten] at hpayload
    rw [readBody, if_pos hcommand, hwritten, heartbeat.read_write hpayload]
    rfl
  · have hcommand : h.command = powerCommand := (h.command_eq_iff (by decide)).mpr hcommand
    rw [hwritten] at hpayload
    rw [readBody, if_neg (by rw [hcommand]; decide), if_pos hcommand, hwritten,
      pack.read_write hpayload]
    rfl
  · have hnotHeartbeat : h.command ≠ heartbeatCommand := fun hcommand =>
      hheartbeat ((h.command_eq_iff (by decide)).mp hcommand)
    have hnotPower : h.command ≠ powerCommand := fun hcommand =>
      hpower ((h.command_eq_iff (by decide)).mp hcommand)
    rw [readBody, if_neg hnotHeartbeat, if_neg hnotPower]
    exact ⟨⟨h, .unknown⟩, rfl, rfl, rfl, rfl, rfl⟩

/-- A header with a command, a payload, a negative number and a text. -/
private def labelled (command : Option Int) (payload : List UInt8) : Header :=
  Values.ofNames (fun name =>
    if name = "pdata" then some (.bytes payload)
    else if name = "cmd_id" then command.map .number
    else if name = "seq" then some (.number (-1))
    else if name = "device_sn" then some (.text "HW51")
    else none) headerFields

/-- What an inverter reports at night. -/
private def nightHeartbeat : Heartbeat :=
  Values.ofNames (fun name =>
    if name = "inv_err_code" then some (.number 4294967295)
    else if name = "bat_temp" then some (.number (-5))
    else none) heartbeatFields

/-- Two items, of which the second is empty. -/
private def nightPack : PowerPack :=
  ⟨some 3, [Values.ofNames (fun name =>
    if name = "timezone" then some (.number (-60)) else none) powerFields,
    Values.empty powerFields]⟩

theorem read_writeEnvelope_labelled :
    read (writeEnvelope (some (labelled (some 1) nightHeartbeat.write)))
        = .ok ⟨labelled (some 1) nightHeartbeat.write, .heartbeat nightHeartbeat⟩ ∧
      read (writeEnvelope (some (labelled (some 32) nightPack.write)))
        = .ok ⟨labelled (some 32) nightPack.write, .powerStream nightPack.items⟩ ∧
      ∃ f, read (writeEnvelope (some (labelled none [0xff]))) = .ok f ∧
        f.header = labelled none [0xff] ∧ f.records = [] := by
  obtain ⟨hheartbeat, _, _⟩ :=
    read_writeEnvelope (labelled (some 1) nightHeartbeat.write) (by decide +kernel)
  obtain ⟨_, hpack, _⟩ :=
    read_writeEnvelope (labelled (some 32) nightPack.write) (by decide +kernel)
  obtain ⟨_, _, hunknown⟩ := read_writeEnvelope (labelled none [0xff]) (by decide +kernel)
  obtain ⟨f, hread, hheader, _, _, hrecords⟩ :=
    hunknown (by decide +kernel) (by decide +kernel)
  exact ⟨hheartbeat nightHeartbeat (by decide +kernel) (by decide +kernel),
    hpack nightPack (by decide +kernel) (by decide +kernel), f, hread, hheader, hrecords⟩

end PowerTelemetry.Frame
