import PowerTelemetry.Json.Parts
/-!
# Devices of the cloud

An entry of the cloud's list of devices.  It is written as an object, or as an
array of its two values in order; whether a device is online may be left out.
-/

namespace PowerTelemetry.Cloud

/-- A device, with the number that says whether it is online. -/
structure Device where
  serialNumber : String
  online : UInt8
  deriving DecidableEq, Repr, Inhabited

namespace Device

/-- `Device::is_online`: the device is online. -/
def isOnline (d : Device) : Bool :=
  d.online == 1

/-- The number below 256 that a text spells. -/
def byte? (cs : List Char) : Option UInt8 :=
  match Json.readChars cs with
  | some (.number (.natural n)) => if n.toNat < 256 then some (UInt8.ofNat n.toNat) else none
  | _ => none

/-- The device that a text describes.  Other members of an object do not
matter. -/
def ofText? (cs : List Char) : Option Device :=
  match Json.Parts.of? cs with
  | some (.members members) =>
    match Json.only? "sn" members, Json.only? "online" members with
    | .ok (some serialNumber), .ok none => do
      some ⟨← Json.readString? serialNumber, 0⟩
    | .ok (some serialNumber), .ok (some online) => do
      some ⟨← Json.readString? serialNumber, ← byte? online⟩
    | _, _ => none
  | some (.items [serialNumber]) => do
    some ⟨← Json.readString? serialNumber, 0⟩
  | some (.items [serialNumber, online]) => do
    some ⟨← Json.readString? serialNumber, ← byte? online⟩
  | _ => none

end Device

end PowerTelemetry.Cloud
