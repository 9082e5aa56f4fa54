import PowerTelemetry.Column
/-!
# Samples

A `Sample` is what one device reported at one instant.  Every sample has a
`serial_number` and a `timestamp` attribute: `make` adds the ones that the
source left out, and takes the instant of the sample from the source's
timestamp where that denotes one.
-/

namespace PowerTelemetry

/-- The attributes of one device at one instant. -/
structure Sample where
  deviceId : String
  capturedAt : Instant
  attributes : Dict Value
  deriving Inhabited

namespace Sample

/-- The attributes with the serial number, if there was none, as
`Sample::inject_defaults` adds it. -/
def withSerialNumber (deviceId : String) (attributes : Dict Value) : Dict Value :=
  if attributes.contains Column.serialNumberName then attributes
  else attributes.insert Column.serialNumberName (.text deviceId)

/-- `Sample::new`: the sample of a device with the attributes that it reported. -/
def make (now : Instant) (deviceId : String) (reported : Dict Value) : Sample :=
  let attributes := withSerialNumber deviceId reported
  match attributes.get? Column.timestampName with
  | some value => ⟨deviceId, value.asInstant?.getD now, attributes⟩
  | none => ⟨deviceId, now, attributes.insert Column.timestampName (.timestamp now)⟩

theorem get?_withSerialNumber (deviceId : String) (reported : Dict Value) (path : String) :
    (withSerialNumber deviceId reported).get? path =
      if path = Column.serialNumberName then
        some ((reported.get? Column.serialNumberName).getD (.text deviceId))
      else reported.get? path := by
  rw [withSerialNumber, Dict.contains_eq_isSome]
  cases hfound : reported.get? Column.serialNumberName with
  | some value =>
    rw [Option.isSome_some, if_pos rfl]
    split
    · rename_i heq
      rw [heq, hfound, Option.getD_some]
    · rfl
  | none =>
    rw [Option.isSome_none, if_neg Bool.false_ne_true, Dict.get?_insert, Option.getD_none]
    simp only [eq_comm]

/-- The attributes of a sample are those that were reported, and the two that
every sample has. -/
theorem get?_make (now : Instant) (deviceId : String) (reported : Dict Value) (path : String) :
    (make now deviceId reported).attributes.get? path =
      if path = Column.serialNumberName then
        some ((reported.get? Column.serialNumberName).getD (.text deviceId))
      else if path = Column.timestampName then
        some ((reported.get? Column.timestampName).getD (.timestamp now))
      else reported.get? path := by
  have hne : ¬ Column.timestampName = Column.serialNumberName := by decide
  have htime : (withSerialNumber deviceId reported).get? Column.timestampName
      = reported.get? Column.timestampName := by
    rw [get?_withSerialNumber, if_neg hne]
  rw [make, htime]
  cases hfound : reported.get? Column.timestampName with
  | some value =>
    simp only [get?_withSerialNumber, Option.getD_some]
    by_cases hpath : path = Column.timestampName
    · rw [hpath, if_neg hne, if_neg hne, hfound, if_pos rfl]
    · rw [if_neg hpath]
  | none =>
    simp only [Dict.get?_insert, get?_withSerialNumber, Option.getD_none]
    by_cases hpath : path = Column.timestampName
    · rw [hpath, if_pos rfl, if_neg hne, if_pos rfl]
    · rw [if_neg (Ne.symm hpath), if_neg hpath]

/-- The attributes among the members of a JSON object, which are those that have a
value; the loop of `Sample::from_json_map`. -/
def reportedBy (members : List (String × Json)) : Dict Value :=
  Dict.ofList <| members.filterMap fun m =>
    match Value.ofJson m.1 m.2 with
    | .ok value => some (m.1, value)
    | .error _ => none

/-- `Sample::from_json_map`: the sample of a device that reported a JSON object. -/
def ofMembers (now : Instant) (deviceId : String) (members : List (String × Json)) : Sample :=
  make now deviceId (reportedBy members)

end Sample

end PowerTelemetry
