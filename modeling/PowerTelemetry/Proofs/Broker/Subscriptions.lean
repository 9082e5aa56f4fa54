import PowerTelemetry.Broker
/-!
# Which devices are subscribed to

A client's queue has a fixed number of places, and a fleet may be larger.

* `Client.subscribe?_eq_some` and `Client.subscribe?_eq_none` say when a
  subscription finds a place.
* `subscribeDevices_eq` is what this comes to for a list of devices: those at its
  front are subscribed to in their order, as many as there are places.
* `subscribeDevices_fresh` takes it to a client that was just made, and
  `not_subscribes_all` is a fleet that has one device too many.
-/

namespace PowerTelemetry.Broker

/-! ## One subscription -/

namespace Client

/-- How many places of the queue are free. -/
def room (c : Client) : Nat :=
  queueCapacity - c.waiting.length

variable {c : Client}

theorem subscribe?_eq_some (h : 0 < c.room) (topic : String) (quality : Quality) :
    c.subscribe? topic quality = some ⟨c.waiting ++ [(topic, quality)]⟩ :=
  if_pos (Nat.lt_of_sub_pos h)

theorem subscribe?_eq_none (h : c.room = 0) (topic : String) (quality : Quality) :
    c.subscribe? topic quality = none :=
  if_neg (Nat.not_lt.mpr (Nat.sub_eq_zero_iff_le.mp h))

/-- A subscription takes one place. -/
theorem room_concat (waiting : List (String × Quality)) (entry : String × Quality) :
    room ⟨waiting ++ [entry]⟩ = room ⟨waiting⟩ - 1 := by
  simp only [room, List.length_append, List.length_singleton]
  omega

end Client

/-! ## A list of devices -/

/-- Without a free place no device is subscribed to. -/
theorem subscribeDevices_of_full {c : Client} (h : c.room = 0) (template : String) (level : UInt8)
    (devices : List String) : subscribeDevices template level devices c = (0, c) := by
  induction devices with
  | nil => rfl
  | cons serialNumber rest ih =>
    rw [subscribeDevices, Client.subscribe?_eq_none h]
    exact ih

/-- The devices at the front are subscribed to, as many as there are free places. -/
theorem subscribeDevices_eq (template : String) (level : UInt8) (devices : List String)
    (c : Client) :
    subscribeDevices template level devices c
      = (min devices.length c.room,
          ⟨c.waiting ++ (devices.take c.room).map fun serialNumber =>
            (Topic.forDevice template serialNumber, Quality.ofLevel level)⟩) := by
  induction devices generalizing c with
  | nil => simp [subscribeDevices]
  | cons serialNumber rest ih =>
    cases hroom : c.room with
    | zero => simp [subscribeDevices_of_full hroom]
    | succ n =>
      have hleft (entry : String × Quality) : Client.room ⟨c.waiting ++ [entry]⟩ = n := by
        rw [Client.room_concat, hroom, Nat.add_sub_cancel]
      rw [subscribeDevices, Client.subscribe?_eq_some (hroom ▸ Nat.succ_pos n)]
      simp only [ih, hleft, List.length_cons, List.take_succ_cons, List.map_cons,
        List.append_assoc, List.singleton_append, Nat.add_min_add_right]

/-- A client that was just made subscribes to the first devices in their order, as many as its
queue has places, and so to all of them exactly if there are no more. -/
theorem subscribeDevices_fresh (template : String) (level : UInt8) (devices : List String) :
    subscribeDevices template level devices Client.fresh
        = (min devices.length queueCapacity,
            ⟨(devices.take queueCapacity).map fun serialNumber =>
              (Topic.forDevice template serialNumber, Quality.ofLevel level)⟩) ∧
      ((subscribeDevices template level devices Client.fresh).1 = devices.length
        ↔ devices.length ≤ queueCapacity) := by
  have hfresh := subscribeDevices_eq template level devices Client.fresh
  refine ⟨hfresh, ?_⟩
  rw [hfresh]
  change min devices.length queueCapacity = devices.length ↔ _
  omega

/-- The last of 51 devices is left out. -/
theorem not_subscribes_all :
    (subscribeDevices "/app/device/property/{sn}" 1
        ((List.range 51).map fun n => "D" ++ toString n) Client.fresh).1 = 50 ∧
      ¬∀ (template : String) (level : UInt8) (devices : List String),
        (subscribeDevices template level devices Client.fresh).1 = devices.length := by
  have hcount : (subscribeDevices "/app/device/property/{sn}" 1
      ((List.range 51).map fun n => "D" ++ toString n) Client.fresh).1 = 50 := by
    rw [subscribeDevices_eq, List.length_map, List.length_range]
    rfl
  refine ⟨hcount, fun hall => ?_⟩
  have hfleet := hcount.symm.trans (hall _ _ _)
  rw [List.length_map, List.length_range] at hfleet
  exact absurd hfleet (by decide)

end PowerTelemetry.Broker
