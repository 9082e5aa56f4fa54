import PowerTelemetry.Cloud.Client
import PowerTelemetry.Control.Log
import PowerTelemetry.Proofs.Binary64.Finite
import PowerTelemetry.Proofs.Control.Request
import PowerTelemetry.Proofs.Settings.Rules
/-!
# Set-points of a throttle

The commands of a controller whose limits come from settings that were read.  A
device is told a whole number of watts between the limits, which is one that
devices take (`checkSetpoint_ofNat`) and of which it gets exactly ten times as
many tenths (`setpointBody_ofNat`).

The main statement is `commands_of_completed`: it says of every cycle that comes
to its end when the device is told something, and what it is told.  Plants are
arbitrary, so readings and answers are, and so is what sums beyond the range come to.
-/

namespace PowerTelemetry

/-! ## What a device is told -/

namespace Cloud

/-- Devices take every whole number of watts up to the greatest set-point. -/
theorem checkSetpoint_ofNat {n : Nat} (hn : n ≤ 6000) :
    checkSetpoint (Binary64.ofNat n) = .ok (Binary64.ofNat n) := by
  have hfinite : (Binary64.ofNat n).isFinite := Binary64.isFinite_ofNat (by omega)
  have hlow : (Binary64.ofNat 0).le (Binary64.ofNat n) :=
    (Binary64.le_ofNat_iff (by omega) (by omega)).mpr (Nat.zero_le n)
  have hhigh : (Binary64.ofNat n).le maxSetpoint :=
    (Binary64.le_ofNat_iff (by omega) (by omega)).mpr hn
  simp only [checkSetpoint, hfinite, hlow, hhigh, Bool.and_self, if_true]

/-- The tenths of a whole number of watts. -/
theorem toInt_deciwatts_ofNat {n : Nat} (hpos : 0 < n) (hn : n ≤ 6000) :
    (deciwatts (Binary64.ofNat n)).toInt = (n * 10 : Nat) := by
  rw [deciwatts, Binary64.mul_ofNat hpos (by omega) (by omega) (by omega)]
  exact Binary64.toInt_roundToInt64_ofNat (by omega)

/-- The body for a whole number of watts, with the tenths in it. -/
theorem setpointBody_ofNat (serialNumber : String) {n : Nat} (hpos : 0 < n) (hn : n ≤ 6000) :
    setpointBody serialNumber (Binary64.ofNat n)
      = .object
          [("cmdCode", .string "WN511_SET_PERMANENT_WATTS_PACK"),
           ("params", .object [("permanentWatts", .number (.natural (UInt64.ofNat (n * 10))))]),
           ("sn", .string serialNumber)] := by
  have htenths := toInt_deciwatts_ofNat hpos hn
  have hsign : ¬((n * 10 : Nat) : Int) < 0 := by omega
  rw [setpointBody, jsonInteger, htenths, if_neg hsign, Int.toNat_natCast]

end Cloud

namespace Control

variable {σ : Type} {a : Arithmetic}

/-- A command that a throttle may give: its device, and a whole number of watts
above the floor and up to the ceiling, all of it as the cloud takes it. -/
structure SafeCommand (t : ThrottleSettings) (watts : Int) (command : String × Binary64) :
    Prop where
  device : command.1 = t.inverter
  above_floor : t.baseWatts.toInt < watts
  below_ceiling : watts ≤ t.maxWatts.toInt
  ceiling : t.maxWatts.toInt ≤ 6000
  setpoint : command.2 = Binary64.ofInt watts
  taken : Cloud.checkSetpoint command.2 = .ok command.2
  /-- What any client sends at any moment to give the command. -/
  body : ∀ (client : Cloud.Client) (moment : Cloud.Moment), ∃ tenths : UInt64,
    (tenths.toNat : Int) = 10 * watts ∧
    (client.setpointRequest moment command.1 command.2).body
      = some (.object
          [("cmdCode", .string "WN511_SET_PERMANENT_WATTS_PACK"),
           ("params", .object [("permanentWatts", .number (.natural tenths))]),
           ("sn", .string t.inverter)])

/-- Within limits that devices take, every whole number of watts above the floor
is a safe command. -/
theorem safeCommand_of_bounds {t : ThrottleSettings} {watts : Int}
    (hfloor : 0 ≤ t.baseWatts.toInt) (habove : t.baseWatts.toInt < watts)
    (hbelow : watts ≤ t.maxWatts.toInt) (hceiling : t.maxWatts.toInt ≤ 6000) :
    SafeCommand t watts (t.inverter, Binary64.ofInt watts) := by
  obtain ⟨n, rfl⟩ := Int.eq_ofNat_of_zero_le (show 0 ≤ watts by omega)
  have hpos : 0 < n := by omega
  have hn : n ≤ 6000 := by omega
  refine ⟨rfl, habove, hbelow, hceiling, rfl, ?_, fun client moment => ?_⟩
  · rw [Binary64.ofInt_natCast]
    exact Cloud.checkSetpoint_ofNat hn
  · refine ⟨UInt64.ofNat (n * 10), ?_, ?_⟩
    · rw [UInt64.toNat_ofNat', Nat.mod_eq_of_lt (by omega)]
      omega
    · rw [Binary64.ofInt_natCast]
      exact congrArg some (Cloud.setpointBody_ofNat t.inverter hpos hn)

/-! ## Cycles -/

namespace Controller

theorem commands_of_setpoint_none {c : Controller} {decision : Option Decision}
    (h : decision.bind (·.setpoint) = none) : c.commands decision = [] := by
  rw [commands, h]

theorem commands_of_dryRun {c : Controller} (h : c.dryRun = true) (decision : Option Decision) :
    c.commands decision = [] := by
  rw [commands]
  cases decision.bind (·.setpoint) with
  | none => rfl
  | some watts => simp only [h, if_true]

/-- A set-point that devices take is told to the device. -/
theorem commands_of_setpoint {c : Controller} {decision : Option Decision} {watts : Int}
    (hdry : c.dryRun = false) (h : decision.bind (·.setpoint) = some watts)
    (htaken : Cloud.checkSetpoint (Binary64.ofInt watts) = .ok (Binary64.ofInt watts)) :
    c.commands decision = [(c.serialNumber, Binary64.ofInt watts)] := by
  rw [commands, h]
  simp only [hdry, htaken, Bool.false_eq_true, if_false]

/-- The decision of a cycle is that of the window it reads, and none if it reads
none. -/
theorem decision_of_cycle {c : Controller} {plant : Plant σ} {s next : σ}
    {decision : Option Decision} (h : a.cycle c plant s = .ok (decision, next)) :
    match (plant.read c.window s).1 with
    | .error _ => decision = none
    | .ok window => a.decide? c.limits window = .ok decision := by
  rw [Arithmetic.cycle] at h
  rcases hread : plant.read c.window s with ⟨window, rest⟩
  rw [hread] at h
  cases window with
  | error error =>
    obtain ⟨rfl, _⟩ := Prod.mk.inj (Except.ok.inj h)
    rfl
  | ok window =>
    simp only at h ⊢
    cases hdecide : a.decide? c.limits window with
    | error fault => simp [hdecide] at h
    | ok found =>
      rw [hdecide] at h
      obtain ⟨rfl, _⟩ := Prod.mk.inj (Except.ok.inj h)
      rfl

end Controller

/-- The commands of a throttle after the decision of a window: none in a dry run
or at the floor, and otherwise the one that asks for the request. -/
theorem commands_of_decide? {t : ThrottleSettings} {window : List Reading} {d : Decision}
    (hfloor : 0 ≤ t.baseWatts.toInt) (hceiling : t.maxWatts.toInt ≤ 6000)
    (h : a.decide? t.limits window = .ok (some d)) :
    (t.controller.commands (some d) = [] ∧
        (t.dryRun = true ∨ d.request = t.baseWatts.toInt)) ∨
      (t.controller.commands (some d) = [(t.inverter, Binary64.ofInt d.request)] ∧
        t.dryRun = false ∧
        SafeCommand t d.request (t.inverter, Binary64.ofInt d.request)) := by
  have hbounds : t.baseWatts.toInt ≤ d.request ∧ d.request ≤ t.maxWatts.toInt := request_bounds h
  have hsetpoint : d.setpoint = if t.baseWatts.toInt < d.request then some d.request else none :=
    setpoint_eq h
  cases hdry : t.dryRun with
  | true => exact .inl ⟨Controller.commands_of_dryRun hdry _, .inl rfl⟩
  | false =>
    by_cases habove : t.baseWatts.toInt < d.request
    · rw [if_pos habove] at hsetpoint
      have hsafe := safeCommand_of_bounds hfloor habove hbounds.2 hceiling
      exact .inr ⟨Controller.commands_of_setpoint hdry hsetpoint hsafe.taken, rfl, hsafe⟩
    · rw [if_neg habove] at hsetpoint
      exact .inl ⟨Controller.commands_of_setpoint_none hsetpoint, .inr (by omega)⟩

/-- Every cycle that comes to its end reads one window and decides by it.  In a
dry run, without readings and at the floor the device is told nothing; otherwise
it is told the request, once.  What it is told is safe. -/
theorem commands_of_completed {env : Environment} {text : String} {s : Settings}
    (h : Settings.ofText env text = .ok s) (plant : Plant σ) (times : List Nat) (start : σ)
    (entry : Completed) (hentry : entry ∈ a.completed s.throttle.controller plant times start) :
    ∃ window : Except StoreError (List Reading),
      entry.log.reads = [window] ∧
      (match window with
        | .error _ => entry.decision = none
        | .ok readings => a.decide? s.throttle.limits readings = .ok entry.decision) ∧
      (s.throttle.dryRun = true ∨ (∃ e, window = .error e) ∨ window = .ok [] ∨
          (∃ d, entry.decision = some d ∧ d.request = s.throttle.baseWatts.toInt) →
        entry.log.commands = []) ∧
      (∀ d, s.throttle.dryRun = false → entry.decision = some d →
          s.throttle.baseWatts.toInt < d.request →
        entry.log.commands = [(s.throttle.inverter, Binary64.ofInt d.request)]) ∧
      entry.log.commands.length ≤ 1 ∧
      ∀ command ∈ entry.log.commands, ∃ watts, SafeCommand s.throttle watts command := by
  obtain ⟨hfloor, _, hceiling⟩ := Settings.throttle_bounds_of_ofText h
  obtain ⟨state, next, hcycle, hlog⟩ := Arithmetic.exists_cycle_of_mem_completed hentry
  have hdecision := Controller.decision_of_cycle hcycle
  rw [hlog]
  generalize (plant.read s.throttle.controller.window state).1 = window at hdecision
  refine ⟨window, rfl, hdecision, ?_⟩
  -- Without a decision nothing is told.  A decision needs a window with a reading, so
  -- that only a dry run and the floor can keep the device from being told.
  cases hentry' : entry.decision with
  | none => simp [Controller.commands_of_setpoint_none]
  | some d =>
    rw [hentry'] at hdecision
    cases window with
    | error error => cases hdecision
    | ok readings =>
      have hreadings : readings ≠ [] := by
        rintro rfl
        cases hdecision
      rcases commands_of_decide? hfloor hceiling hdecision with
        ⟨hnone, hwhy⟩ | ⟨hone, hdry, hsafe⟩
      · refine ⟨fun _ => hnone, ?_, by simp [hnone], by simp [hnone]⟩
        rintro d' hdry hd' habove
        obtain rfl := Option.some.inj hd'
        rcases hwhy with hdry' | hat
        · rw [hdry] at hdry'
          cases hdry'
        · omega
      · have habove := hsafe.above_floor
        refine ⟨?_, ?_, by simp [hone], ?_⟩
        · rintro (hdry' | ⟨error, herror⟩ | hempty | ⟨d', hd', hat⟩)
          · rw [hdry] at hdry'
            cases hdry'
          · cases herror
          · exact absurd (Except.ok.inj hempty) hreadings
          · obtain rfl := Option.some.inj hd'
            omega
        · rintro d' _ hd' _
          obtain rfl := Option.some.inj hd'
          exact hone
        · intro command hcommand
          rw [hone, List.mem_singleton] at hcommand
          exact ⟨d.request, hcommand ▸ hsafe⟩

/-- A throttle between 100 and 6000 watts. -/
private def wideText : String :=
  "mqtt:\n  host: h\n  port: 1\ndatabase:\n  url: postgres://h/d\n" ++
    "throttle:\n  device_sn: HW51\n  base_watts: 100\n  max_watts: 6000\n"

private def wide : Settings where
  broker := ⟨true, "h", 1, none, none, none, none, "/app/device/property/" ++ Topic.placeholder, 1⟩
  database := ⟨"postgres://h/d", none, none, "", none, 100, 10⟩
  cloud := .standard
  polling := .standard
  throttle := { ThrottleSettings.standard with
    inverter := "HW51", baseWatts := 100, maxWatts := 6000 }
  reports := .standard

private theorem ofText_wideText : Settings.ofText (fun _ => none) wideText = .ok wide := by
  have hsome : (Settings.ofText (fun _ => none) wideText).toOption = some wide := by
    decide +kernel
  cases hread : Settings.ofText (fun _ => none) wideText with
  | error error =>
    rw [hread] at hsome
    cases hsome
  | ok found =>
    rw [hread] at hsome
    exact congrArg Except.ok (Option.some.inj hsome)

/-- Windows one after the other, and a device that does not answer. -/
private def scripted : Plant (List (Except StoreError (List Reading))) where
  advance _ windows := windows
  read _ windows := (windows.headD (.ok []), windows.tail)
  setPower _ _ windows := (.error .transport, windows)

/-- A house that takes more than the inverter can give. -/
private def thirsty : Reading :=
  { (default : Reading) with houseInput := 100, requested := 100, currentPower := 9000 }

/-- The first cycle cannot read, the second one asks for all there is. -/
private def thirstyCycles : List Completed :=
  Arithmetic.checked.completed wide.throttle.controller scripted [0, 30000]
    [.error (.database .poolClosed), .ok [thirsty]]

theorem commands_of_completed_wideText :
    Settings.ofText (fun _ => none) wideText = .ok wide ∧
      ∃ entry ∈ thirstyCycles, entry.log.commands = [("HW51", Binary64.ofInt 6000)] ∧
        ∃ watts, SafeCommand wide.throttle watts ("HW51", Binary64.ofInt 6000) := by
  have htwo : 1 < thirstyCycles.length := by decide +kernel
  have hdecision : ∀ h : 1 < thirstyCycles.length, thirstyCycles[1].decision
      = some ⟨100, Binary64.ofInt 9000, 9000, 9000, 6000, some 6000⟩ := by
    decide +kernel
  have hmem : thirstyCycles[1] ∈ thirstyCycles := List.getElem_mem htwo
  obtain ⟨_, _, _, _, hrequest, _, hsafe⟩ :=
    commands_of_completed ofText_wideText scripted _ _ _ hmem
  have hcommands := hrequest _ (by decide) (hdecision htwo) (by decide)
  exact ⟨ofText_wideText, _, hmem, hcommands, hsafe _ (hcommands ▸ List.mem_singleton_self _)⟩

end Control

end PowerTelemetry
