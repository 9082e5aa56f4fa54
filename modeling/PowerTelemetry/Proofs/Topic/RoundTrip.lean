import PowerTelemetry.Proofs.Search.Pieces
import PowerTelemetry.Settings
/-!
# Topics of devices and the serial numbers in them

`Topic.forDevice` fills in the placeholder wherever it stands,
`Topic.serialNumber?` looks for it as a whole segment.

* `serialNumber?_forDevice`: the serial number that is found in the topic of a
  device, whatever the template.
* `roundTrips_iff`: all devices are found by their topics just when the
  placeholder is a whole segment of the template.
* `not_roundTrips_dashed`: there are settings that break no rule and whose
  template has the placeholder inside of a segment.
-/

namespace PowerTelemetry.Topic

/-! ## Segments of a device's topic -/

theorem toList_forDevice (template serialNumber : String) :
    (forDevice template serialNumber).toList =
      Search.replaceAll '\x7b' ['s', 'n', '\x7d'] serialNumber.toList template.toList :=
  String.toList_ofList

@[simp]
theorem forDevice_placeholder (serialNumber : String) :
    forDevice placeholder serialNumber = serialNumber := by
  have h := Search.replaceAll_self '\x7b' ['s', 'n', '\x7d'] serialNumber.toList
  rw [forDevice, show placeholder.toList = ['\x7b', 's', 'n', '\x7d'] from rfl, h,
    String.ofList_toList]

/-- The segments of a device's topic are those of the template, with the serial
number put in each. -/
theorem segments_forDevice {serialNumber : String} (h : '/' ∉ serialNumber.toList)
    (template : String) :
    segments (forDevice template serialNumber) =
      (segments template).map (forDevice · serialNumber) := by
  have hrun : '/' ∉ ['\x7b', 's', 'n', '\x7d'] := by decide
  have hpieces := Search.splitAt_replaceAll hrun h template.toList
  simp only [segments, toList_forDevice, hpieces, List.map_map]
  refine List.map_congr_left fun piece _ => ?_
  simp only [Function.comp_apply, forDevice, String.toList_ofList]

theorem segments_ne_nil (topic : String) : segments topic ≠ [] := by
  obtain ⟨piece, pieces, h, -⟩ := Search.exists_cons_of_splitAt '/' topic.toList
  simp [segments, h]

/-- What stands at the place of the placeholder is what it was filled with. -/
theorem atPlaceholder?_map (fill : String → String) (template : List String) :
    atPlaceholder? template (template.map fill) =
      if placeholder ∈ template then some (fill placeholder) else none := by
  induction template with
  | nil => rfl
  | cons t template ih =>
    rw [List.map_cons, atPlaceholder?, ih]
    by_cases ht : t = placeholder
    · simp [ht]
    · simp [ht, Ne.symm ht]

theorem nonempty?_of_ne {s : String} (h : s ≠ "") : nonempty? s = some s := by
  rw [nonempty?, if_neg (by simpa using h)]

theorem eq_of_nonempty? {s t : String} (h : nonempty? s = some t) : s = t := by
  rw [nonempty?] at h
  split at h
  · cases h
  · exact Option.some.inj h

/-! ## The serial number that is found -/

/-- The serial number found in the topic of a device: its own if the placeholder
is a segment of the template, else what the last segment of the template becomes
for the device. -/
theorem serialNumber?_forDevice (template : String) {serialNumber : String}
    (hne : serialNumber ≠ "") (hslash : '/' ∉ serialNumber.toList) :
    serialNumber? template (forDevice template serialNumber) =
      if placeholder ∈ segments template then some serialNumber
      else (segments template).getLast?.bind fun last => nonempty? (forDevice last serialNumber) := by
  rw [serialNumber?, segments_forDevice hslash]
  simp only [List.length_map, if_true, atPlaceholder?_map, forDevice_placeholder, List.getLast?_map]
  by_cases h : placeholder ∈ segments template
  · simp only [if_pos h, nonempty?_of_ne hne]
  · simp only [if_neg h, Option.bind_map]
    rfl

/-- A segment that becomes the name of a device of one letter is that letter or
the placeholder. -/
theorem eq_of_forDevice_eq_singleton {segment : String} {c : Char}
    (h : forDevice segment (String.singleton c) = String.singleton c) :
    segment = String.singleton c ∨ segment = placeholder := by
  have hlist := congrArg String.toList h
  rw [toList_forDevice, String.toList_singleton] at hlist
  refine (Search.eq_of_replaceAll_eq_singleton hlist).imp (fun hs => ?_) fun hs => ?_
  · exact String.toList_inj.mp (hs.trans (String.toList_singleton c).symm)
  · exact String.toList_inj.mp hs

/-! ## The round trip -/

/-- Every device is found by its topic.  Serial numbers are not empty and have no
slash. -/
def RoundTrips (template : String) : Prop :=
  ∀ serialNumber : String, serialNumber ≠ "" → '/' ∉ serialNumber.toList →
    serialNumber? template (forDevice template serialNumber) = some serialNumber

/-- Devices are found by their topics just when the placeholder is a whole
segment of the template. -/
theorem roundTrips_iff (template : String) :
    RoundTrips template ↔ placeholder ∈ segments template := by
  constructor
  · intro hall
    by_contra hmem
    obtain ⟨last, hlast⟩ := List.getLast?_isSome.mpr (segments_ne_nil template)
      |> Option.isSome_iff_exists.mp
    -- the last segment would have to turn into the name of any device
    have hname {c : Char} (hc : c ≠ '/') : last = String.singleton c := by
      have hslash : '/' ∉ (String.singleton c).toList := by simpa using Ne.symm hc
      have hne : String.singleton c ≠ "" := by simp
      have h := hall _ hne hslash
      rw [serialNumber?_forDevice template hne hslash, if_neg hmem, hlast] at h
      exact (eq_of_forDevice_eq_singleton (eq_of_nonempty? h)).resolve_right fun hp =>
        hmem (hp ▸ List.mem_of_getLast? hlast)
    have hx : last = String.singleton 'x' := hname (by decide)
    have hy : last = String.singleton 'y' := hname (by decide)
    exact absurd (hx.symm.trans hy) (by decide)
  · intro hmem serialNumber hne hslash
    rw [serialNumber?_forDevice template hne hslash, if_pos hmem]

/-- Settings whose template has the placeholder inside of a segment. -/
def dashed : Settings where
  broker := { (default : BrokerSettings) with topicTemplate := "/open/dev-\x7bsn\x7d/quota" }
  database := { (default : DatabaseSettings) with url := "postgres://db", queueCapacity := 100 }
  cloud := .standard
  polling := .standard
  throttle := .standard
  reports := .standard

/-- Settings are accepted although a device is taken for another one. -/
theorem not_roundTrips_dashed :
    dashed.broken? = none ∧
      forDevice dashed.broker.topicTemplate "HW51" = "/open/dev-HW51/quota" ∧
      serialNumber? dashed.broker.topicTemplate "/open/dev-HW51/quota" = some "quota" ∧
      ¬ RoundTrips dashed.broker.topicTemplate := by
  have htopic : forDevice dashed.broker.topicTemplate "HW51" = "/open/dev-HW51/quota" := by
    decide +kernel
  have hfound : serialNumber? dashed.broker.topicTemplate "/open/dev-HW51/quota" = some "quota" := by
    decide +kernel
  refine ⟨by decide +kernel, htopic, hfound, fun h => ?_⟩
  have hown := h "HW51" (by decide) (by decide)
  rw [htopic, hfound] at hown
  exact absurd hown (by decide)

end PowerTelemetry.Topic
