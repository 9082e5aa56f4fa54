import PowerTelemetry.Proofs.Ingest.Sending
import PowerTelemetry.Proofs.Json.Members
/-!
# JSON messages end to end

A JSON message reports the members of its `params`, if that is an object, and else its
own members without `params` (`Reports`).  A reported member becomes an attribute if it
is of a kind that a value can hold (`Json.IsStorable`): all numbers of a text are
finite, so none is left out for its size.

* `exists_ofJson` and `isStorable_of_ofJson` say which members have values, and
  `get?_reportedBy_iff` which attributes members make.
* `reports_iff` says that the members that are taken are those that are reported.
* `message_json` is the result.
-/

namespace PowerTelemetry

/-! ## Values -/

/-- A kind of JSON that a value can hold. -/
def Json.IsStorable : Json → Prop
  | .string _ | .number _ | .array _ | .object _ => True
  | .null | .bool _ => False

instance : DecidablePred Json.IsStorable
  | .string _ | .number _ | .array _ | .object _ => .isTrue trivial
  | .null | .bool _ => .isFalse id

namespace Value

variable {name : String} {j : Json}

/-- A finite double has a value. -/
theorem exists_ofBinary64 {x : Binary64} (name : String) (h : x.isFinite) :
    ∃ value, ofBinary64 name x = .ok value := by
  rw [ofBinary64, if_neg (by simp [h])]
  cases x.int64? with
  | some i => exact ⟨_, rfl⟩
  | none => exact ⟨_, rfl⟩

theorem exists_ofNumber {n : JsonNumber} (name : String) (h : n.IsFinite) :
    ∃ value, ofNumber name n = .ok value := by
  cases n with
  | natural n =>
    rw [ofNumber]
    split
    · exact ⟨_, rfl⟩
    · exact exists_ofBinary64 name (Binary64.isFinite_ofNat n.toNat_lt)
  | negative i => exact ⟨_, rfl⟩
  | float x => exact exists_ofBinary64 name h

/-- What can be held and has only finite numbers has a value. -/
theorem exists_ofJson (name : String) (hfinite : j.Finite) (h : j.IsStorable) :
    ∃ value, ofJson name j = .ok value := by
  cases hfinite with
  | null => exact h.elim
  | bool b => exact h.elim
  | number finite => exact exists_ofNumber name finite
  | string s => exact ⟨_, rfl⟩
  | array finite => exact ⟨_, rfl⟩
  | object finite => exact ⟨_, rfl⟩

theorem isStorable_of_ofJson {value : Value} (h : ofJson name j = .ok value) : j.IsStorable := by
  cases j with
  | null => cases h
  | bool b => cases h
  | _ => trivial

end Value

/-! ## Attributes -/

theorem Sample.deviceId_make (now : Instant) (deviceId : String) (reported : Dict Value) :
    (make now deviceId reported).deviceId = deviceId := by
  simp only [make]
  split <;> rfl

/-- What a sample has under a name that its source did not report: one of the two
attributes that every sample has, or nothing. -/
def Sample.injected? (now : Instant) (deviceId name : String) : Option Value :=
  if name = Column.serialNumberName then some (.text deviceId)
  else if name = Column.timestampName then some (.timestamp now)
  else none

/-- What is reported is an attribute. -/
theorem Sample.get?_make_eq_or (now : Instant) (deviceId : String) (reported : Dict Value)
    (name : String) :
    (make now deviceId reported).attributes.get? name
      = (reported.get? name).or (injected? now deviceId name) := by
  rw [get?_make, injected?]
  split
  · rename_i hname
    rw [hname]
    cases reported.get? Column.serialNumberName <;> rfl
  · split
    · rename_i hname
      rw [hname]
      cases reported.get? Column.timestampName <;> rfl
    · rw [Option.or_none]

/-- The attributes that members make are their values, under their names. -/
theorem Sample.get?_reportedBy_iff {members : List (String × Json)}
    (hnames : (members.map (·.1)).Nodup) (name : String) (value : Value) :
    (reportedBy members).get? name = some value ↔
      ∃ j, (name, j) ∈ members ∧ Value.ofJson name j = .ok value := by
  rw [reportedBy, Dict.get?_ofList_eq_some_iff, List.mem_filterMap]
  · constructor
    · rintro ⟨⟨path, j⟩, hmem, hmade⟩
      cases hvalue : Value.ofJson path j with
      | error error => simp [hvalue] at hmade
      | ok found =>
        simp only [hvalue, Option.some.injEq, Prod.mk.injEq] at hmade
        obtain ⟨rfl, rfl⟩ := hmade
        exact ⟨j, hmem, hvalue⟩
    · rintro ⟨j, hmem, hvalue⟩
      exact ⟨(name, j), hmem, by simp only [hvalue]⟩
  · refine List.pairwise_map.mpr ((List.pairwise_map.mp hnames).filterMap _ ?_)
    intro m m' hne a ha b hb heq
    cases hvalue : Value.ofJson m.1 m.2 with
    | error error => simp [hvalue] at ha
    | ok found =>
      cases hvalue' : Value.ofJson m'.1 m'.2 with
      | error error => simp [hvalue'] at hb
      | ok found' =>
        simp only [hvalue, hvalue', Option.some.injEq] at ha hb
        rw [← ha, ← hb] at heq
        exact hne heq

/-! ## Messages -/

namespace Ingest

variable {members : List (String × Json)} {payload : List UInt8} {name : String} {j : Json}

/-- The members that a JSON message reports: those of its `params`, if that is an object,
and else all but its `params`. -/
inductive Reports (members : List (String × Json)) (name : String) (j : Json) : Prop where
  | lifted {inner : List (String × Json)} (params : ("params", .object inner) ∈ members)
      (member : (name, j) ∈ inner)
  | direct (bare : ∀ inner, ("params", .object inner) ∉ members) (other : name ≠ "params")
      (member : (name, j) ∈ members)

/-- The members that are taken are those that are reported. -/
theorem reports_iff (hnames : (members.map (·.1)).Nodup) (name : String) (j : Json) :
    Reports members name j ↔ (name, j) ∈ attributesOf members := by
  have hparams := Json.member?_eq_some_iff hnames "params"
  rw [attributesOf]
  split
  · rename_i inner hinner
    constructor
    · intro h
      cases h with
      | lifted params member =>
        obtain rfl := Json.object.inj (Option.some.inj (hinner.symm.trans ((hparams _).mpr params)))
        exact member
      | direct bare => exact absurd ((hparams _).mp hinner) (bare inner)
    · exact .lifted ((hparams _).mp hinner)
  · rename_i hnone
    constructor
    · intro h
      cases h with
      | lifted params => exact absurd ((hparams _).mpr params) (hnone _)
      | direct _ other member => exact List.mem_filter.mpr ⟨member, decide_eq_true other⟩
    · intro h
      obtain ⟨member, other⟩ := List.mem_filter.mp h
      exact .direct (fun inner params => hnone inner ((hparams _).mpr params))
        (of_decide_eq_true other) member

/-- The members that are taken have different names. -/
theorem nodup_names_attributesOf {k : Json} (h : k.canonical = .object members) :
    ((attributesOf members).map (·.1)).Nodup := by
  have hnames := Json.nodup_names_of_canonical h
  rw [attributesOf]
  split
  · rename_i inner hinner
    have hmem := (Json.member?_eq_some_iff hnames _ _).mp hinner
    obtain ⟨_, -, hcanonical⟩ := Json.exists_of_canonical_eq_object h
    obtain ⟨l, hl⟩ := hcanonical _ hmem
    exact Json.nodup_names_of_canonical hl.symm
  · exact hnames.sublist ((List.filter_sublist).map _)

/-- All numbers that are reported are finite. -/
theorem Reports.finite (h : Reports members name j) (hfinite : Json.Finite (.object members)) :
    j.Finite := by
  cases hfinite with
  | object hmembers =>
    cases h with
    | lifted params member =>
      cases hmembers _ params with
      | object hinner => exact hinner _ member
    | direct _ _ member => exact hmembers _ member

theorem exists_of_jsonObject? (h : jsonObject? payload = some members) :
    ∃ k : Json, k.canonical = .object members ∧ Json.Finite (.object members) := by
  rw [jsonObject?] at h
  split at h
  · rename_i l hobject
    obtain rfl := Option.some.inj h
    obtain ⟨s, -, hparse⟩ := Option.bind_eq_some_iff.mp hobject
    obtain ⟨k, -, hk⟩ := Option.map_eq_some_iff.mp hparse
    exact ⟨k, hk, Json.finite_of_parse? hparse⟩
  · cases h

/-- JSON messages end to end.  A message that is a JSON object makes one request, to the
destination of what a device pushes.  The attributes of its sample are the members that
are reported and of a kind that can be held, each with its value under its own name, and
the serial number and the timestamp where no such member has this name.  The request
goes out unless the receiver is gone. -/
theorem message_json (i : Ingest) (now : Instant) (topic serialNumber : String)
    (payload : List UInt8) (members : List (String × Json)) (s : Intake)
    (htopic : Topic.serialNumber? i.template topic = some serialNumber)
    (hjson : jsonObject? payload = some members) :
    ∃ sample : Sample, sample.deviceId = serialNumber ∧
      (∀ name j, Reports members name j → j.IsStorable →
        ∃ value, Value.ofJson name j = .ok value ∧ sample.attributes.get? name = some value) ∧
      (∀ name, (∀ j, Reports members name j → ¬j.IsStorable) →
        sample.attributes.get? name = Sample.injected? now serialNumber name) ∧
      let request : StoreRequest := ⟨i.naming.push serialNumber, sample⟩
      let counters := s.counters.countPushed serialNumber
      let taken := i.message now topic payload s
      (s.outbox.remaining ≠ some 0 → taken.1 = .ok 1 ∧ taken.2.counters = counters ∧
        taken.2.outbox.sent = s.outbox.sent ++ [request]) ∧
      (s.outbox.remaining = some 0 →
        taken = (.error (.queueClosed request.destination), ⟨counters, s.outbox⟩)) := by
  obtain ⟨k, hcanonical, hfinite⟩ := exists_of_jsonObject? hjson
  have hnames := Json.nodup_names_of_canonical hcanonical
  have hattribute (name : String) := Sample.get?_make_eq_or now serialNumber
    (Sample.reportedBy (attributesOf members)) name
  have hreported (name : String) (value : Value) :
      (Sample.reportedBy (attributesOf members)).get? name = some value ↔
        ∃ j, Reports members name j ∧ Value.ofJson name j = .ok value := by
    simp only [reports_iff hnames]
    exact Sample.get?_reportedBy_iff (nodup_names_attributesOf hcanonical) name value
  have hpushed : i.pushed now serialNumber payload = [i.jsonRequest now serialNumber members] := by
    rw [pushed, hjson]
  have htaken := message_eq_of_pushed htopic hpushed s
  rw [Outbox.sendAll_singleton] at htaken
  refine ⟨(i.jsonRequest now serialNumber members).sample, Sample.deviceId_make _ _ _,
    ?_, ?_, ?_, ?_⟩
  · intro name j hreports hstorable
    obtain ⟨value, hvalue⟩ := Value.exists_ofJson name (hreports.finite hfinite) hstorable
    have hget := (hreported name value).mpr ⟨j, hreports, hvalue⟩
    exact ⟨value, hvalue, (hattribute name).trans (by rw [hget, Option.some_or])⟩
  · intro name hnot
    have hnone : (Sample.reportedBy (attributesOf members)).get? name = none := by
      refine Option.eq_none_iff_forall_ne_some.mpr fun value hvalue => ?_
      obtain ⟨j, hreports, hof⟩ := (hreported name value).mp hvalue
      exact hnot j hreports (Value.isStorable_of_ofJson hof)
    exact (hattribute name).trans (by rw [hnone, Option.none_or])
  · intro hthere
    obtain ⟨hsent, hout⟩ := Outbox.send_of_there hthere (i.jsonRequest now serialNumber members)
    rw [htaken, hsent]
    exact ⟨rfl, rfl, hout⟩
  · intro hgone
    rw [htaken, Outbox.send_of_gone hgone]
    rfl

/-- A message of a plug. -/
private def plugPayload : List UInt8 :=
  Text.utf8 "\x7b\"on\":true,\"watts\":5\x7d"

theorem message_json_plugPayload :
    let taken := Ingest.message ⟨⟨"", none⟩, "/app/device/property/{sn}"⟩ ⟨0, 0⟩
      "/app/device/property/HW51" plugPayload ⟨Counters.empty, Outbox.opened⟩
    taken.1 = .ok 1 ∧ ∃ sample, taken.2.outbox.sent = [⟨"hw51_mqtt", sample⟩] ∧
      (sample.attributes.get? "watts").isSome ∧ sample.attributes.get? "on" = none := by
  intro taken
  have hshape : (jsonObject? plugPayload).any fun members =>
      decide ("params" ∉ members.map (·.1) ∧
        (∃ m ∈ members, m.1 = "watts" ∧ m.2.IsStorable) ∧
        ∀ m ∈ members, m.1 = "on" → ¬m.2.IsStorable) := by
    decide +kernel
  obtain ⟨members, hjson, hmembers⟩ := (Option.any_eq_true _ _).mp hshape
  obtain ⟨hbare, ⟨⟨_, j⟩, hwatts, rfl, hstorable⟩, hon⟩ := of_decide_eq_true hmembers
  obtain ⟨sample, -, hstored, hleft, hsent, -⟩ := message_json
    ⟨⟨"", none⟩, "/app/device/property/{sn}"⟩ ⟨0, 0⟩ "/app/device/property/HW51" "HW51"
    plugPayload members ⟨Counters.empty, Outbox.opened⟩ (by decide +kernel) hjson
  obtain ⟨hok, -, hout⟩ := hsent (by decide)
  have hnaming : Naming.push ⟨"", none⟩ "HW51" = "hw51_mqtt" := by decide +kernel
  refine ⟨hok, sample, by rw [hout, hnaming]; rfl, ?_, ?_⟩
  · obtain ⟨value, -, hget⟩ := hstored "watts" j
      (.direct (fun _ params => hbare (List.mem_map_of_mem params)) (by decide) hwatts) hstorable
    rw [hget, Option.isSome_some]
  · refine hleft "on" fun j hreports => ?_
    cases hreports with
    | lifted params => exact absurd (List.mem_map_of_mem params) hbare
    | direct _ _ member => exact hon _ member rfl

/-- A message whose `params` are a text, which is no attribute of its sample. -/
theorem message_json_switched :
    let payload := Text.utf8 "\x7b\"params\":\"on\",\"watts\":5\x7d"
    let taken := Ingest.message ⟨⟨"", none⟩, "/app/device/property/{sn}"⟩ ⟨0, 0⟩
      "/app/device/property/HW51" payload ⟨Counters.empty, Outbox.opened⟩
    ((jsonObject? payload).map fun members => members.map fun m => (m.1, m.2.compact))
        = some [("params", "\"on\""), ("watts", "5")] ∧
      (taken.2.outbox.sent.map fun r => (r.destination, r.sample.attributes.names))
        = [("hw51_mqtt", ["serial_number", "timestamp", "watts"])] := by
  decide +kernel

end Ingest

end PowerTelemetry
