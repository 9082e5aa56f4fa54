import PowerTelemetry.Dict
import PowerTelemetry.Proofs.Json.Numbers
/-!
# Canonical form

The members of an object in canonical form are the entries of a `Dict`: in ascending
order of their names, each name once (`canonical_object`).  So a member is found under
its name just if it is there (`member?_eq_some_iff`).

Canonical form changes no number, so the numbers of a text in canonical form are finite
too (`Finite.canonical`, `finite_of_parse?`).
-/

namespace PowerTelemetry.Json

/-! ## Members -/

theorem putMember_eq_put (name : String) (value : Json) (members : List (String × Json)) :
    putMember name value members = Dict.put name value members := by
  induction members with
  | nil => rfl
  | cons m rest ih => rw [putMember, Dict.put, ih]

theorem member?_eq_lookup (name : String) (members : List (String × Json)) :
    member? name members = Dict.lookup name members := by
  induction members with
  | nil => rfl
  | cons m rest ih => rw [member?, Dict.lookup, ih]

theorem canonicalItems_eq_map (items : List Json) :
    canonicalItems items = items.map canonical := by
  induction items with
  | nil => rfl
  | cons item rest ih => rw [canonicalItems, ih, List.map_cons]

theorem canonicalMembers_eq_map (members : List (String × Json)) :
    canonicalMembers members = members.map fun m => (m.1, canonical m.2) := by
  induction members with
  | nil => rfl
  | cons m rest ih => rw [canonicalMembers, ih, List.map_cons]

private theorem foldl_putMember (l : List (String × Json)) (d : Dict Json) :
    l.foldl (fun members m => putMember m.1 m.2 members) d.entries
      = (l.foldl (fun d m => d.insert m.1 m.2) d).entries := by
  induction l generalizing d with
  | nil => rfl
  | cons m rest ih =>
    rw [List.foldl_cons, List.foldl_cons, putMember_eq_put]
    exact ih (d.insert m.1 m.2)

/-- An object in canonical form. -/
theorem canonical_object (members : List (String × Json)) :
    canonical (.object members)
      = .object (Dict.ofList (members.map fun m => (m.1, canonical m.2))).entries := by
  rw [canonical, canonicalMembers_eq_map]
  exact congrArg Json.object (foldl_putMember _ Dict.empty)

/-- Only an object becomes one. -/
theorem exists_of_canonical_eq_object {j : Json} {members : List (String × Json)}
    (h : canonical j = .object members) :
    ∃ d : Dict Json, members = d.entries ∧ ∀ m ∈ members, ∃ k, m.2 = canonical k := by
  cases j with
  | object written =>
    rw [canonical_object] at h
    obtain rfl := Json.object.inj h
    refine ⟨_, rfl, fun m hm => ?_⟩
    have hput := Dict.mem_of_get?_ofList ((Dict.get?_eq_some_iff _ _ _).mpr hm)
    obtain ⟨w, -, heq⟩ := List.mem_map.mp hput
    exact ⟨w.2, (Prod.mk.inj heq).2.symm⟩
  | null | bool | number | string | array => simp [canonical] at h

theorem nodup_names_of_canonical {j : Json} {members : List (String × Json)}
    (h : canonical j = .object members) : (members.map (·.1)).Nodup := by
  obtain ⟨d, rfl, -⟩ := exists_of_canonical_eq_object h
  refine List.pairwise_map.mpr (d.sorted.imp fun hlt heq => ?_)
  rw [heq] at hlt
  exact String.lt_irrefl _ hlt

/-- Members with different names are found. -/
theorem member?_eq_some_iff {members : List (String × Json)}
    (hnames : (members.map (·.1)).Nodup) (name : String) (j : Json) :
    member? name members = some j ↔ (name, j) ∈ members := by
  rw [member?_eq_lookup, Dict.lookup_eq_some_iff hnames]

/-! ## Numbers -/

theorem Finite.canonical {j : Json} (h : Finite j) : Finite (canonical j) := by
  induction h with
  | array _ ih =>
    rw [Json.canonical, canonicalItems_eq_map]
    exact .array (List.forall_mem_map.mpr ih)
  | object _ ih =>
    rw [canonical_object]
    refine .object fun m hm => ?_
    have hput := Dict.mem_of_get?_ofList ((Dict.get?_eq_some_iff _ _ _).mpr hm)
    obtain ⟨w, hw, heq⟩ := List.mem_map.mp hput
    rw [← (Prod.mk.inj heq).2]
    exact ih w hw
  | null => exact .null
  | bool b => exact .bool b
  | number finite => exact .number finite
  | string s => exact .string s

/-- All numbers that a text spells are finite, in canonical form too. -/
theorem finite_of_parse? {s : String} {j : Json} (h : parse? s = some j) : Finite j := by
  obtain ⟨k, hread, rfl⟩ := Option.map_eq_some_iff.mp h
  exact (finite_of_read? hread).canonical

end PowerTelemetry.Json
