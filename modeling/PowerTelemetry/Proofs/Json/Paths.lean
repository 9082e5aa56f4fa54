import PowerTelemetry.Proofs.Json.Members
import Mathlib.Data.Set.Basic
/-!
# Paths into a value

A path leads from a value to one inside it, member by member and item by item (`at?`).
`scalars` are the strings, numbers and flags of a value, each with its path.

* `mem_scalars_array_iff` and `mem_scalars_object_iff` have the first step to a scalar.
  Members are found by their names, so these have to be different; in canonical form they
  are (`eachObject_canonical`).
* `EachObject` says something of the names in every object of a value, and with that of the
  names on paths (`EachObject.exists_names_of_at?`).
-/

namespace PowerTelemetry.Json

/-! ## Paths -/

/-- A step from a value to one inside it. -/
inductive Step where
  | member (name : String)
  | item (index : Nat)
  deriving DecidableEq, Repr

/-- The value that a step leads to. -/
def inside? : Json → Step → Option Json
  | object members, .member name => member? name members
  | array items, .item index => items[index]?
  | _, _ => none

/-- The value at the end of a path. -/
def at? (j : Json) (path : List Step) : Option Json :=
  path.foldlM inside? j

/-- A string, a number or a flag. -/
def IsScalar : Json → Prop
  | string _ | number _ | bool _ => True
  | null | array _ | object _ => False

/-- The scalars of a value and their paths. -/
def scalars (j : Json) : Set (List Step × Json) :=
  {l | j.at? l.1 = some l.2 ∧ l.2.IsScalar}

/-- A scalar is the value itself or a scalar of what is inside. -/
theorem mem_scalars_iff (j : Json) (l : List Step × Json) :
    l ∈ j.scalars ↔
      j.IsScalar ∧ l = ([], j) ∨
        ∃ s k, j.inside? s = some k ∧ ∃ rest ∈ k.scalars, l = (s :: rest.1, rest.2) := by
  obtain ⟨path, leaf⟩ := l
  cases path with
  | nil =>
    constructor
    · rintro ⟨hat, hscalar⟩
      obtain rfl : j = leaf := Option.some.inj hat
      exact .inl ⟨hscalar, rfl⟩
    · rintro (⟨hscalar, hself⟩ | ⟨s, k, -, rest, -, hnil⟩)
      · obtain ⟨-, rfl⟩ := Prod.mk.inj hself
        exact ⟨rfl, hscalar⟩
      · exact absurd (Prod.mk.inj hnil).1 (by simp)
  | cons s path =>
    constructor
    · rintro ⟨hat, hscalar⟩
      obtain ⟨k, hk, hrest⟩ := Option.bind_eq_some_iff.mp hat
      exact .inr ⟨s, k, hk, (path, leaf), ⟨hrest, hscalar⟩, rfl⟩
    · rintro (⟨-, hself⟩ | ⟨t, k, hk, rest, hrest, hcons⟩)
      · exact absurd (Prod.mk.inj hself).1 (by simp)
      · cases hcons
        exact ⟨Option.bind_eq_some_iff.mpr ⟨k, hk, hrest.1⟩, hrest.2⟩

variable {j k : Json}

theorem inside?_of_isScalar (h : j.IsScalar) (s : Step) : j.inside? s = none := by
  cases j with
  | null | array | object => exact h.elim
  | string | number | bool => rfl

theorem mem_scalars_of_isScalar (h : j.IsScalar) (l : List Step × Json) :
    l ∈ j.scalars ↔ l = ([], j) := by
  rw [mem_scalars_iff]
  simp [h, inside?_of_isScalar h]

theorem not_mem_scalars_null (l : List Step × Json) : l ∉ null.scalars := by
  rw [mem_scalars_iff]
  simp [IsScalar, inside?]

theorem mem_scalars_array_iff (items : List Json) (l : List Step × Json) :
    l ∈ (array items).scalars ↔
      ∃ index item, items[index]? = some item ∧
        ∃ rest ∈ item.scalars, l = (.item index :: rest.1, rest.2) := by
  rw [mem_scalars_iff]
  constructor
  · rintro (⟨hscalar, -⟩ | ⟨s, k, hk, hrest⟩)
    · exact hscalar.elim
    · cases s with
      | member name => cases hk
      | item index => exact ⟨index, k, hk, hrest⟩
  · rintro ⟨index, item, hitem, hrest⟩
    exact .inr ⟨.item index, item, hitem, hrest⟩

theorem mem_scalars_object_iff {members : List (String × Json)}
    (hnames : (members.map (·.1)).Nodup) (l : List Step × Json) :
    l ∈ (object members).scalars ↔
      ∃ m ∈ members, ∃ rest ∈ m.2.scalars, l = (.member m.1 :: rest.1, rest.2) := by
  rw [mem_scalars_iff]
  constructor
  · rintro (⟨hscalar, -⟩ | ⟨s, k, hk, hrest⟩)
    · exact hscalar.elim
    · cases s with
      | member name => exact ⟨(name, k), (member?_eq_some_iff hnames name k).mp hk, hrest⟩
      | item index => cases hk
  · rintro ⟨m, hm, hrest⟩
    exact .inr ⟨.member m.1, m.2, (member?_eq_some_iff hnames m.1 m.2).mpr hm, hrest⟩

/-! ## Objects inside -/

/-- What is said of lists of names is true of every object in a value. -/
inductive EachObject (p : List String → Prop) : Json → Prop where
  | null : EachObject p null
  | bool (b : Bool) : EachObject p (bool b)
  | number (n : JsonNumber) : EachObject p (number n)
  | string (s : String) : EachObject p (string s)
  | array {items : List Json} (inside : ∀ item ∈ items, EachObject p item) :
      EachObject p (array items)
  | object {members : List (String × Json)} (names : p (members.map (·.1)))
      (inside : ∀ m ∈ members, EachObject p m.2) : EachObject p (object members)

namespace EachObject

variable {p : List String → Prop} {s : Step}

theorem inside? (h : j.EachObject p) (hk : j.inside? s = some k) : k.EachObject p := by
  cases h with
  | null | bool | number | string => cases hk
  | array inside =>
    cases s with
    | member name => cases hk
    | item index => exact inside k (List.mem_of_getElem? hk)
  | object names inside =>
    cases s with
    | member name =>
      rw [Json.inside?, member?_eq_lookup] at hk
      exact inside (name, k) (Dict.mem_of_lookup hk)
    | item index => cases hk

/-- A step to a member is by one of the names of an object. -/
theorem exists_names {name : String} (h : j.EachObject p)
    (hk : j.inside? (.member name) = some k) : ∃ names, p names ∧ name ∈ names := by
  cases h with
  | null | bool | number | string | array => cases hk
  | object names inside =>
    rw [Json.inside?, member?_eq_lookup] at hk
    exact ⟨_, names, List.mem_map_of_mem (Dict.mem_of_lookup hk)⟩

/-- So are all of the steps to members on a path. -/
theorem exists_names_of_at? {name : String} {path : List Step} (h : j.EachObject p)
    (hat : j.at? path = some k) (hname : .member name ∈ path) :
    ∃ names, p names ∧ name ∈ names := by
  induction path generalizing j with
  | nil => cases hname
  | cons s path ih =>
    obtain ⟨next, hnext, hrest⟩ := Option.bind_eq_some_iff.mp hat
    rcases List.mem_cons.mp hname with rfl | hname
    · exact h.exists_names hnext
    · exact ih (h.inside? hnext) hrest hname

end EachObject

/-- The members of an object in canonical form have different names. -/
theorem eachObject_canonical : ∀ j : Json, j.canonical.EachObject List.Nodup
  | null => .null
  | bool b => .bool b
  | number n => .number n
  | string s => .string s
  | array items => by
    rw [canonical, canonicalItems_eq_map]
    exact .array (List.forall_mem_map.mpr fun item _ => eachObject_canonical item)
  | object members => by
    have hnames := nodup_names_of_canonical (canonical_object members)
    rw [canonical_object]
    refine .object hnames fun m hm => ?_
    have hput := Dict.mem_of_get?_ofList ((Dict.get?_eq_some_iff _ _ _).mpr hm)
    obtain ⟨w, hw, heq⟩ := List.mem_map.mp hput
    rw [← (Prod.mk.inj heq).2]
    exact eachObject_canonical w.2
termination_by j => sizeOf j
decreasing_by
  · have := List.sizeOf_lt_of_mem ‹_›
    simp only [array.sizeOf_spec]
    omega
  · have := List.sizeOf_lt_of_mem hw
    cases w
    simp only [object.sizeOf_spec, Prod.mk.sizeOf_spec] at *
    omega

end PowerTelemetry.Json
